import RobotsExclusion.Yaml.Value.Display

/-!
# Implementations of YAML

The file with the settings is read by an implementation of YAML, and one of its values is written
as a text. What an implementation makes of a text can depend on more than the format: it may refuse
to go down any deeper, and report faults of its own. All that depends on the file with the settings
is said about any implementation, and computed with the one that reads a text as `Value.ofText`
does.

## Main definitions

* `Yaml.Implementation` — how texts are read, and which values can be written
-/

namespace RobotsExclusion.Yaml

/-- An implementation of YAML. A value is told as it would be written, so that one that is part of
itself ends in `Value.enclosing`. -/
class Implementation where
  /-- The value of a text, or what is wrong with it. -/
  read : Text → Except Error Value
  /-- A value is not nested too deeply to be written. -/
  canWrite : Value → Bool

/-- Values are read as `Value.ofText` says, however deeply they are nested. -/
instance : Implementation := ⟨Value.ofText, fun _ => true⟩

end RobotsExclusion.Yaml
