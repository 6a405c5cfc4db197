import RobotsExclusion.Yaml.Error

/-!
# YAML tokens

The words and marks of a YAML text. The structure that indentation gives is made explicit: marks
for the starts and ends of indented collections stand among the tokens.

## Main definitions

* `Yaml.Token` — a token
-/

namespace RobotsExclusion.Yaml

/-- A word or mark of a YAML text. -/
inductive Token where
  /-- The directive for the version of the format. -/
  | version (major : Nat)
  /-- The directive that makes a handle stand for the start of tags. -/
  | handle (name stem : Text)
  /-- A directive without a meaning. -/
  | reserved
  | documentStart
  | documentEnd
  | streamEnd
  | blockSequenceStart
  | blockMappingStart
  | blockEnd
  | flowSequenceStart
  | flowSequenceEnd
  | flowMappingStart
  | flowMappingEnd
  | blockEntry
  | flowEntry
  | key
  | value
  | alias (name : Text)
  | anchor (name : Text)
  /-- A tag: its end, and the handle before it if it has one. -/
  | tag (handle : Option Text) (suffix : Text)
  | scalar (plain : Bool) (text : Text)
  /-- The text cannot be read any further. -/
  | fault (error : Error)
deriving DecidableEq

end RobotsExclusion.Yaml
