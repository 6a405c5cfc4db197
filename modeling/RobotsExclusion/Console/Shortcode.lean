import RobotsExclusion.Console.Shortcode.Table
import RobotsExclusion.Text.Blank
import RobotsExclusion.Text.LowerCase
import RobotsExclusion.Text.Width

/-!
# Shortcodes

A short name between colons is shown as a pictograph.

## Main definitions

* `Shortcode.pictograph?` — the pictograph with a name
* `Shortcode.expand` — a text with pictographs in place of their names
-/

namespace RobotsExclusion.Shortcode

/-- The endings of names that ask for the form of a pictograph, and what selects it. -/
def forms : List (Text × CodePoint) := [
  ("-emoji", CodePoint.colourSelector), ("-text", ⟨0xFE0E, by decide⟩)]

/-- The pictograph with a name. -/
def plain? (name : Text) : Option Text := do
  let s ← (Text.lower name).toString?
  let entry ← shortcodes.find? fun entry => entry.1 = s
  return Text.ofString entry.2

/-- The pictograph with a name that may ask for its form. -/
def pictograph? (name : Text) : Option Text :=
  match forms.find? fun form => form.1.isSuffixOf name with
  | some (ending, selector) =>
    (plain? (name.take (name.length - ending.length))).map (· ++ [selector])
  | none => plain? name

/-- Puts a text with pictographs behind `done`, which is in reverse order. A name holds neither
blanks nor colons, and what stands between colons is read only once. -/
def expandOnto (done : Text) : Text → Text
  | [] => done.reverse
  | c :: rest =>
    if c = ':' then
      let name := rest.takeWhile fun x => x ≠ CodePoint.ofChar ':' && !x.isBlank
      if rest[name.length]? = some (CodePoint.ofChar ':') then
        let shown := (pictograph? name).getD (c :: name ++ [c])
        expandOnto (shown.reverse ++ done) (rest.drop (name.length + 1))
      else expandOnto (c :: done) rest
    else expandOnto (c :: done) rest
termination_by t => t.length

/-- A text with pictographs in place of their names. -/
def expand (t : Text) : Text := expandOnto [] t

end RobotsExclusion.Shortcode
