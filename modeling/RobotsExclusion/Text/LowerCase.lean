import RobotsExclusion.Text.Basic
import RobotsExclusion.Text.LowerCase.Table

/-!
# Lower-casing

Full lower-casing of Unicode text. A character is mapped by itself, with two exceptions: the
dotted capital `İ` becomes two characters, and a capital sigma becomes the final form `ς` at the
end of a word, that is, after a letter with a case and not before one. Case-ignorable characters
(apostrophes, accents, format characters) are looked through when the neighbours are examined.

## Main definitions

* `CodePoint.simpleLower` — the mapping of one character
* `Text.lower` — the lower-case form of a text
-/

namespace RobotsExclusion

namespace LowerCase

/-- What a run maps a character to, if it maps it. -/
def Run.image? (run : Run) (c : CodePoint) : Option CodePoint :=
  if run.first ≤ c.toNat ∧ c.toNat ≤ run.last ∧ (c.toNat - run.first) % run.stride = 0 then
    CodePoint.ofNat? (run.target + (c.toNat - run.first))
  else none

/-- What the first run that maps a character maps it to. -/
def image? (runs : List Run) (c : CodePoint) : Option CodePoint := runs.findSome? (·.image? c)

/-- A letter with a case that is not case-ignorable. -/
def isCased (c : CodePoint) : Bool := c.inRanges casedRanges

/-- A character that the rule for a final sigma looks through. -/
def isIgnorable (c : CodePoint) : Bool := c.inRanges ignorableRanges

/-- Whether the nearest character that counts is a letter with a case. -/
def startsCased (t : Text) : Bool :=
  match t.dropWhile isIgnorable with
  | [] => false
  | c :: _ => isCased c

/-- Whether the nearest character that counts is a letter with a case, after one more character. -/
def casedAfter (cased : Bool) (c : CodePoint) : Bool :=
  if isIgnorable c then cased else isCased c

end LowerCase

namespace CodePoint

open LowerCase in
/-- The simple lower-case form of a character. ASCII is answered without the table. -/
def simpleLower (c : CodePoint) : CodePoint :=
  if c.isAscii then c.asciiLower else (image? runs c).getD c

/-- The capital sigma. -/
def capitalSigma : CodePoint := ⟨0x3A3, by decide⟩

/-- The small sigma at the end of a word. -/
def finalSigma : CodePoint := ⟨0x3C2, by decide⟩

/-- The capital letter `I` with a dot above. -/
def capitalDottedI : CodePoint := ⟨0x130, by decide⟩

/-- The combining dot above. -/
def dotAbove : CodePoint := ⟨0x307, by decide⟩

end CodePoint

namespace LowerCase

/-- The lower-case form of a character between what stands before it, of which only `cased` is
known, and what follows it. -/
def letter (cased : Bool) (c : CodePoint) (following : Text) : Text :=
  if c = CodePoint.capitalDottedI then ['i', CodePoint.dotAbove]
  else if c = CodePoint.capitalSigma ∧ cased ∧ ¬ startsCased following then [CodePoint.finalSigma]
  else [c.simpleLower]

/-- Puts the lower-case form of `t` in front of `done`, which holds the characters before it, the
last one first. -/
def onto (done : Text) (cased : Bool) : Text → Text
  | [] => done
  | c :: following =>
    onto ((letter cased c following).reverse ++ done) (casedAfter cased c) following

end LowerCase

/-- The lower-case form of a text. -/
def Text.lower (t : Text) : Text := (LowerCase.onto [] false t).reverse

end RobotsExclusion
