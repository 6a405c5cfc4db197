import RobotsExclusion.Text.Basic

/-!
# Control sequences

The sequences of characters that change how a terminal shows text.

## Main definitions

* `Text.dropControlSequences` — a text without control sequences
-/

namespace RobotsExclusion.Text

/-- The character that starts a control sequence. -/
def escapeCharacter : CodePoint := ⟨0x1B, by decide⟩

/-- A character between the opening bracket of a control sequence and its last letter. -/
def isParameter (c : CodePoint) : Bool := c.isAsciiDigit || c = ';' || c = '?'

/-- The length of the control sequence that a text is the rest of. -/
def sequenceLength? (t : Text) : Option Nat :=
  if t.head? = some (CodePoint.ofChar '[') then
    let parameters := (t.drop 1).takeWhile isParameter
    let length := 1 + parameters.length
    if (t[length]?.map CodePoint.isAsciiLetter).getD false then some (length + 1) else none
  else none

/-- Drops the control sequences of a text and puts the rest behind `done`, which is in reverse
order. -/
def dropSequencesOnto (done : Text) : Text → Text
  | [] => done.reverse
  | c :: rest =>
    if c = escapeCharacter then
      match sequenceLength? rest with
      | some n => dropSequencesOnto done (rest.drop n)
      | none => dropSequencesOnto (c :: done) rest
    else dropSequencesOnto (c :: done) rest
termination_by t => t.length

/-- A text without control sequences. -/
def dropControlSequences (t : Text) : Text := dropSequencesOnto [] t

end RobotsExclusion.Text
