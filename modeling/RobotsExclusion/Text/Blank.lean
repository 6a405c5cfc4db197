import RobotsExclusion.Text.Basic

/-!
# Blanks

The characters that count as white space, and trimming them away.

## Main definitions

* `CodePoint.isBlank` — a white-space character
* `Text.trimLeft`, `Text.trim` — a text without its outer blanks
* `Text.isBlank` — a text of blanks alone
-/

namespace RobotsExclusion

/-- The white-space characters: the separators of lines, paragraphs and fields among the controls,
and the space characters of Unicode. The zero-width space and the byte-order mark are none. -/
def blankRanges : List (Nat × Nat) := [
  (0x9, 0xD), (0x1C, 0x20), (0x85, 0x85), (0xA0, 0xA0), (0x1680, 0x1680), (0x2000, 0x200A),
  (0x2028, 0x2029), (0x202F, 0x202F), (0x205F, 0x205F), (0x3000, 0x3000)]

/-- A white-space character. -/
def CodePoint.isBlank (c : CodePoint) : Bool := c.inRanges blankRanges

theorem CodePoint.exists_range_of_isBlank {c : CodePoint} (h : c.isBlank = true) :
    ∃ range ∈ blankRanges, range.1 ≤ c.toNat ∧ c.toNat ≤ range.2 := by
  obtain ⟨range, hrange, hc⟩ := List.any_eq_true.1 h
  exact ⟨range, hrange, by simpa using hc⟩

namespace Text

/-- Drops the blanks at the start. -/
def trimLeft (t : Text) : Text := t.dropWhile CodePoint.isBlank

/-- Drops the blanks at the end. -/
def trimRight (t : Text) : Text := (t.reverse.dropWhile CodePoint.isBlank).reverse

/-- Drops the blanks at both ends. -/
def trim (t : Text) : Text := t.trimLeft.trimRight

/-- A text without any other character than blanks. -/
def isBlank (t : Text) : Bool := t.all CodePoint.isBlank

end Text

end RobotsExclusion
