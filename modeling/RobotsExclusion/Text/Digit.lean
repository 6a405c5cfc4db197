import RobotsExclusion.Text.Basic

/-!
# Decimal digits

Every script's decimal digits stand in a row of ten that starts with its zero.

## Main definitions

* `CodePoint.digit?` — the value of a decimal digit of any script
* `Text.natOfDigits` — the number that a row of digits denotes
-/

namespace RobotsExclusion

/-- The zeros of the scripts of Unicode 14. -/
def digitZeros : List Nat := [
  0x30, 0x660, 0x6F0, 0x7C0, 0x966, 0x9E6, 0xA66, 0xAE6, 0xB66, 0xBE6, 0xC66, 0xCE6, 0xD66, 0xDE6,
  0xE50, 0xED0, 0xF20, 0x1040, 0x1090, 0x17E0, 0x1810, 0x1946, 0x19D0, 0x1A80, 0x1A90, 0x1B50,
  0x1BB0, 0x1C40, 0x1C50, 0xA620, 0xA8D0, 0xA900, 0xA9D0, 0xA9F0, 0xAA50, 0xABF0, 0xFF10, 0x104A0,
  0x10D30, 0x11066, 0x110F0, 0x11136, 0x111D0, 0x112F0, 0x11450, 0x114D0, 0x11650, 0x116C0,
  0x11730, 0x118E0, 0x11950, 0x11C50, 0x11D50, 0x11DA0, 0x16A60, 0x16AC0, 0x16B50, 0x1D7CE,
  0x1D7D8, 0x1D7E2, 0x1D7EC, 0x1D7F6, 0x1E140, 0x1E2F0, 0x1E950, 0x1FBF0]

/-- The value of a decimal digit. -/
def CodePoint.digit? (c : CodePoint) : Option Nat :=
  (digitZeros.find? fun start => start ≤ c.toNat && c.toNat ≤ start + 9).map (c.toNat - ·)

/-- A digit lies in one of the rows, as far from the zero there as its value says. -/
theorem CodePoint.exists_zero_of_digit? {c : CodePoint} {d : Nat} (h : c.digit? = some d) :
    ∃ start ∈ digitZeros, c.toNat = start + d ∧ d < 10 := by
  obtain ⟨start, found, rfl⟩ := Option.map_eq_some_iff.1 h
  have row := List.find?_some found
  simp only [Bool.and_eq_true, decide_eq_true_eq] at row
  exact ⟨start, List.mem_of_find?_eq_some found, by omega, by omega⟩

/-- A decimal digit of any script. -/
def CodePoint.isDigit (c : CodePoint) : Bool := c.digit?.isSome

/-- The number that digit values denote in base ten, the most significant first. -/
def natOfDigits (digits : List Nat) : Nat := digits.foldl (fun n d => 10 * n + d) 0

namespace Text

/-- The values of the digits of a text; other characters are passed over. -/
def digitValues (t : Text) : List Nat := t.filterMap CodePoint.digit?

/-- The number that a row of decimal digits denotes. -/
def natOfDigits (t : Text) : Nat := RobotsExclusion.natOfDigits t.digitValues

end Text

end RobotsExclusion
