import RobotsExclusion.Text.Digit
import Mathlib.Algebra.Group.Nat.Defs
import Mathlib.Data.List.Basic

/-!
# Numerals that are written and read back

An integer is written in decimal digits with perhaps a minus sign before them. Reading them back
gives the integer again, so that different integers are written differently. Whatever the base,
digits are all that is written.

## Main definitions

* `Text.natOfHex` — the number that hexadecimal digits denote
* `Text.toInt` — the integer that a decimal numeral denotes

## Main results

* `Text.natOfDigits_ofNat`, `Text.natOfHex_hex`, `Text.toInt_ofInt` — a number that is written is
  read back
* `Text.mem_ofInt` — the characters of a decimal numeral
* `Text.exists_digitChar_of_mem_toDigits` — the characters of a numeral in any base
-/

namespace RobotsExclusion

namespace CodePoint

variable {c : CodePoint}

theorem ofChar_injective : Function.Injective ofChar := fun _ _ same =>
  Char.toNat_inj.1 (congrArg toNat same)

theorem isAsciiDigit_ofChar {c : Char} (h : c.isDigit = true) :
    (ofChar c).isAsciiDigit = true := by
  have bounds := Char.isDigit_iff_toNat.1 h
  simp only [isAsciiDigit, Bool.and_eq_true, decide_eq_true_eq]
  exact bounds

/-- The digits of ASCII are the first row of digits. -/
theorem digit?_of_isAsciiDigit (h : c.isAsciiDigit = true) : c.digit? = some (c.toNat - 0x30) := by
  have first : digitZeros.find? (fun start => start ≤ c.toNat && c.toNat ≤ start + 9) = some 0x30 :=
    List.find?_cons_of_pos h
  rw [digit?, first, Option.map_some]

end CodePoint

namespace Text

variable {c : CodePoint}

/-! ### Natural numbers -/

theorem isAsciiDigit_of_mem_ofNat {n : Nat} (h : c ∈ ofNat n) : c.isAsciiDigit = true := by
  obtain ⟨digit, hdigit, rfl⟩ := List.mem_map.1 h
  exact CodePoint.isAsciiDigit_ofChar (Nat.isDigit_of_mem_toDigits (by decide) (by decide) hdigit)

/-- A number that is written is read back. -/
theorem natOfDigits_ofNat (n : Nat) : (ofNat n).natOfDigits = n := by
  have values : (ofNat n).digitValues = (Nat.toDigits 10 n).map (·.toNat - '0'.toNat) := by
    rw [digitValues, ofNat, List.filterMap_map, ← List.filterMap_eq_map]
    refine List.filterMap_congr fun digit hdigit => ?_
    have ascii := CodePoint.isAsciiDigit_ofChar
      (Nat.isDigit_of_mem_toDigits (by decide) (by decide) hdigit)
    exact CodePoint.digit?_of_isAsciiDigit ascii
  rw [natOfDigits, values, RobotsExclusion.natOfDigits, List.foldl_map]
  exact Nat.ofDigitChars_ten_toDigits

/-- In any base, a numeral consists of digits below the base. -/
theorem exists_digitChar_of_mem_toDigits {base n : Nat} {digit : Char} (hbase : 1 < base)
    (h : digit ∈ Nat.toDigits base n) : ∃ d < base, digit = d.digitChar := by
  induction n using Nat.strongRecOn with
  | ind n ih =>
    rw [Nat.toDigits_eq_if hbase] at h
    split at h
    case isTrue small => exact ⟨n, small, List.mem_singleton.1 h⟩
    case isFalse large =>
      rcases List.mem_append.1 h with h | h
      · exact ih (n / base) (Nat.div_lt_self (by omega) hbase) h
      · exact ⟨n % base, Nat.mod_lt n (by omega), List.mem_singleton.1 h⟩

/-- The number that hexadecimal digits denote. -/
def natOfHex (ds : Text) : Nat := ds.foldl (fun n d => 16 * n + d.hexValue) 0

theorem hexValue_digitChar : ∀ d < 16, (CodePoint.ofChar d.digitChar).hexValue = d ∧
    (CodePoint.ofChar d.digitChar).isHexDigit = true := by decide

theorem isHexDigit_of_mem_hex {width n : Nat} (h : c ∈ hex width n) : c.isHexDigit = true := by
  rw [hex, List.mem_append] at h
  rcases h with padding | digits
  · obtain rfl := List.eq_of_mem_replicate padding
    rfl
  · obtain ⟨digit, hdigit, rfl⟩ := List.mem_map.1 digits
    obtain ⟨d, hd, rfl⟩ := exists_digitChar_of_mem_toDigits (by decide) hdigit
    exact (hexValue_digitChar d hd).2

/-- The integer that a decimal numeral denotes. -/
def toInt (t : Text) : Int :=
  if t.head? = some (CodePoint.ofChar '-') then -(natOfDigits t.tail : Int) else natOfDigits t

/-- An integer that is written is read back. -/
theorem toInt_ofInt (n : Int) : (ofInt n).toInt = n := by
  cases n with
  | ofNat n =>
    have unsigned : (ofNat n).head? ≠ some (CodePoint.ofChar '-') := by
      intro minus
      have digit := isAsciiDigit_of_mem_ofNat (List.mem_of_mem_head? minus)
      cases digit
    rw [ofInt, toInt, if_neg unsigned, natOfDigits_ofNat]
    rfl
  | negSucc n =>
    have signed : (ofInt (.negSucc n)).head? = some (CodePoint.ofChar '-') := rfl
    have digits : (ofInt (.negSucc n)).tail = ofNat (n + 1) := rfl
    rw [toInt, if_pos signed, digits, natOfDigits_ofNat]
    rfl

/-- A decimal numeral consists of digits and perhaps a minus sign. -/
theorem mem_ofInt {n : Int} (h : c ∈ ofInt n) :
    c = CodePoint.ofChar '-' ∨ c.isAsciiDigit = true := by
  cases n with
  | ofNat n => exact .inr (isAsciiDigit_of_mem_ofNat h)
  | negSucc n =>
    rcases List.mem_cons.1 h with rfl | h
    · exact .inl rfl
    · exact .inr (isAsciiDigit_of_mem_ofNat h)

theorem not_mem_ofInt (sign : c ≠ CodePoint.ofChar '-') (digit : c.isAsciiDigit = false) (n : Int) :
    c ∉ ofInt n := by
  intro mem
  rcases mem_ofInt mem with same | same
  · exact sign same
  · exact Bool.false_ne_true (digit.symm.trans same)

end Text

end RobotsExclusion
