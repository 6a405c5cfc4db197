import RobotsExclusion.Proofs.Text.Numeral
import Mathlib.Data.Nat.Digits.Defs

/-!
# The number of a row of digits

A row of digits denotes a number in base ten, the most significant digit first. How many digits
there are tells how large the number is, and the digits of two rows one after the other denote the
first number moved up by as many places as the second row has.

## Main results

* `natOfDigits_eq_ofDigits` — the number is the one of the digits in base ten
* `natOfDigits_append` — two rows one after the other
* `natOfDigits_lt_pow`, `pow_le_natOfDigits` — the number of digits bounds the number
* `Text.natOfDigits_of_isAsciiDigit` — the number of a row of ASCII digits
-/

namespace RobotsExclusion

variable {d : Nat} {ds : List Nat}

/-- The number is the one of the digits in base ten. -/
theorem natOfDigits_eq_ofDigits (ds : List Nat) : natOfDigits ds = Nat.ofDigits 10 ds.reverse := by
  rw [natOfDigits, Nat.ofDigits_eq_foldr, List.foldr_reverse]
  simp only [Nat.cast_id, Nat.add_comm]

/-- A row behind another one moves the number of that one up. -/
theorem natOfDigits_append (ds es : List Nat) :
    natOfDigits (ds ++ es) = natOfDigits ds * 10 ^ es.length + natOfDigits es := by
  simp only [natOfDigits_eq_ofDigits, List.reverse_append, Nat.ofDigits_append,
    List.length_reverse]
  rw [Nat.add_comm, Nat.mul_comm]

@[simp] theorem natOfDigits_nil : natOfDigits [] = 0 := rfl

theorem natOfDigits_cons (d : Nat) (ds : List Nat) :
    natOfDigits (d :: ds) = d * 10 ^ ds.length + natOfDigits ds := by
  have first : natOfDigits [d] = d := by simp [natOfDigits]
  rw [← List.singleton_append, natOfDigits_append, first]

/-- Zeros at the start do not matter. -/
theorem natOfDigits_dropWhile_zero (ds : List Nat) :
    natOfDigits (ds.dropWhile (· = 0)) = natOfDigits ds := by
  induction ds with
  | nil => rfl
  | cons d ds ih =>
    by_cases zero : d = 0
    · rw [List.dropWhile_cons_of_pos (by simpa using zero), ih, natOfDigits_cons, zero]
      simp
    · rw [List.dropWhile_cons_of_neg (by simpa using zero)]

/-- A number has fewer places than the power of ten behind them. -/
theorem natOfDigits_lt_pow (h : ∀ d ∈ ds, d < 10) : natOfDigits ds < 10 ^ ds.length := by
  rw [natOfDigits_eq_ofDigits, ← List.length_reverse]
  exact Nat.ofDigits_lt_base_pow_length (by decide) fun d hd => h d (List.mem_reverse.1 hd)

/-- A first digit other than zero counts at least once at its place. -/
theorem pow_le_natOfDigits (hd : d ≠ 0) (ds : List Nat) :
    10 ^ ds.length ≤ natOfDigits (d :: ds) := by
  rw [natOfDigits_cons]
  calc 10 ^ ds.length ≤ d * 10 ^ ds.length := Nat.le_mul_of_pos_left _ (Nat.pos_of_ne_zero hd)
    _ ≤ d * 10 ^ ds.length + natOfDigits ds := Nat.le_add_right _ _

namespace Text

variable {t u : Text}

theorem digitValues_append (t u : Text) :
    (t ++ u).digitValues = t.digitValues ++ u.digitValues :=
  List.filterMap_append

theorem lt_of_mem_digitValues (h : d ∈ t.digitValues) : d < 10 := by
  obtain ⟨c, -, hc⟩ := List.mem_filterMap.1 h
  obtain ⟨-, -, -, small⟩ := CodePoint.exists_zero_of_digit? hc
  exact small

/-- Where there are digits alone, each of them has a value. -/
theorem length_digitValues (h : ∀ c ∈ t, c.isDigit = true) : t.digitValues.length = t.length := by
  induction t with
  | nil => rfl
  | cons c t ih =>
    obtain ⟨hc, ht⟩ := List.forall_mem_cons.1 h
    obtain ⟨d, hd⟩ := Option.isSome_iff_exists.1 hc
    rw [digitValues, List.filterMap_cons_some hd, List.length_cons, List.length_cons]
    exact congrArg (· + 1) (ih ht)

theorem digitValues_of_isAsciiDigit (h : ∀ c ∈ t, c.isAsciiDigit = true) :
    t.digitValues = t.map (·.toNat - 0x30) := by
  rw [digitValues, ← List.filterMap_eq_map]
  exact List.filterMap_congr fun c hc => CodePoint.digit?_of_isAsciiDigit (h c hc)

/-- The number of a row of ASCII digits. -/
theorem natOfDigits_of_isAsciiDigit (h : ∀ c ∈ t, c.isAsciiDigit = true) :
    t.natOfDigits = Nat.ofDigits 10 (t.map (·.toNat - 0x30)).reverse := by
  rw [natOfDigits, digitValues_of_isAsciiDigit h, natOfDigits_eq_ofDigits]

end Text

end RobotsExclusion
