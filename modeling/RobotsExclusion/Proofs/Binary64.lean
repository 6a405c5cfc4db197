import RobotsExclusion.Binary64
import Mathlib.Algebra.Order.Field.Basic
import Mathlib.Algebra.Order.Field.Power
import Mathlib.Algebra.Order.Field.Rat
import Mathlib.Algebra.Order.Group.Unbundled.Abs
import Mathlib.Tactic.Linarith
import Mathlib.Tactic.NormNum
import Mathlib.Tactic.Ring

/-!
# The nearest number of the format

The numbers of the format are multiples of units, and the unit grows with the number. Between two
numbers with even significands there is another one, so that there is one number nearest to a given
one, if a tie goes to the even significand. From halfway between the greatest number and the power of
two above it on, a number is rounded to infinity.

## Main definitions

* `Binary64.Fits` — the pairs of a significand and an exponent that are numbers of the format
* `Binary64.scaled` — the number that a significand and an exponent make
* `Binary64.IsNearest` — the pair nearest to a number that is not negative
* `Binary64.IsRounded` — the number of the format that a number with a sign is rounded to
* `Binary64.IsFitted` — a nearest multiple of a unit that makes room for a leading bit

## Main results

* `Binary64.Fits.eq_of_scaled_eq` — a number of the format is written in one way
* `Binary64.IsNearest.unique`, `Binary64.IsRounded.unique` — a number is rounded to one number at most
* `Binary64.IsFitted.isRounded`, `Binary64.IsFitted.isRounded_succ` — the nearest multiple of a unit is
  the nearest number
* `Binary64.IsRounded.isNegative_iff` — the numbers that are below zero when they are rounded
-/

namespace RobotsExclusion.Binary64

variable {q : ℚ} {m n r num den : Nat} {e k : Int} {negative : Bool} {x y : Binary64}

/-- A significand and an exponent of the format. -/
structure Fits (m : Nat) (e : Int) : Prop where
  significand_lt : m < 2 ^ 53
  le_exponent : minExponent ≤ e
  exponent_le : e ≤ maxExponent
  /-- The exponent is the least one that leaves room for the significand. -/
  normal : e = minExponent ∨ 2 ^ 52 ≤ m

/-- The number that a significand and an exponent make. -/
def scaled (m : Nat) (e : Int) : ℚ := m * 2 ^ e

/-- Of all numbers of the format, this one is nearest to `q`, or it is one of two nearest ones and
has an even significand. -/
structure IsNearest (q : ℚ) (m : Nat) (e : Int) : Prop where
  fits : Fits m e
  le : ∀ n k, Fits n k → |scaled m e - q| ≤ |scaled n k - q|
  even : ∀ n k, Fits n k → scaled n k ≠ scaled m e → |scaled n k - q| = |scaled m e - q| →
    m % 2 = 0

/-- Halfway between the greatest number and the power of two above it. -/
def overflow : ℚ := scaled (2 ^ 54 - 1) 970

/-- A number with a sign and the magnitude `q` is rounded to this number. -/
inductive IsRounded (negative : Bool) (q : ℚ) : Binary64 → Prop
  | finite {m : Nat} {e : Int} : q < overflow → IsNearest q m e →
      IsRounded negative q (.finite negative m e)
  | infinite : overflow ≤ q → IsRounded negative q (.infinite negative)

/-! ### The numbers of the format in a row -/

theorem scaled_lt_scaled_iff : scaled m e < scaled n e ↔ m < n := by
  rw [scaled, scaled, mul_lt_mul_iff_left₀ (by positivity), Nat.cast_lt]

theorem scaled_le_scaled_iff : scaled m e ≤ scaled n e ↔ m ≤ n := by
  rw [← not_lt, scaled_lt_scaled_iff, not_lt]

theorem scaled_inj : scaled m e = scaled n e ↔ m = n := by
  rw [le_antisymm_iff, scaled_le_scaled_iff, scaled_le_scaled_iff, le_antisymm_iff]

theorem scaled_succ (m : Nat) (e : Int) : scaled (m + 1) e = scaled m e + 2 ^ e := by
  simp only [scaled]
  push_cast
  ring

/-- A number with a greater exponent is a multiple of the unit of a smaller one. -/
theorem scaled_of_le (h : e ≤ k) (n : Nat) : scaled n k = scaled (n * 2 ^ (k - e).toNat) e := by
  have powers : (2 : ℚ) ^ k = 2 ^ (k - e).toNat * 2 ^ e := by
    rw [← zpow_natCast, ← zpow_add₀ two_ne_zero]
    congr 1
    omega
  rw [scaled, scaled, powers]
  push_cast
  ring

/-- A number with a smaller exponent lies below those with a leading bit. -/
theorem Fits.scaled_lt (h : Fits n k) (lower : k < e) : scaled n k < scaled (2 ^ 52) e := by
  have bound := h.significand_lt
  rw [scaled_of_le lower.le, scaled_lt_scaled_iff]
  obtain ⟨d, hd⟩ : ∃ d, (e - k).toNat = d + 1 := ⟨(e - k).toNat - 1, by omega⟩
  calc n < 2 ^ 53 := bound
    _ ≤ 2 ^ 53 * 2 ^ d := Nat.le_mul_of_pos_right _ (by positivity)
    _ = 2 ^ 52 * 2 ^ (e - k).toNat := by rw [hd]; ring

/-- A number that is not smaller has an exponent that is not smaller. -/
theorem Fits.exponent_le_of_le (h : Fits m e) (h' : Fits n k) (hle : scaled m e ≤ scaled n k) :
    e ≤ k := by
  by_contra lower
  rw [not_le] at lower
  have least := h'.le_exponent
  rcases h.normal with bottom | leading
  · omega
  · have below := h'.scaled_lt lower
    have above : scaled (2 ^ 52) e ≤ scaled m e := scaled_le_scaled_iff.2 leading
    linarith

/-- A number is written in one way. -/
theorem Fits.eq_of_scaled_eq (h : Fits m e) (h' : Fits n k) (same : scaled m e = scaled n k) :
    m = n ∧ e = k := by
  have exponents : e = k :=
    le_antisymm (h.exponent_le_of_le h' same.le) (h'.exponent_le_of_le h same.ge)
  subst exponents
  exact ⟨scaled_inj.1 same, rfl⟩

/-- The next number is at least one unit away. -/
theorem Fits.succ_le (h : Fits m e) (h' : Fits n k) (hlt : scaled m e < scaled n k) :
    scaled (m + 1) e ≤ scaled n k := by
  have higher := h.exponent_le_of_le h' hlt.le
  rw [scaled_of_le higher] at hlt ⊢
  exact scaled_le_scaled_iff.2 (scaled_lt_scaled_iff.1 hlt)

/-! ### There is one nearest number -/

/-- Two nearest numbers cannot differ. Both would have even significands, and the odd one behind the
smaller of them would be nearer. -/
theorem IsNearest.not_scaled_lt (h : IsNearest q m e) (h' : IsNearest q n k) :
    ¬ scaled m e < scaled n k := by
  intro hlt
  have tie : |scaled n k - q| = |scaled m e - q| :=
    le_antisymm (h'.le m e h.fits) (h.le n k h'.fits)
  have even := h.even n k h'.fits hlt.ne' tie
  have even' := h'.even m e h.fits hlt.ne tie.symm
  have bound := h.fits.significand_lt
  -- The number asked for lies in the middle.
  have middle : scaled n k - q = q - scaled m e := by
    rcases abs_eq_abs.1 tie with same | opposite <;> linarith
  have unit := scaled_succ m e
  have positive : (0 : ℚ) < 2 ^ e := by positivity
  rcases (h.fits.succ_le h'.fits hlt).lt_or_eq with between | next
  · -- One unit above the smaller number there is another one, still below the greater one.
    have fits : Fits (m + 1) e := by
      refine ⟨by omega, h.fits.le_exponent, h.fits.exponent_le, ?_⟩
      exact h.fits.normal.imp_right fun leading => leading.trans (Nat.le_succ m)
    have nearer := h.le (m + 1) e fits
    rw [abs_of_nonpos (by linarith : scaled m e - q ≤ 0), le_abs] at nearer
    rcases nearer with nearer | nearer <;> linarith
  · -- Then the greater number has the odd significand.
    have higher := h.fits.exponent_le_of_le h'.fits hlt.le
    rcases higher.lt_or_eq with above | rfl
    · obtain ⟨d, hd⟩ : ∃ d, (k - e).toNat = d + 1 := ⟨(k - e).toNat - 1, by omega⟩
      rw [scaled_of_le above.le, hd, pow_succ, ← mul_assoc, scaled_inj] at next
      omega
    · have := scaled_inj.1 next
      omega

theorem IsNearest.unique (h : IsNearest q m e) (h' : IsNearest q n k) : m = n ∧ e = k :=
  h.fits.eq_of_scaled_eq h'.fits
    (le_antisymm (not_lt.1 (h'.not_scaled_lt h)) (not_lt.1 (h.not_scaled_lt h')))

/-- A number is rounded to one number of the format at most. -/
theorem IsRounded.unique (h : IsRounded negative q x) (h' : IsRounded negative q y) : x = y := by
  cases h with
  | finite small near =>
    cases h' with
    | finite _ near' =>
      obtain ⟨rfl, rfl⟩ := near.unique near'
      rfl
    | infinite large => exact absurd small (not_lt.2 large)
  | infinite large =>
    cases h' with
    | finite small => exact absurd small (not_lt.2 large)
    | infinite => rfl

/-! ### The range of the format -/

theorem scaled_two_pow (n : Nat) (e : Int) : scaled (2 ^ n) e = 2 ^ (n + e) := by
  rw [scaled, zpow_add₀ two_ne_zero, zpow_natCast]
  push_cast
  rfl

theorem scaled_two_pow_le (h : n + e ≤ m + k) : scaled (2 ^ n) e ≤ scaled (2 ^ m) k := by
  rw [scaled_two_pow, scaled_two_pow]
  exact zpow_le_zpow_right₀ one_le_two h

/-- Infinity begins half a unit above the greatest number of the format. -/
theorem two_mul_overflow :
    2 * overflow = 2 * scaled (2 ^ 53) maxExponent - 2 ^ maxExponent := by
  have unit : (2 : ℚ) ^ maxExponent = 2 ^ (970 : ℤ) * 2 := by
    rw [← zpow_add_one₀ two_ne_zero]
    rfl
  rw [overflow, scaled, scaled, unit]
  generalize (2 : ℚ) ^ (970 : ℤ) = half
  push_cast
  ring

theorem overflow_le_two_zpow : overflow ≤ 2 ^ (1024 : ℤ) := by
  have unit : (0 : ℚ) < 2 ^ maxExponent := by positivity
  have limit := two_mul_overflow
  have top : scaled (2 ^ 53) maxExponent = 2 ^ (1024 : ℤ) := scaled_two_pow 53 maxExponent
  linarith

/-! ### The nearest multiple of a unit -/

/-- A multiple of the unit of an exponent that is nearest to a number, where the exponent makes room
for the leading bit of the number and for no bit before that. -/
structure IsFitted (q : ℚ) (r : Nat) (e : Int) : Prop where
  le_exponent : minExponent ≤ e
  room : q < scaled (2 ^ 53) e
  leading : e = minExponent ∨ scaled (2 ^ 52) e ≤ q
  /-- It is at most half a unit away. -/
  near : 2 * |scaled r e - q| ≤ 2 ^ e
  even : 2 * |scaled r e - q| = 2 ^ e → r % 2 = 0

/-- Other multiples of a unit are at least half a unit away from a number that one of them is at most
half a unit away from. -/
theorem le_of_ne (hr : 2 * |scaled r e - q| ≤ 2 ^ e) (hn : n ≠ r) :
    2 ^ e ≤ 2 * |scaled n e - q| := by
  have unit : (0 : ℚ) < 2 ^ e := by positivity
  have apart : (2 : ℚ) ^ e ≤ |scaled n e - scaled r e| := by
    rw [scaled, scaled, ← sub_mul, abs_mul, abs_of_pos unit]
    refine le_mul_of_one_le_left unit.le ?_
    have one : (1 : ℤ) ≤ |(n : ℤ) - r| := Int.one_le_abs (by omega)
    exact_mod_cast one
  have triangle := abs_sub_le (scaled n e) q (scaled r e)
  rw [abs_sub_comm q] at triangle
  linarith

/-- The nearest multiple of the unit is nearest among all numbers of the format, and strictly so
unless it is half a unit away. -/
theorem IsFitted.near_all (h : IsFitted q r e) (h' : Fits n k) :
    |scaled r e - q| ≤ |scaled n k - q| ∧
      (scaled n k ≠ scaled r e → |scaled n k - q| = |scaled r e - q| →
        2 * |scaled r e - q| = 2 ^ e) := by
  have near := h.near
  rcases le_or_gt e k with higher | lower
  · -- The other number is a multiple of the unit as well.
    rw [scaled_of_le higher]
    generalize n * 2 ^ (k - e).toNat = n
    by_cases same : n = r
    · rw [same]
      exact ⟨le_rfl, fun ne => absurd rfl ne⟩
    · have far := le_of_ne near same
      exact ⟨by linarith, fun _ tie => le_antisymm near (tie ▸ far)⟩
  · -- The other number is below the least one with a leading bit, and that is a multiple of the unit.
    have least := h'.le_exponent
    have leading : scaled (2 ^ 52) e ≤ q := h.leading.resolve_left (by omega)
    have below := h'.scaled_lt lower
    have nearer : |scaled r e - q| ≤ q - scaled (2 ^ 52) e := by
      rw [← abs_of_nonneg (sub_nonneg.2 leading), abs_sub_comm q]
      by_cases same : 2 ^ 52 = r
      · rw [same]
      · have far := le_of_ne near same
        linarith
    have farther : |scaled r e - q| < |scaled n k - q| := by
      rw [abs_sub_comm (scaled n k), abs_of_nonneg (by linarith : 0 ≤ q - scaled n k)]
      linarith
    exact ⟨farther.le, fun _ tie => absurd tie farther.ne'⟩

/-- The nearest multiple of the unit is the nearest number, however it is written. -/
theorem IsFitted.isNearest (h : IsFitted q r e) (hfits : Fits m k) (same : scaled m k = scaled r e)
    (heven : r % 2 = 0 → m % 2 = 0) : IsNearest q m k := by
  refine ⟨hfits, fun n l hn => ?_, fun n l hn => ?_⟩
  · rw [same]
    exact (h.near_all hn).1
  · rw [same]
    exact fun ne tie => heven (h.even ((h.near_all hn).2 ne tie))

theorem IsFitted.normal (h : IsFitted q r e) : e = minExponent ∨ 2 ^ 52 ≤ r := by
  refine h.leading.imp_right fun leading => ?_
  have unit : (0 : ℚ) < 2 ^ e := by positivity
  have above := neg_le_abs (scaled r e - q)
  have near := h.near
  have next : scaled (2 ^ 52) e < scaled (r + 1) e := by
    rw [scaled_succ]
    linarith
  exact Nat.le_of_lt_succ (scaled_lt_scaled_iff.1 next)

theorem IsFitted.le_two_pow (h : IsFitted q r e) : r ≤ 2 ^ 53 := by
  have unit : (0 : ℚ) < 2 ^ e := by positivity
  have below := le_abs_self (scaled r e - q)
  have near := h.near
  have room := h.room
  have next : scaled r e < scaled (2 ^ 53 + 1) e := by
    rw [scaled_succ]
    linarith
  exact Nat.le_of_lt_succ (scaled_lt_scaled_iff.1 next)

/-- What needs a greater exponent than there is is rounded to infinity. -/
theorem IsFitted.overflow_le (h : IsFitted q r e) (large : maxExponent < e) : overflow ≤ q := by
  have bottom : minExponent < maxExponent := by decide
  have leading := h.leading.resolve_left (by omega)
  have unit : (0 : ℚ) < 2 ^ maxExponent := by positivity
  have above : scaled (2 ^ 53) maxExponent ≤ scaled (2 ^ 52) e := scaled_two_pow_le (by omega)
  have limit := two_mul_overflow
  linarith

theorem IsFitted.lt_overflow_of_lt (h : IsFitted q r e) (small : e < maxExponent) :
    q < overflow := by
  have room := h.room
  have below : scaled (2 ^ 53) e ≤ scaled (2 ^ 52) maxExponent := scaled_two_pow_le (by omega)
  have double : scaled (2 ^ 53) maxExponent = 2 * scaled (2 ^ 52) maxExponent := by
    simp only [scaled]
    push_cast
    ring
  have unit : (2 : ℚ) ^ maxExponent ≤ scaled (2 ^ 52) maxExponent := by
    rw [scaled_two_pow]
    exact zpow_le_zpow_right₀ one_le_two (by omega)
  have positive : (0 : ℚ) < 2 ^ maxExponent := by positivity
  have limit := two_mul_overflow
  linarith

/-- What is rounded to the greatest exponent is below infinity. A number that is just as near to
infinity would be rounded to an even significand, and the greatest one is odd. -/
theorem IsFitted.lt_overflow_of_eq (h : IsFitted q r maxExponent) (hr : r < 2 ^ 53) :
    q < overflow := by
  by_contra above
  rw [not_lt] at above
  have limit := two_mul_overflow
  have unit : (0 : ℚ) < 2 ^ maxExponent := by positivity
  have step := scaled_succ r maxExponent
  have near := h.near
  have greatest : scaled (r + 1) maxExponent ≤ scaled (2 ^ 53) maxExponent :=
    scaled_le_scaled_iff.2 hr
  have distance : |scaled r maxExponent - q| = q - scaled r maxExponent := by
    rw [abs_sub_comm]
    exact abs_of_nonneg (by linarith)
  have even := h.even (le_antisymm near (by linarith))
  have top : scaled (2 ^ 53) maxExponent ≤ scaled (r + 1) maxExponent := by linarith
  have := scaled_le_scaled_iff.1 top
  omega

/-- A number is rounded to the nearest multiple of the unit, if that is a significand. -/
theorem IsFitted.isRounded (h : IsFitted q r e) (negative : Bool) (hr : r < 2 ^ 53)
    (he : e ≤ maxExponent) : IsRounded negative q (.finite negative r e) := by
  refine .finite ?_ (h.isNearest ⟨hr, h.le_exponent, he, h.normal⟩ rfl id)
  rcases he.lt_or_eq with small | rfl
  · exact h.lt_overflow_of_lt small
  · exact h.lt_overflow_of_eq hr

/-- Where the nearest multiple of the unit is too large by one for a significand, the exponent goes up
by one. -/
theorem IsFitted.isRounded_succ (h : IsFitted q r e) (negative : Bool) (hr : 2 ^ 53 ≤ r)
    (he : e < maxExponent) : IsRounded negative q (.finite negative (2 ^ 52) (e + 1)) := by
  have full : r = 2 ^ 53 := le_antisymm h.le_two_pow hr
  have least := h.le_exponent
  have same : scaled (2 ^ 52) (e + 1) = scaled r e := by
    rw [full, scaled_two_pow, scaled_two_pow]
    congr 1
    push_cast
    ring
  have fits : Fits (2 ^ 52) (e + 1) := ⟨by decide, by omega, he, .inr le_rfl⟩
  exact .finite (h.lt_overflow_of_lt he) (h.isNearest fits same fun _ => rfl)

/-- At the greatest exponent, such a number is rounded to infinity. -/
theorem IsFitted.overflow_le_of_full (h : IsFitted q r maxExponent) (hr : 2 ^ 53 ≤ r) :
    overflow ≤ q := by
  have limit := two_mul_overflow
  have near := h.near
  have below := le_abs_self (scaled r maxExponent - q)
  have top : scaled (2 ^ 53) maxExponent ≤ scaled r maxExponent := scaled_le_scaled_iff.2 hr
  linarith

/-! ### What is rounded to zero -/

/-- Zero is the nearest multiple for what is at most half of the least positive number. -/
theorem isFitted_zero (hq : 0 ≤ q) (h : 2 * q ≤ 2 ^ minExponent) : IsFitted q 0 minExponent := by
  have unit : (0 : ℚ) < 2 ^ minExponent := by positivity
  have room : (2 : ℚ) ^ minExponent ≤ scaled (2 ^ 53) minExponent := by
    rw [scaled_two_pow]
    exact zpow_le_zpow_right₀ one_le_two (by omega)
  have distance : |scaled 0 minExponent - q| = q := by
    rw [scaled, Nat.cast_zero, zero_mul, zero_sub, abs_neg, abs_of_nonneg hq]
  exact ⟨le_rfl, by linarith, .inl rfl, by rwa [distance], fun _ => rfl⟩

theorem two_mul_half_least : 2 * (2 : ℚ) ^ (-1075 : ℤ) = 2 ^ minExponent := by
  rw [mul_comm, ← zpow_add_one₀ two_ne_zero]
  rfl

theorem isRounded_zero (negative : Bool) (hq : 0 ≤ q) (h : 2 * q ≤ 2 ^ minExponent) :
    IsRounded negative q (zero negative) :=
  (isFitted_zero hq h).isRounded negative (by decide) (by decide)

/-- Only what is at most half of the least positive number is rounded to zero. -/
theorem IsNearest.eq_zero_iff (h : IsNearest q m e) (hq : 0 ≤ q) :
    m = 0 ↔ 2 * q ≤ 2 ^ minExponent := by
  have least (n : Nat) (hn : n < 2) : Fits n minExponent := ⟨by omega, le_rfl, by decide, .inl rfl⟩
  constructor
  · rintro rfl
    have nearer := h.le 1 minExponent (least 1 (by decide))
    simp only [scaled, Nat.cast_zero, Nat.cast_one, zero_mul, one_mul, zero_sub, abs_neg] at nearer
    rw [abs_of_nonneg hq, le_abs] at nearer
    have unit : (0 : ℚ) < 2 ^ minExponent := by positivity
    rcases nearer with nearer | nearer <;> linarith
  · intro small
    have zero := (isFitted_zero hq small).isNearest (least 0 (by decide)) rfl id
    exact (h.unique zero).1

/-- A rounded number is below zero if it has a minus and is further from zero than half the least
positive number. -/
theorem IsRounded.isNegative_iff (h : IsRounded negative q x) (hq : 0 ≤ q) :
    x.isNegative = true ↔ negative = true ∧ (2 : ℚ) ^ (-1075 : ℤ) < q := by
  have double := two_mul_half_least
  cases h with
  | finite small near =>
    have above : (2 : ℚ) ^ (-1075 : ℤ) < q ↔ ¬ 2 * q ≤ 2 ^ minExponent := by
      rw [not_le, ← double]
      constructor <;> intro h <;> linarith
    rw [above, ← near.eq_zero_iff hq]
    simp [isNegative]
  | infinite large =>
    have least := isFitted_zero (by positivity : (0 : ℚ) ≤ 2 ^ (-1075 : ℤ)) double.le
    have above := (least.lt_overflow_of_lt (by decide)).trans_le large
    rw [isNegative, and_iff_left above]

end RobotsExclusion.Binary64
