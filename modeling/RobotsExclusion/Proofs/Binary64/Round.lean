import RobotsExclusion.Proofs.Binary64
import Mathlib.Data.Nat.Log
import Mathlib.Tactic.FieldSimp
import Mathlib.Tactic.SplitIfs

/-!
# Rounding a quotient

Rounding a quotient gives the number of the format that is nearest to it. The exponent is found from
binary logarithms, so that the leading bit comes to stand in the right place, and the significand is
rounded to the nearest integer.

## Main results

* `Binary64.zpow_eq_div` — a power with an integer exponent as a quotient of powers
* `Binary64.roundQuotient_near` — the integer that a quotient is rounded to
* `Binary64.zpow_binaryExponent_le`, `Binary64.lt_zpow_binaryExponent` — the binary exponent of a
  quotient
* `Binary64.isRounded_round` — rounding a quotient gives the nearest number
-/

namespace RobotsExclusion.Binary64

variable {r num den : Nat} {e : Int}

/-- A power with an integer exponent as a quotient of two powers, one of which is one. -/
theorem zpow_eq_div {b : ℚ} (hb : b ≠ 0) (k : ℤ) : b ^ k = b ^ k.toNat / b ^ (-k).toNat := by
  rw [← zpow_natCast, ← zpow_natCast, ← zpow_sub₀ hb]
  congr 1
  omega

/-- An integer that a quotient is rounded to is at most one half away, and if it is one half away, it
is even. -/
theorem roundQuotient_near (num : Nat) (hden : 0 < den) :
    |(roundQuotient num den : ℚ) - num / den| ≤ 1 / 2 ∧
      (|(roundQuotient num den : ℚ) - num / den| = 1 / 2 → roundQuotient num den % 2 = 0) := by
  have hd : (0 : ℚ) < den := by exact_mod_cast hden
  -- The quotient is a whole number and a part of one that is compared with one half.
  obtain ⟨part, hpart⟩ : ∃ part : ℚ, part = (num % den : ℕ) / den := ⟨_, rfl⟩
  have whole : (num : ℚ) / den = (num / den : ℕ) + part := by
    have parts : (num : ℚ) = den * (num / den : ℕ) + (num % den : ℕ) := by
      exact_mod_cast (Nat.div_add_mod num den).symm
    rw [hpart]
    field_simp
    linarith
  have nonneg : 0 ≤ part := by
    rw [hpart]
    positivity
  have lt_one : part < 1 := by
    rw [hpart, div_lt_one hd]
    exact_mod_cast Nat.mod_lt num hden
  have above : 1 / 2 < part ↔ den < 2 * (num % den) := by
    rw [hpart, div_lt_div_iff₀ two_pos hd, ← Nat.cast_lt (α := ℚ)]
    push_cast
    constructor <;> intro h <;> linarith
  have half : part = 1 / 2 ↔ 2 * (num % den) = den := by
    rw [hpart, div_eq_div_iff hd.ne' two_ne_zero, ← Nat.cast_inj (R := ℚ)]
    push_cast
    constructor <;> intro h <;> linarith
  rw [whole, roundQuotient]
  split_ifs with up
  · have large : 1 / 2 ≤ part := up.elim (fun more => (above.2 more).le) fun tie => (half.2 tie.1).ge
    have distance : |((num / den + 1 : ℕ) : ℚ) - ((num / den : ℕ) + part)| = 1 - part := by
      rw [abs_of_nonneg] <;> push_cast <;> linarith
    rw [distance]
    refine ⟨by linarith, fun tie => ?_⟩
    have tie' := half.1 (by linarith)
    omega
  · have small : part ≤ 1 / 2 := by
      rw [← not_lt, above]
      exact fun more => up (.inl more)
    have distance : |((num / den : ℕ) : ℚ) - ((num / den : ℕ) + part)| = part := by
      rw [sub_add_cancel_left, abs_neg, abs_of_nonneg nonneg]
    rw [distance]
    refine ⟨small, fun tie => ?_⟩
    have tie' := half.1 tie
    omega

/-- A multiple of a unit of the format that a quotient is rounded to is at most half a unit away. -/
theorem significand_near (num : Nat) (hden : 0 < den) (e : Int)
    (hr : roundQuotient (num * Nat.pow 2 (-e).toNat) (den * Nat.pow 2 e.toNat) = r) :
    2 * |scaled r e - num / den| ≤ 2 ^ e ∧
      (2 * |scaled r e - num / den| = 2 ^ e → r % 2 = 0) := by
  have hd : (den : ℚ) ≠ 0 := by exact_mod_cast hden.ne'
  have unit : (0 : ℚ) < 2 ^ e := by positivity
  have positive : 0 < den * Nat.pow 2 e.toNat := Nat.mul_pos hden (Nat.pow_pos Nat.two_pos)
  have near := roundQuotient_near (num * Nat.pow 2 (-e).toNat) positive
  have quotient : ((num * Nat.pow 2 (-e).toNat : ℕ) : ℚ) / (den * Nat.pow 2 e.toNat : ℕ) =
      num / den / 2 ^ e := by
    rw [zpow_eq_div two_ne_zero e]
    push_cast [Nat.pow_eq]
    field_simp
  have distance : |scaled r e - num / den| = |(r : ℚ) - num / den / 2 ^ e| * 2 ^ e := by
    rw [scaled, ← abs_of_pos unit, ← abs_mul, abs_of_pos unit, sub_mul, div_mul_cancel₀ _ unit.ne']
  rw [hr, quotient] at near
  rw [distance, ← mul_assoc, mul_le_iff_le_one_left unit, mul_eq_right₀ unit.ne']
  exact ⟨by linarith, fun tie => near.2 (by linarith)⟩

/-- The binary exponent of a quotient bounds it from below. -/
theorem zpow_binaryExponent_le (hnum : 0 < num) (hden : 0 < den) :
    (2 : ℚ) ^ binaryExponent num den ≤ num / den := by
  have hq : (0 : ℚ) < den := by exact_mod_cast hden
  rw [binaryExponent]
  split_ifs with fits
  · -- The difference of the binary logarithms fits, and that has been tried out.
    have fits' : (den : ℚ) * 2 ^ ((num.log2 : ℤ) - den.log2).toNat ≤
        num * 2 ^ (-((num.log2 : ℤ) - den.log2)).toNat := by exact_mod_cast fits
    rw [zpow_eq_div two_ne_zero, div_le_div_iff₀ (by positivity) hq]
    linarith
  · -- One less always fits, as the logarithms are rounded down.
    have low : (2 : ℚ) ^ num.log2 ≤ num := by exact_mod_cast Nat.log2_self_le hnum.ne'
    have high : (den : ℚ) ≤ 2 ^ (den.log2 + 1) := by exact_mod_cast Nat.lt_log2_self.le
    rw [le_div_iff₀ hq]
    calc (2 : ℚ) ^ ((num.log2 : ℤ) - den.log2 - 1) * den
        ≤ 2 ^ ((num.log2 : ℤ) - den.log2 - 1) * 2 ^ (den.log2 + 1) := by gcongr
      _ = 2 ^ num.log2 := by
          rw [← zpow_natCast, ← zpow_natCast, ← zpow_add₀ two_ne_zero]
          congr 1
          push_cast
          omega
      _ ≤ num := low

/-- The binary exponent of a quotient bounds it from above. -/
theorem lt_zpow_binaryExponent (num : Nat) (hden : 0 < den) :
    (num / den : ℚ) < 2 ^ (binaryExponent num den + 1) := by
  have hq : (0 : ℚ) < den := by exact_mod_cast hden
  rw [binaryExponent, div_lt_iff₀ hq]
  split_ifs with fits
  · have low : (2 : ℚ) ^ den.log2 ≤ den := by exact_mod_cast Nat.log2_self_le hden.ne'
    have high : (num : ℚ) < 2 ^ (num.log2 + 1) := by exact_mod_cast Nat.lt_log2_self
    calc (num : ℚ) < 2 ^ (num.log2 + 1) := high
      _ = 2 ^ ((num.log2 : ℤ) - den.log2 + 1) * 2 ^ den.log2 := by
          rw [← zpow_natCast, ← zpow_natCast, ← zpow_add₀ two_ne_zero]
          congr 1
          push_cast
          omega
      _ ≤ 2 ^ ((num.log2 : ℤ) - den.log2 + 1) * den := by gcongr
  · -- The difference of the binary logarithms is too much, and that has been tried out.
    have fits' : (num : ℚ) * 2 ^ (-((num.log2 : ℤ) - den.log2)).toNat <
        den * 2 ^ ((num.log2 : ℤ) - den.log2).toNat := by exact_mod_cast not_le.1 fits
    rw [sub_add_cancel, zpow_eq_div two_ne_zero, div_mul_eq_mul_div, lt_div_iff₀ (by positivity)]
    linarith

/-- The significand of a quotient at the exponent that its binary exponent asks for. -/
theorem isFitted_significand (hnum : 0 < num) (hden : 0 < den)
    (he : max (binaryExponent num den - 52) minExponent = e)
    (hr : roundQuotient (num * Nat.pow 2 (-e).toNat) (den * Nat.pow 2 e.toNat) = r) :
    IsFitted (num / den) r e := by
  have lower := zpow_binaryExponent_le hnum hden
  have upper := lt_zpow_binaryExponent num hden
  obtain ⟨near, even⟩ := significand_near num hden e hr
  refine ⟨by omega, ?_, ?_, near, even⟩
  · rw [scaled_two_pow]
    exact upper.trans_le (zpow_le_zpow_right₀ one_le_two (by omega))
  · rcases le_total (binaryExponent num den - 52) minExponent with small | large
    · exact .inl (by omega)
    · right
      rw [scaled_two_pow]
      exact (zpow_le_zpow_right₀ one_le_two (by omega)).trans lower

/-- Rounding a quotient gives the nearest number. -/
theorem isRounded_round (negative : Bool) (num : Nat) (hden : 0 < den) :
    IsRounded negative (num / den) (round negative num den) := by
  rw [round]
  split_ifs with nothing
  · have unit : (0 : ℚ) < 2 ^ minExponent := by positivity
    rw [nothing, Nat.cast_zero, zero_div]
    exact isRounded_zero negative le_rfl (by linarith)
  · dsimp only
    generalize he : max (binaryExponent num den - 52) minExponent = e
    generalize hr : roundQuotient (num * Nat.pow 2 (-e).toNat) (den * Nat.pow 2 e.toNat) = r
    have fitted := isFitted_significand (Nat.pos_of_ne_zero nothing) hden he hr
    split_ifs with fits large larger
    · exact .infinite (fitted.overflow_le large)
    · exact fitted.isRounded negative fits (not_lt.1 large)
    · rcases (Int.lt_add_one_iff.1 larger).lt_or_eq with large | rfl
      · exact .infinite (fitted.overflow_le large)
      · exact .infinite (fitted.overflow_le_of_full (not_lt.1 fits))
    · exact fitted.isRounded_succ negative (not_lt.1 fits) (not_lt.1 larger)

end RobotsExclusion.Binary64
