import RobotsExclusion.Proofs.Binary64.Round
import RobotsExclusion.Proofs.Numeral.Longest
import RobotsExclusion.Proofs.Text.Cut
import RobotsExclusion.Proofs.Text.Digit
import Mathlib.Data.Rat.Cast.Order
import Mathlib.Tactic.Ring

/-!
# The exact value of a numeral

A numeral that is not infinite denotes a rational number, however many digits it has and however
large its exponent is. The nearest binary floating-point number is below zero exactly if the numeral
has a minus and its number is further from zero than half the least positive number of the format,
which is `2 ^ -1075`. Numerals whose number is out of range are told apart by the place of their
first digit alone, and on the right side.

## Main definitions

* `Numeral.MantissaDenotes`, `Numeral.ExponentDenotes` — the values of the parts of a numeral
* `Numeral.Denotes` — the number that a numeral denotes
* `Numeral.IsBelowZero` — the numerals whose rounded value is below zero
* `Numeral.RoundsTo` — the number of the format that a numeral is rounded to

## Main results

* `Numeral.exists_decimal_of_denotes` — a numeral is read as the number that it denotes
* `Numeral.isRounded_toBinary64_decimal` — a decimal number is read as the nearest number of the format
* `Numeral.isNegative_toBinary64_decimal` — the decimal numbers that are rounded to below zero
* `Numeral.isNegative_toBinary64_iff` — the numerals that are read as a number below zero
* `Numeral.map_ofText?_eq_some_iff` — a numeral is read as the number that it is rounded to
-/

namespace RobotsExclusion

theorem CodePoint.asciiLower_of_not_letter {c : CodePoint} (h : c.isAsciiLetter = false) :
    c.asciiLower = c := by
  simp only [isAsciiLetter, Bool.or_eq_false_iff, Bool.and_eq_false_iff,
    decide_eq_false_iff_not] at h
  exact dif_neg (by omega)

namespace Numeral

open Binary64

variable {t s m e : Text} {x : ℚ} {k : ℤ} {n : Numeral} {negative : Bool} {ds : List Nat}

/-- The number that digits with at most one point denote. -/
inductive MantissaDenotes : Text → ℚ → Prop
  | whole {ds : Text} : AllDigits ds → ds ≠ [] → MantissaDenotes ds ds.natOfDigits
  | pointed {ds fs : Text} : AllDigits ds → AllDigits fs → (ds ≠ [] ∨ fs ≠ []) →
      MantissaDenotes (ds ++ CodePoint.ofChar '.' :: fs)
        (ds.natOfDigits + fs.natOfDigits / 10 ^ fs.length)

/-- The integer that an exponent denotes, zero if it is missing. -/
inductive ExponentDenotes : Text → ℤ → Prop
  | none : ExponentDenotes [] 0
  | some {c : CodePoint} {s ds : Text} : c = CodePoint.ofChar 'e' ∨ c = CodePoint.ofChar 'E' →
      IsSign s → AllDigits ds → ds ≠ [] →
      ExponentDenotes (c :: s ++ ds) (if s = "-" then -ds.natOfDigits else ds.natOfDigits)

/-- The number that a numeral denotes. The word for infinity denotes none. -/
inductive Denotes : Text → ℚ → Prop
  | decimal {s m e : Text} {x : ℚ} {k : ℤ} : IsSign s → MantissaDenotes m x →
      ExponentDenotes e k →
      Denotes (s ++ m ++ e) (if s = "-" then -(x * 10 ^ k) else x * 10 ^ k)

/-- The numeral has a minus, and it is infinite or denotes a number that is further from zero than
half the least positive number of the format. -/
def IsBelowZero (t : Text) : Prop :=
  t.head? = some (CodePoint.ofChar '-') ∧
    (t = "-Infinity" ∨ ∃ x, Denotes t x ∧ (2 : ℚ) ^ (-1075 : ℤ) < |x|)

/-- The numeral has a minus. -/
def hasMinus (t : Text) : Bool := t.head? = some (CodePoint.ofChar '-')

/-- A numeral is rounded to this number: the nearest one to the number that it denotes, with its
sign. The word for infinity is rounded to an infinite number. -/
inductive RoundsTo : Text → Binary64 → Prop
  | infinity {s : Text} : IsSign s → RoundsTo (s ++ infinityWord) (.infinite (hasMinus s))
  | decimal {t : Text} {q : ℚ} {y : Binary64} : Denotes t q → IsRounded (hasMinus t) |q| y →
      RoundsTo t y

/-! ### The values of the parts -/

theorem exists_mantissaDenotes (h : IsMantissa m) : ∃ x, MantissaDenotes m x := by
  cases h with
  | whole hds hsome => exact ⟨_, .whole hds hsome⟩
  | pointed hds hfs hsome => exact ⟨_, .pointed hds hfs hsome⟩

theorem MantissaDenotes.isMantissa (h : MantissaDenotes m x) : IsMantissa m := by
  cases h with
  | whole hds hsome => exact .whole hds hsome
  | pointed hds hfs hsome => exact .pointed hds hfs hsome

theorem exists_exponentDenotes (h : IsExponent e) : ∃ k, ExponentDenotes e k := by
  cases h with
  | none => exact ⟨0, .none⟩
  | some letter hs hds hsome => exact ⟨_, .some letter hs hds hsome⟩

theorem ExponentDenotes.isExponent (h : ExponentDenotes e k) : IsExponent e := by
  cases h with
  | none => exact .none
  | some letter hs hds hsome => exact .some letter hs hds hsome

/-- Every numeral with digits denotes a number. -/
theorem exists_denotes (hs : IsSign s) (hm : IsMantissa m) (he : IsExponent e) :
    ∃ x, Denotes (s ++ m ++ e) x := by
  obtain ⟨y, hy⟩ := exists_mantissaDenotes hm
  obtain ⟨k, hk⟩ := exists_exponentDenotes he
  exact ⟨_, .decimal hs hy hk⟩

/-- A mantissa denotes the number of all its digits, moved down by as many places as there are
behind the point. -/
theorem MantissaDenotes.eq_div (h : MantissaDenotes m x) :
    x = natOfDigits (Text.digitValues (m.before '.') ++ Text.digitValues (m.after '.')) /
      10 ^ (m.after '.').length := by
  cases h with
  | whole hds =>
    rw [Text.before_of_not_mem (point_not_mem hds), Text.after_of_not_mem (point_not_mem hds)]
    simp [Text.digitValues, Text.natOfDigits]
  | @pointed ds fs hds hfs =>
    have places : fs.digitValues.length = fs.length := Text.length_digitValues hfs
    rw [Text.before_append_cons (point_not_mem hds), Text.after_append_cons (point_not_mem hds),
      natOfDigits_append, places]
    push_cast
    rw [Text.natOfDigits, Text.natOfDigits]
    field_simp

theorem digitValues_of_isSign (h : IsSign s) : s.digitValues = [] := by
  cases h <;> decide

/-- An exponent denotes the integer that is read behind its letter. -/
theorem ExponentDenotes.eq_signedNat (h : ExponentDenotes e k) :
    k = signedNat (sign (e.drop 1)) (e.drop 1) := by
  cases h with
  | none => decide
  | @some c s ds letter hs hds hsome =>
    have notSign : ∀ c ∈ ds.head?, c ≠ CodePoint.ofChar '+' ∧ c ≠ CodePoint.ofChar '-' :=
      fun c hc => ne_sign_of_isDigit (hds c (List.mem_of_mem_head? hc))
    have digits : Text.natOfDigits (s ++ ds) = ds.natOfDigits := by
      rw [Text.natOfDigits, Text.digitValues_append, digitValues_of_isSign hs]
      rfl
    rw [List.cons_append, List.drop_one, List.tail_cons, sign_append hs notSign, signedNat, digits,
      isMinus]
    simp only [decide_eq_true_eq]

/-! ### Reading -/

/-- Digits and a point are none of the words that denote a number. -/
theorem ofText?_decimal (hs : IsSign s) (hm : IsMantissa m) (he : IsExponent e) :
    ofText? (s ++ m ++ e) = decimalOfText? (isMinus s) (m ++ e) := by
  have noWord {word : Text} (letter : ∀ c ∈ word.head?, c.isAsciiLetter = true)
      (some : word ≠ []) : (m ++ e).map CodePoint.asciiLower ≠ word := by
    obtain ⟨c, more, rfl, hc⟩ := exists_head_not_isAsciiLetter hm
    rintro rfl
    have first := letter c.asciiLower rfl
    rw [CodePoint.asciiLower_of_not_letter hc, hc] at first
    cases first
  rw [ofText?_of_isLiteral (.decimal hs hm he), sign_append_of_isMantissa hs hm, List.append_assoc,
    List.drop_left]
  dsimp only
  rw [if_neg (not_or.2 ⟨noWord (by decide) (by decide), noWord (by decide) (by decide)⟩),
    if_neg (noWord (by decide) (by decide))]

/-- The word for infinity is read as such. -/
theorem ofText?_infinity (hs : IsSign s) :
    ofText? (s ++ infinityWord) = some (.infinity (isMinus s)) := by
  have letter : ∀ c ∈ infinityWord.head?, c ≠ CodePoint.ofChar '+' ∧ c ≠ CodePoint.ofChar '-' := by
    decide
  rw [ofText?_of_isLiteral (.infinity hs), sign_append hs letter, List.drop_left]
  exact if_pos (by decide)

/-- A numeral is read as the number that it denotes. -/
theorem exists_decimal_of_denotes (h : Denotes t x) :
    ∃ ds k, ofText? t = some (.decimal (isMinus (sign t)) ds k) ∧ (∀ d ∈ ds, d < 10) ∧
      x = if sign t = "-" then -(natOfDigits ds * 10 ^ k : ℚ) else natOfDigits ds * 10 ^ k := by
  cases h with
  | @decimal s m e y k hs hm he =>
    refine ⟨Text.digitValues (m.before '.') ++ Text.digitValues (m.after '.'),
      k - (m.after '.').length, ?_, ?_, ?_⟩
    · rw [ofText?_decimal hs hm.isMantissa he.isExponent, sign_append_of_isMantissa hs hm.isMantissa,
        decimalOfText?_append _ hm.isMantissa he.isExponent, ← he.eq_signedNat]
    · intro d hd
      rcases List.mem_append.1 hd with hd | hd
      · exact Text.lt_of_mem_digitValues hd
      · exact Text.lt_of_mem_digitValues hd
    · have moved : y * 10 ^ k = natOfDigits (Text.digitValues (m.before '.') ++
          Text.digitValues (m.after '.')) * 10 ^ (k - (m.after '.').length) := by
        rw [hm.eq_div, zpow_sub₀ (by norm_num), zpow_natCast]
        ring
      rw [sign_append_of_isMantissa hs hm.isMantissa, moved]

/-- A numeral denotes one number at most. -/
theorem Denotes.unique {y : ℚ} (h : Denotes t x) (h' : Denotes t y) : x = y := by
  obtain ⟨ds, k, read, -, rfl⟩ := exists_decimal_of_denotes h
  obtain ⟨es, l, read', -, rfl⟩ := exists_decimal_of_denotes h'
  obtain ⟨-, rfl, rfl⟩ := Numeral.decimal.inj (Option.some.inj (read.symm.trans read'))
  rfl

theorem Denotes.ne_infinity (h : Denotes t x) : t ≠ "-Infinity" := by
  cases h with
  | @decimal s m e y k hs hm =>
    intro word
    -- What stands behind the sign starts with a digit or a point, and the word with a letter.
    have signs := congrArg sign word
    rw [sign_append_of_isMantissa hs hm.isMantissa] at signs
    subst signs
    have body : m ++ e = infinityWord := (List.cons.inj word).2
    refine not_isPrefixOf_of_isMantissa hm.isMantissa e ?_
    rw [body]
    decide

/-! ### Rounding -/

/-- The place of the first digit bounds a number from above. -/
theorem value_lt_zpow (h : ∀ d ∈ ds, d < 10) (k : ℤ) :
    (natOfDigits ds * 10 ^ k : ℚ) < 10 ^ (ds.length + k) := by
  have bound : (natOfDigits ds : ℚ) < 10 ^ ds.length := by exact_mod_cast natOfDigits_lt_pow h
  rw [zpow_add₀ (by norm_num), zpow_natCast]
  gcongr

/-- The place of a first digit that is not zero bounds a number from below. -/
theorem zpow_le_value {d : Nat} (hd : d ≠ 0) (ds : List Nat) (k : ℤ) :
    (10 ^ (ds.length + k) : ℚ) ≤ natOfDigits (d :: ds) * 10 ^ k := by
  have bound : (10 ^ ds.length : ℚ) ≤ natOfDigits (d :: ds) := by
    exact_mod_cast pow_le_natOfDigits hd ds
  rw [zpow_add₀ (by norm_num), zpow_natCast]
  gcongr

theorem ten_zpow_le_two_zpow : (10 : ℚ) ^ (-331 : ℤ) ≤ 2 ^ (-1075 : ℤ) := by
  -- Four places are worth more than thirteen bits, and three more than nine.
  have powers : (2 : ℚ) ^ 1075 ≤ 10 ^ 331 :=
    calc (2 : ℚ) ^ 1075 = 2 ^ 9 * (2 ^ 13) ^ 82 := by rw [← pow_mul, ← pow_add]
      _ ≤ 10 ^ 3 * (10 ^ 4) ^ 82 := by gcongr <;> norm_num
      _ = 10 ^ 331 := by rw [← pow_mul, ← pow_add]
  rw [zpow_neg, zpow_neg]
  exact inv_anti₀ (by positivity) (by exact_mod_cast powers)

theorem two_zpow_le_ten_zpow : (2 : ℚ) ^ (1024 : ℤ) ≤ 10 ^ (310 : ℤ) := by
  -- Twenty-eight places are worth more than ninety-three bits.
  have powers : (2 : ℚ) ^ 1024 ≤ 10 ^ 310 :=
    calc (2 : ℚ) ^ 1024 = 2 * (2 ^ 93) ^ 11 := by rw [← pow_mul, ← pow_succ']
      _ ≤ 10 ^ 2 * (10 ^ 28) ^ 11 := by gcongr <;> norm_num
      _ = 10 ^ 310 := by rw [← pow_mul, ← pow_add]
  exact_mod_cast powers

/-- A decimal number is read as the nearest number of the format. The two ways out by the place of the
first digit lead to the right side of the range. -/
theorem isRounded_toBinary64_decimal (negative : Bool) (h : ∀ d ∈ ds, d < 10) (k : ℤ) :
    IsRounded negative (natOfDigits ds * 10 ^ k) (toBinary64 (.decimal negative ds k)) := by
  have significant : ∀ d ∈ ds.dropWhile (· = 0), d < 10 :=
    fun d hd => h d ((List.dropWhile_sublist _).subset hd)
  have first : ∀ d ∈ (ds.dropWhile (· = 0)).head?, d ≠ 0 := by
    intro d hd
    have := List.head?_dropWhile_not (fun d => decide (d = 0)) ds
    rw [Option.mem_def.1 hd] at this
    simpa using this
  rw [toBinary64, ← natOfDigits_dropWhile_zero ds]
  generalize ds.dropWhile (· = 0) = digits at significant first
  split_ifs with zeros high low
  · have nothing : digits = [] := List.isEmpty_iff.1 zeros
    rw [nothing, natOfDigits_nil, Nat.cast_zero, zero_mul]
    exact isRounded_zero negative le_rfl (by rw [mul_zero]; positivity)
  · obtain ⟨d, rest, rfl⟩ := List.exists_cons_of_ne_nil fun nil => zeros (List.isEmpty_iff.2 nil)
    rw [List.length_cons] at high
    refine .infinite ?_
    calc overflow ≤ 2 ^ (1024 : ℤ) := overflow_le_two_zpow
      _ ≤ 10 ^ (310 : ℤ) := two_zpow_le_ten_zpow
      _ ≤ 10 ^ (rest.length + k) := zpow_le_zpow_right₀ (by norm_num) (by omega)
      _ ≤ natOfDigits (d :: rest) * 10 ^ k := zpow_le_value (first d rfl) rest k
  · have below : (natOfDigits digits * 10 ^ k : ℚ) < 2 ^ (-1075 : ℤ) :=
      calc (natOfDigits digits * 10 ^ k : ℚ) < 10 ^ (digits.length + k) :=
            value_lt_zpow significant k
        _ ≤ 10 ^ (-331 : ℤ) := zpow_le_zpow_right₀ (by norm_num) (by omega)
        _ ≤ 2 ^ (-1075 : ℤ) := ten_zpow_le_two_zpow
    refine isRounded_zero negative (by positivity) ?_
    rw [← two_mul_half_least]
    linarith
  · have scale : 0 < Nat.pow 10 (-k).toNat := Nat.pow_pos (by decide)
    have quotient : ((natOfDigits digits * Nat.pow 10 k.toNat : ℕ) : ℚ) /
        (Nat.pow 10 (-k).toNat : ℕ) = natOfDigits digits * 10 ^ k := by
      rw [zpow_eq_div (by norm_num : (10 : ℚ) ≠ 0) k, mul_div_assoc']
      push_cast [Nat.pow_eq]
      rfl
    have rounded := isRounded_round negative (natOfDigits digits * Nat.pow 10 k.toNat) scale
    rwa [quotient] at rounded

/-- A decimal number is rounded to below zero if it has a minus and is further from zero than half
the least positive number. -/
theorem isNegative_toBinary64_decimal (h : ∀ d ∈ ds, d < 10) :
    (toBinary64 (.decimal negative ds k)).isNegative = true ↔
      negative = true ∧ (2 : ℚ) ^ (-1075 : ℤ) < natOfDigits ds * 10 ^ k :=
  (isRounded_toBinary64_decimal negative h k).isNegative_iff (by positivity)

theorem sign_eq_minus_iff : sign t = "-" ↔ t.head? = some (CodePoint.ofChar '-') := by
  cases t with
  | nil => exact iff_of_false (by decide) (by simp)
  | cons c t =>
    rw [sign]
    split_ifs with signed
    · simp [Text.ofString]
    · refine iff_of_false (by decide) fun minus => signed (.inr ?_)
      exact Option.some.inj minus

theorem abs_signed (negative : Prop) [Decidable negative] {y : ℚ} (hy : 0 ≤ y) :
    |if negative then -y else y| = y := by
  split_ifs
  · rw [abs_neg, abs_of_nonneg hy]
  · exact abs_of_nonneg hy

/-- A numeral that denotes a number is read as one below zero if it has a minus and its number is
further from zero than half the least positive one. -/
theorem isNegative_toBinary64_of_denotes (h : Denotes t x) (hn : ofText? t = some n) :
    n.toBinary64.isNegative = true ↔
      t.head? = some (CodePoint.ofChar '-') ∧ (2 : ℚ) ^ (-1075 : ℤ) < |x| := by
  obtain ⟨ds, k, read, digits, rfl⟩ := exists_decimal_of_denotes h
  obtain rfl := Option.some.inj (read.symm.trans hn)
  rw [isNegative_toBinary64_decimal digits, abs_signed _ (by positivity), isMinus,
    decide_eq_true_iff, sign_eq_minus_iff]

/-- The numerals with a minus that are infinite or denote a number that is further from zero than
half the least positive one. -/
theorem isNegative_toBinary64_iff (h : IsLiteral t) (hn : ofText? t = some n) :
    n.toBinary64.isNegative = true ↔ IsBelowZero t := by
  cases h with
  | infinity hs =>
    obtain rfl := Option.some.inj ((ofText?_infinity hs).symm.trans hn)
    cases hs with
    | none => exact iff_of_false (by decide) fun minus => absurd minus.1 (by decide)
    | plus => exact iff_of_false (by decide) fun minus => absurd minus.1 (by decide)
    | minus => exact iff_of_true rfl ⟨rfl, .inl rfl⟩
  | decimal hs hm he =>
    obtain ⟨x, hx⟩ := exists_denotes hs hm he
    rw [isNegative_toBinary64_of_denotes hx hn, IsBelowZero, or_iff_right hx.ne_infinity]
    refine and_congr_right fun _ => ⟨fun above => ⟨x, hx, above⟩, ?_⟩
    rintro ⟨y, hy, above⟩
    rwa [hy.unique hx] at above

/-! ### The number that is read -/

theorem isMinus_sign (t : Text) : isMinus (sign t) = hasMinus t :=
  decide_eq_decide.2 sign_eq_minus_iff

theorem IsSign.isMinus_eq (h : IsSign s) : isMinus s = hasMinus s := by
  cases h <;> rfl

/-- The number that is read is the one that a numeral is rounded to. -/
theorem RoundsTo.map_ofText? {y : Binary64} (h : RoundsTo t y) :
    (ofText? t).map toBinary64 = some y := by
  cases h with
  | infinity hs => rw [ofText?_infinity hs, hs.isMinus_eq, Option.map_some, toBinary64]
  | decimal hq hy =>
    obtain ⟨ds, k, read, digits, rfl⟩ := exists_decimal_of_denotes hq
    have rounded := isRounded_toBinary64_decimal (isMinus (sign t)) digits k
    rw [abs_signed _ (by positivity), ← isMinus_sign] at hy
    rw [read, Option.map_some, rounded.unique hy]

/-- A text of the grammar is rounded to a number. -/
theorem exists_roundsTo (h : IsLiteral t) : ∃ y, RoundsTo t y := by
  cases h with
  | infinity hs => exact ⟨_, .infinity hs⟩
  | @decimal s m e hs hm he =>
    obtain ⟨x, hx⟩ := exists_denotes hs hm he
    obtain ⟨ds, k, -, digits, value⟩ := exists_decimal_of_denotes hx
    have rounded := isRounded_toBinary64_decimal (hasMinus (s ++ m ++ e)) digits k
    have magnitude : |x| = natOfDigits ds * 10 ^ k := by
      rw [value, abs_signed _ (by positivity)]
    rw [← magnitude] at rounded
    exact ⟨_, .decimal hx rounded⟩

/-- A text of the grammar is read as the number that it is rounded to, and as no other. -/
theorem map_ofText?_eq_some_iff (h : IsLiteral t) {y : Binary64} :
    (ofText? t).map toBinary64 = some y ↔ RoundsTo t y := by
  refine ⟨fun read => ?_, RoundsTo.map_ofText?⟩
  obtain ⟨z, hz⟩ := exists_roundsTo h
  rwa [← Option.some.inj (hz.map_ofText?.symm.trans read)]

end Numeral

end RobotsExclusion
