import RobotsExclusion.Numeral
import Mathlib.Data.List.TakeWhile
import Mathlib.Tactic.SplitIfs

/-!
# Numerals as a grammar

The numerals at the start of a text are those of a small grammar: perhaps a sign, then the word for
infinity or decimal digits with at most one point and perhaps an exponent. Every text of the grammar
denotes a number.

## Main definitions

* `Numeral.IsSign`, `Numeral.IsMantissa`, `Numeral.IsExponent` — the parts of a numeral
* `Numeral.IsLiteral` — the grammar

## Main results

* `Numeral.isLiteral_of_leading?` — what is found at the start of a text belongs to the grammar
* `Numeral.isSome_ofText?_of_isLiteral` — a text of the grammar denotes a number
-/

namespace RobotsExclusion

/-- No decimal digit is white space. -/
theorem CodePoint.isBlank_of_isDigit {c : CodePoint} (h : c.isDigit = true) :
    c.isBlank = false := by
  have apart : ∀ z ∈ digitZeros, ∀ r ∈ blankRanges, z + 9 < r.1 ∨ r.2 < z := by decide
  obtain ⟨d, hd⟩ := Option.isSome_iff_exists.1 h
  obtain ⟨z, hz, hc, small⟩ := exists_zero_of_digit? hd
  refine eq_false_of_ne_true fun blank => ?_
  obtain ⟨r, hr, low, high⟩ := exists_range_of_isBlank blank
  have := apart z hz r hr
  omega

namespace Numeral

variable {t s m e ds rest : Text} {c : CodePoint}

/-- A sign, or nothing. -/
inductive IsSign : Text → Prop
  | none : IsSign []
  | plus : IsSign "+"
  | minus : IsSign "-"

/-- Decimal digits of any script. -/
def AllDigits (ds : Text) : Prop := ∀ c ∈ ds, c.isDigit = true

/-- Digits with at most one point, before, among or after them. -/
inductive IsMantissa : Text → Prop
  | whole {ds : Text} : AllDigits ds → ds ≠ [] → IsMantissa ds
  | pointed {ds fs : Text} : AllDigits ds → AllDigits fs → (ds ≠ [] ∨ fs ≠ []) →
      IsMantissa (ds ++ CodePoint.ofChar '.' :: fs)

/-- A letter `e`, perhaps a sign, and digits; or nothing. -/
inductive IsExponent : Text → Prop
  | none : IsExponent []
  | some {c : CodePoint} {s ds : Text} : c = CodePoint.ofChar 'e' ∨ c = CodePoint.ofChar 'E' →
      IsSign s → AllDigits ds → ds ≠ [] → IsExponent (c :: s ++ ds)

/-- The numerals: perhaps a sign, then the word for infinity or digits with at most one point and
perhaps an exponent. -/
inductive IsLiteral : Text → Prop
  | infinity {s : Text} : IsSign s → IsLiteral (s ++ infinityWord)
  | decimal {s m e : Text} : IsSign s → IsMantissa m → IsExponent e → IsLiteral (s ++ m ++ e)

/-! ### What is found at the start of a text -/

theorem isSign_sign (t : Text) : IsSign (sign t) := by
  cases t with
  | nil => exact .none
  | cons c t =>
    rw [sign]
    split_ifs with h
    · rcases h with rfl | rfl
      · exact .plus
      · exact .minus
    · exact .none

theorem allDigits_digits (t : Text) : AllDigits (digits t) := fun _ hc => List.mem_takeWhile_imp hc

theorem isMantissa_mantissa (h : mantissa t ≠ []) : IsMantissa (mantissa t) := by
  revert h
  rw [mantissa]
  split
  case h_1 => exact fun h => .whole (allDigits_digits t) h
  case h_2 c rest _ =>
    dsimp only
    split_ifs with point empty
    · exact fun h => absurd rfl h
    · intro
      subst point
      refine .pointed (allDigits_digits t) (allDigits_digits rest) ?_
      rwa [Bool.and_eq_true, List.isEmpty_iff, List.isEmpty_iff, not_and_or] at empty
    · exact fun h => .whole (allDigits_digits t) h

theorem isExponent_exponent (t : Text) : IsExponent (exponent t) := by
  cases t with
  | nil => exact .none
  | cons c rest =>
    rw [exponent]
    dsimp only
    split_ifs with letter empty
    · exact .none
    · refine .some letter (isSign_sign rest) (allDigits_digits _) ?_
      simpa using empty
    · exact .none

/-- What is found at the start of a text belongs to the grammar. -/
theorem isLiteral_of_leading? {n : Text} (h : leading? t = some n) : IsLiteral n := by
  unfold leading? at h
  dsimp only at h
  split_ifs at h with infinite empty
  · obtain rfl := Option.some.inj h
    exact .infinity (isSign_sign t)
  · obtain rfl := Option.some.inj h
    refine .decimal (isSign_sign t) (isMantissa_mantissa ?_) (isExponent_exponent _)
    simpa using empty

/-! ### Reading the parts of a numeral -/

/-- Digits are read at least as far as they are known to go. -/
theorem digits_append_of_allDigits (h : AllDigits ds) (rest : Text) :
    digits (ds ++ rest) = ds ++ digits rest :=
  List.takeWhile_append_of_pos h

theorem digits_eq_nil (h : ∀ c ∈ t.head?, c.isDigit = false) : digits t = [] := by
  cases t with
  | nil => rfl
  | cons c t => exact List.takeWhile_cons_of_neg (Bool.eq_false_iff.1 (h c rfl))

theorem digits_append (h : AllDigits ds) (hrest : ∀ c ∈ rest.head?, c.isDigit = false) :
    digits (ds ++ rest) = ds := by
  rw [digits_append_of_allDigits h, digits_eq_nil hrest, List.append_nil]

theorem sign_append (h : IsSign s)
    (hrest : ∀ c ∈ rest.head?, c ≠ CodePoint.ofChar '+' ∧ c ≠ CodePoint.ofChar '-') :
    sign (s ++ rest) = s := by
  cases h with
  | none =>
    cases rest with
    | nil => rfl
    | cons c rest =>
      obtain ⟨plus, minus⟩ := hrest c rfl
      exact if_neg (not_or.2 ⟨plus, minus⟩)
  | plus => rfl
  | minus => rfl

theorem ne_sign_of_isDigit (h : c.isDigit = true) :
    c ≠ CodePoint.ofChar '+' ∧ c ≠ CodePoint.ofChar '-' := by
  constructor <;> rintro rfl <;> revert h <;> decide

/-- A mantissa starts with a digit or a point. -/
theorem IsMantissa.exists_head (h : IsMantissa m) :
    ∃ c rest, m = c :: rest ∧ (c.isDigit = true ∨ c = CodePoint.ofChar '.') := by
  cases h with
  | whole hds hsome =>
    obtain ⟨c, rest, rfl⟩ := List.exists_cons_of_ne_nil hsome
    exact ⟨c, rest, rfl, .inl (hds c List.mem_cons_self)⟩
  | @pointed ds fs hds =>
    cases ds with
    | nil => exact ⟨CodePoint.ofChar '.', fs, rfl, .inr rfl⟩
    | cons c ds => exact ⟨c, _, List.cons_append, .inl (hds c List.mem_cons_self)⟩

theorem exists_head_of_isMantissa (h : IsMantissa m) : ∃ c rest, m = c :: rest ∧
    c ≠ CodePoint.ofChar '+' ∧ c ≠ CodePoint.ofChar '-' := by
  obtain ⟨c, rest, rfl, digit | rfl⟩ := h.exists_head
  · exact ⟨c, rest, rfl, ne_sign_of_isDigit digit⟩
  · exact ⟨_, rest, rfl, by decide⟩

theorem point_not_mem (h : AllDigits ds) : CodePoint.ofChar '.' ∉ ds := by
  intro mem
  have digit := h _ mem
  revert digit
  decide

/-- Where a mantissa with its point stands at the start, it is read with all digits that follow. -/
theorem mantissa_append_of_point (h : IsMantissa m) (point : CodePoint.ofChar '.' ∈ m)
    (rest : Text) : mantissa (m ++ rest) = m ++ digits rest := by
  cases h with
  | whole hds => exact absurd point (point_not_mem hds)
  | @pointed ds fs hds hfs hsome =>
    have stop : ∀ c ∈ (CodePoint.ofChar '.' :: (fs ++ rest)).head?, c.isDigit = false := by
      rintro c hc
      obtain rfl := Option.some.inj hc
      decide
    rw [mantissa, List.append_assoc, List.cons_append, digits_append hds stop, List.drop_left]
    dsimp only
    rw [if_pos rfl, digits_append_of_allDigits hfs, if_neg]
    · simp
    · rw [Bool.and_eq_true, List.isEmpty_iff, List.isEmpty_iff]
      rintro ⟨rfl, fraction⟩
      simp [(List.append_eq_nil_iff.1 fraction).1] at hsome

/-- The digits and the point are read up to what is neither. -/
theorem mantissa_append (h : IsMantissa m)
    (hrest : ∀ c ∈ rest.head?, c.isDigit = false ∧ c ≠ CodePoint.ofChar '.') :
    mantissa (m ++ rest) = m := by
  have hdigit : ∀ c ∈ rest.head?, c.isDigit = false := fun c hc => (hrest c hc).1
  by_cases point : CodePoint.ofChar '.' ∈ m
  · rw [mantissa_append_of_point h point, digits_eq_nil hdigit, List.append_nil]
  · cases h with
    | whole hds =>
      rw [mantissa, digits_append hds hdigit, List.drop_left]
      cases rest with
      | nil => rfl
      | cons c rest => exact if_neg (hrest c rfl).2
    | pointed => simp at point

/-- Where an exponent stands at the start, it is read with all digits that follow. -/
theorem exponent_append (h : IsExponent e) (some : e ≠ []) (rest : Text) :
    exponent (e ++ rest) = e ++ digits rest := by
  cases h with
  | none => exact absurd rfl some
  | @some c s ds letter hs hds hsome =>
    obtain ⟨d, ds, rfl⟩ := List.exists_cons_of_ne_nil hsome
    have notSign : ∀ c ∈ ((d :: ds) ++ rest).head?,
        c ≠ CodePoint.ofChar '+' ∧ c ≠ CodePoint.ofChar '-' := by
      rintro c hc
      obtain rfl := Option.some.inj hc
      exact ne_sign_of_isDigit (hds _ List.mem_cons_self)
    have read := digits_append_of_allDigits hds rest
    rw [List.cons_append, List.cons_append, List.append_assoc, exponent, if_pos letter,
      sign_append hs notSign]
    dsimp only
    rw [List.drop_left, read, if_neg (by simp)]
    simp

theorem exponent_of_isExponent (h : IsExponent e) : exponent e = e := by
  by_cases some : e = []
  · rw [some]
    rfl
  · have read := exponent_append h some []
    rwa [List.append_nil, digits, List.takeWhile_nil, List.append_nil] at read

/-! ### Reading a whole numeral -/

/-- A character that is kept when white space and underscores are taken out of a numeral. -/
def IsKept (c : CodePoint) : Prop := isPadding c = false ∧ c ≠ CodePoint.ofChar '_'

instance (c : CodePoint) : Decidable (IsKept c) := inferInstanceAs (Decidable (_ ∧ _))

theorem isKept_of_isDigit (h : c.isDigit = true) : IsKept c := by
  constructor
  · have blank := CodePoint.isBlank_of_isDigit h
    unfold isPadding
    split_ifs
    · -- Among the ASCII characters, all that may surround a numeral are blanks.
      by_contra padding
      refine Bool.false_ne_true (blank.symm.trans (List.any_eq_true.2 ?_))
      simp only [Bool.or_eq_false_iff, Bool.and_eq_false_iff, decide_eq_false_iff_not,
        beq_eq_false_iff_ne, not_and_or, not_not] at padding
      rcases padding with within | space
      · exact ⟨(0x9, 0xD), by decide, by simp; omega⟩
      · exact ⟨(0x1C, 0x20), by decide, by simp; omega⟩
    · exact blank
  · rintro rfl
    revert h
    decide

theorem forall_isKept_of_isSign (h : IsSign s) : ∀ c ∈ s, IsKept c := by
  cases h <;> decide

theorem forall_isKept_of_isMantissa (h : IsMantissa m) : ∀ c ∈ m, IsKept c := by
  cases h with
  | whole hds => exact fun c hc => isKept_of_isDigit (hds c hc)
  | pointed hds hfs =>
    intro c hc
    rcases List.mem_append.1 hc with hc | hc
    · exact isKept_of_isDigit (hds c hc)
    · rcases List.mem_cons.1 hc with rfl | hc
      · decide
      · exact isKept_of_isDigit (hfs c hc)

theorem forall_isKept_of_isExponent (h : IsExponent e) : ∀ c ∈ e, IsKept c := by
  cases h with
  | none => simp
  | some letter hs hds =>
    intro c hc
    rcases List.mem_append.1 hc with hc | hc
    · rcases List.mem_cons.1 hc with rfl | hc
      · rcases letter with rfl | rfl <;> decide
      · exact forall_isKept_of_isSign hs c hc
    · exact isKept_of_isDigit (hds c hc)

theorem forall_isKept_of_isLiteral (h : IsLiteral t) : ∀ c ∈ t, IsKept c := by
  cases h with
  | infinity hs =>
    intro c hc
    rcases List.mem_append.1 hc with hc | hc
    · exact forall_isKept_of_isSign hs c hc
    · exact (by decide : ∀ c ∈ infinityWord, IsKept c) c hc
  | decimal hs hm he =>
    intro c hc
    rcases List.mem_append.1 hc with hc | hc
    · rcases List.mem_append.1 hc with hc | hc
      · exact forall_isKept_of_isSign hs c hc
      · exact forall_isKept_of_isMantissa hm c hc
    · exact forall_isKept_of_isExponent he c hc

theorem unpad_of_isKept (h : ∀ c ∈ t, IsKept c) : unpad t = t := by
  have dropped (u : Text) (hu : ∀ c ∈ u, IsKept c) : u.dropWhile isPadding = u := by
    cases u with
    | nil => rfl
    | cons c u => exact List.dropWhile_cons_of_neg (Bool.eq_false_iff.1 (hu c List.mem_cons_self).1)
  rw [unpad, dropped t h, dropped t.reverse fun c hc => h c (List.mem_reverse.1 hc),
    List.reverse_reverse]

/-- Digits with a point and an exponent are a number, whose digits are those on both sides of the
point. -/
theorem decimalOfText?_append (negative : Bool) (hm : IsMantissa m) (he : IsExponent e) :
    decimalOfText? negative (m ++ e) = some (.decimal negative
      (Text.digitValues (m.before '.') ++ Text.digitValues (m.after '.'))
      (signedNat (sign (e.drop 1)) (e.drop 1) - (m.after '.').length)) := by
  have notDigit : ∀ c ∈ e.head?, c.isDigit = false ∧ c ≠ CodePoint.ofChar '.' := by
    cases he with
    | none => simp
    | some letter =>
      rintro c hc
      obtain rfl := Option.some.inj hc
      rcases letter with rfl | rfl <;> decide
  have nonempty : m ≠ [] := by
    obtain ⟨c, rest, rfl, -⟩ := exists_head_of_isMantissa hm
    exact List.cons_ne_nil c rest
  rw [decimalOfText?, mantissa_append hm notDigit, List.drop_left, exponent_of_isExponent he,
    ← List.length_append, List.drop_length, if_neg (by simpa using nonempty)]

/-- A text of the grammar has no white space and no underscores to take out. -/
theorem ofText?_of_isLiteral (h : IsLiteral t) :
    ofText? t =
      let body := t.drop (sign t).length
      let word := body.map CodePoint.asciiLower
      if word = "inf" ∨ word = "infinity" then some (.infinity (isMinus (sign t)))
      else if word = "nan" then some .nan
      else decimalOfText? (isMinus (sign t)) body := by
  have kept := forall_isKept_of_isLiteral h
  have plain : ¬ t.contains (CodePoint.ofChar '_') = true := by
    intro underscore
    exact (kept _ (List.contains_iff_mem.1 underscore)).2 rfl
  rw [ofText?, if_neg plain, unpad_of_isKept kept]
  rfl

/-- A sign before digits is read as the sign, and the digits are what follows it. -/
theorem sign_append_of_isMantissa (hs : IsSign s) (hm : IsMantissa m) (e : Text) :
    sign (s ++ m ++ e) = s := by
  obtain ⟨c, rest, rfl, hc⟩ := exists_head_of_isMantissa hm
  rw [List.append_assoc]
  refine sign_append hs fun d hd => ?_
  obtain rfl := Option.some.inj hd
  exact hc

/-- A text of the grammar denotes a number. -/
theorem isSome_ofText?_of_isLiteral (h : IsLiteral t) : (ofText? t).isSome = true := by
  rw [ofText?_of_isLiteral h]
  cases h with
  | infinity hs =>
    have letter : ∀ c ∈ infinityWord.head?, c ≠ CodePoint.ofChar '+' ∧ c ≠ CodePoint.ofChar '-' := by
      decide
    rw [sign_append hs letter, List.drop_left]
    exact congrArg Option.isSome (if_pos (by decide))
  | @decimal s m e hs hm he =>
    rw [sign_append_of_isMantissa hs hm, List.append_assoc, List.drop_left]
    dsimp only
    rw [decimalOfText?_append _ hm he]
    split_ifs <;> rfl

end Numeral

end RobotsExclusion
