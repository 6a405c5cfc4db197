import RobotsExclusion.Proofs.Numeral

/-!
# The longest numeral at the start of a text

The parts of a numeral are read one after the other, and none of them is given up again once it has
been read. What is found this way is the longest numeral that the text starts with: the digits and
the point are read as far as they go, and where more digits follow than a numeral needs, no exponent
of it can follow them.

## Main definitions

* `Numeral.IsLongest` — the longest text of the grammar that a text starts with

## Main results

* `Numeral.leading?_infinity_append`, `Numeral.leading?_mantissa_append` — what is found where the
  word for infinity or digits stand at the start
* `Numeral.leading?_eq_some_iff` — what is found is the longest numeral
* `Numeral.leading?_eq_none_iff` — nothing is found where no numeral stands
-/

namespace RobotsExclusion

/-- No decimal digit is a letter. -/
theorem CodePoint.isAsciiLetter_of_isDigit {c : CodePoint} (h : c.isDigit = true) :
    c.isAsciiLetter = false := by
  have apart : ∀ z ∈ digitZeros, z + 9 < 0x41 ∨ 0x7A < z := by decide
  obtain ⟨d, hd⟩ := Option.isSome_iff_exists.1 h
  obtain ⟨z, hz, hc, small⟩ := exists_zero_of_digit? hd
  have := apart z hz
  simp only [isAsciiLetter, Bool.or_eq_false_iff, Bool.and_eq_false_iff, decide_eq_false_iff_not]
  omega

namespace Numeral

variable {t n p s m e rest : Text}

/-- The longest text of the grammar that a text starts with. -/
structure IsLongest (t n : Text) : Prop where
  literal : IsLiteral n
  starts : n <+: t
  length_le : ∀ p, IsLiteral p → p <+: t → p.length ≤ n.length

/-- There is only one longest numeral. -/
theorem IsLongest.unique (h : IsLongest t n) (h' : IsLongest t p) : n = p := by
  have same : n.length = p.length :=
    Nat.le_antisymm (h'.length_le n h.literal h.starts) (h.length_le p h'.literal h'.starts)
  exact (List.prefix_of_prefix_length_le h.starts h'.starts same.le).eq_of_length same

/-! ### What is found stands at the start -/

/-- What is found behind the start of a text goes on where that ends. -/
theorem append_starts {first more : Text} (hfirst : first <+: t)
    (hmore : more <+: t.drop first.length) : first ++ more <+: t := by
  obtain ⟨behind, rfl⟩ := hfirst
  rw [List.drop_left] at hmore
  exact (List.prefix_append_right_inj first).2 hmore

theorem sign_starts (t : Text) : sign t <+: t := by
  cases t with
  | nil => exact List.prefix_rfl
  | cons c t =>
    rw [sign]
    split_ifs
    · exact List.prefix_append [c] t
    · exact List.nil_prefix

theorem digits_starts (t : Text) : digits t <+: t := List.takeWhile_prefix _

theorem mantissa_starts (t : Text) : mantissa t <+: t := by
  rw [mantissa]
  split
  case h_1 => exact digits_starts t
  case h_2 c rest behind =>
    dsimp only
    split_ifs
    · exact List.nil_prefix
    · refine append_starts (digits_starts t) ?_
      rw [behind, List.cons_prefix_cons]
      exact ⟨rfl, digits_starts rest⟩
    · exact digits_starts t

theorem exponent_starts (t : Text) : exponent t <+: t := by
  cases t with
  | nil => exact List.prefix_rfl
  | cons c rest =>
    rw [exponent]
    dsimp only
    split_ifs
    · exact List.nil_prefix
    · rw [List.cons_append, List.cons_prefix_cons]
      exact ⟨rfl, append_starts (sign_starts rest) (digits_starts _)⟩
    · exact List.nil_prefix

/-- What is found stands at the start of the text. -/
theorem starts_of_leading? (h : leading? t = some n) : n <+: t := by
  unfold leading? at h
  dsimp only at h
  split_ifs at h with infinite
  · obtain rfl := Option.some.inj h
    exact append_starts (sign_starts t) (List.isPrefixOf_iff_prefix.1 infinite)
  · obtain rfl := Option.some.inj h
    rw [List.append_assoc]
    exact append_starts (sign_starts t) (append_starts (mantissa_starts _) (exponent_starts _))

/-! ### Nothing longer stands there -/

/-- A mantissa is found at least as long as it is. -/
theorem length_le_mantissa_append (h : IsMantissa m) (rest : Text) :
    m.length ≤ (mantissa (m ++ rest)).length := by
  cases h with
  | whole hds hsome =>
    have read := digits_append_of_allDigits hds rest
    have long : m.length ≤ (digits (m ++ rest)).length := by simp [read]
    rw [mantissa]
    split
    case h_1 => exact long
    case h_2 c more behind =>
      dsimp only
      split_ifs with point empty
      · -- The digits are some, so the text is not a point alone.
        simp [read, hsome] at empty
      · rw [List.length_append]
        omega
      · exact long
  | pointed hds hfs hsome =>
    rw [mantissa_append_of_point (.pointed hds hfs hsome) (by simp)]
    simp

theorem head?_of_isExponent (h : IsExponent e) (some : e ≠ []) :
    ∀ c ∈ (e ++ rest).head?, c.isDigit = false ∧ c ≠ CodePoint.ofChar '.' := by
  cases h with
  | none => exact absurd rfl some
  | some letter =>
    rintro c hc
    obtain rfl := Option.some.inj hc
    rcases letter with rfl | rfl <;> decide

/-- An exponent is found at least as long as it is. -/
theorem length_le_exponent_append (h : IsExponent e) (rest : Text) :
    e.length ≤ (exponent (e ++ rest)).length := by
  by_cases some : e = []
  · simp [some]
  · simp [exponent_append h some rest]

/-- Digits with a point and an exponent are found at least as long as they are. -/
theorem length_le_mantissa_exponent (hm : IsMantissa m) (he : IsExponent e) (rest : Text) :
    m.length + e.length ≤ (mantissa (m ++ (e ++ rest))).length +
      (exponent ((m ++ (e ++ rest)).drop (mantissa (m ++ (e ++ rest))).length)).length := by
  by_cases some : e = []
  · -- Without an exponent, more digits may follow, or a point, or an exponent that is not counted.
    have := length_le_mantissa_append hm (e ++ rest)
    simp only [some, List.length_nil] at this ⊢
    omega
  · -- The letter of an exponent ends the digits before it.
    rw [mantissa_append hm (head?_of_isExponent he some), List.drop_left]
    exact Nat.add_le_add_left (length_le_exponent_append he rest) _

/-- No word starts like a mantissa. -/
theorem exists_head_not_isAsciiLetter (h : IsMantissa m) :
    ∃ c more, m = c :: more ∧ c.isAsciiLetter = false := by
  obtain ⟨c, more, rfl, digit | rfl⟩ := h.exists_head
  · exact ⟨c, more, rfl, CodePoint.isAsciiLetter_of_isDigit digit⟩
  · exact ⟨_, more, rfl, by decide⟩

theorem not_isPrefixOf_of_isMantissa (h : IsMantissa m) (rest : Text) :
    ¬ infinityWord.isPrefixOf (m ++ rest) = true := by
  obtain ⟨c, more, rfl, hc⟩ := exists_head_not_isAsciiLetter h
  intro word
  obtain ⟨rfl, -⟩ := List.cons_prefix_cons.1 (List.isPrefixOf_iff_prefix.1 word)
  cases hc

/-- The word for infinity is found whatever follows it. -/
theorem leading?_infinity_append (hs : IsSign s) (rest : Text) :
    leading? (s ++ infinityWord ++ rest) = some (s ++ infinityWord) := by
  have letter : ∀ c ∈ (infinityWord ++ rest).head?,
      c ≠ CodePoint.ofChar '+' ∧ c ≠ CodePoint.ofChar '-' := by
    rintro c hc
    obtain rfl : CodePoint.ofChar 'I' = c := Option.some.inj hc
    decide
  have word : infinityWord.isPrefixOf (infinityWord ++ rest) = true :=
    List.isPrefixOf_iff_prefix.2 (List.prefix_append _ _)
  rw [leading?, List.append_assoc, sign_append hs letter, List.drop_left]
  exact if_pos word

/-- Where digits follow a sign, they are read with their point and after that with an exponent. -/
theorem leading?_mantissa_append (hs : IsSign s) (hm : IsMantissa m) (rest : Text) :
    leading? (s ++ m ++ rest) = some (s ++ mantissa (m ++ rest) ++
      exponent ((m ++ rest).drop (mantissa (m ++ rest)).length)) := by
  have found : ¬ (mantissa (m ++ rest)).isEmpty = true := by
    obtain ⟨c, more, hmore, -⟩ := hm.exists_head
    have long := length_le_mantissa_append hm rest
    rw [List.isEmpty_iff, ← List.length_eq_zero_iff]
    have : 0 < m.length := by simp [hmore]
    omega
  have noWord := not_isPrefixOf_of_isMantissa hm rest
  rw [leading?, sign_append_of_isMantissa hs hm, List.append_assoc, List.drop_left]
  dsimp only
  rw [if_neg noWord, if_neg found]

/-- Where a numeral stands at the start, one is found that is at least as long. -/
theorem exists_leading?_append (h : IsLiteral p) (rest : Text) :
    ∃ n, leading? (p ++ rest) = some n ∧ p.length ≤ n.length := by
  cases h with
  | @infinity s hs => exact ⟨_, leading?_infinity_append hs rest, le_rfl⟩
  | @decimal s m e hs hm he =>
    have long := length_le_mantissa_exponent hm he rest
    rw [List.append_assoc (s ++ m)]
    refine ⟨_, leading?_mantissa_append hs hm (e ++ rest), ?_⟩
    simp only [List.length_append]
    omega

/-! ### The longest numeral -/

theorem isLongest_of_leading? (h : leading? t = some n) : IsLongest t n := by
  refine ⟨isLiteral_of_leading? h, starts_of_leading? h, ?_⟩
  rintro p hp ⟨rest, rfl⟩
  obtain ⟨n', found, long⟩ := exists_leading?_append hp rest
  obtain rfl := Option.some.inj (h.symm.trans found)
  exact long

/-- What is found is the longest numeral that the text starts with. -/
theorem leading?_eq_some_iff : leading? t = some n ↔ IsLongest t n := by
  refine ⟨isLongest_of_leading?, fun h => ?_⟩
  obtain ⟨rest, rfl⟩ := h.starts
  obtain ⟨n', found, -⟩ := exists_leading?_append h.literal rest
  rw [found, (isLongest_of_leading? found).unique h]

/-- Nothing is found exactly where the text starts with no numeral. -/
theorem leading?_eq_none_iff : leading? t = none ↔ ∀ p, IsLiteral p → ¬ p <+: t := by
  constructor
  · rintro h p hp ⟨rest, rfl⟩
    obtain ⟨n, found, -⟩ := exists_leading?_append hp rest
    cases h.symm.trans found
  · intro h
    by_contra some
    obtain ⟨n, found⟩ := Option.ne_none_iff_exists'.1 some
    exact h n (isLiteral_of_leading? found) (starts_of_leading? found)

end Numeral

end RobotsExclusion
