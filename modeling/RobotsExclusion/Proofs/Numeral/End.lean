import RobotsExclusion.Proofs.Numeral.Longest

/-!
# Where a numeral ends

A numeral at the start of a text can go on in three ways only: with a digit, with a point if it has
none and no exponent, and with an exponent if it has none. Where none of these follows, it is the
longest numeral there, and what follows it is not looked at. That holds for the start of an exponent
without digits, for a second point and for a unit.

## Main definitions

* `Numeral.Ends` — a numeral does not go on in the text behind it
* `Numeral.IsIgnored` — the texts that are ignored behind a numeral

## Main results

* `Numeral.isLongest_append_iff` — a numeral is the longest one where it does not go on
* `Numeral.IsIgnored.ends` — no numeral goes on in an ignored text
-/

namespace RobotsExclusion.Numeral

variable {t n u p m e : Text} {c : CodePoint}

/-- The numeral `n` does not go on in the text `u` behind it. -/
inductive Ends : Text → Text → Prop
  | infinity {s u : Text} : IsSign s → Ends (s ++ infinityWord) u
  | exponent {s m e u : Text} : IsSign s → IsMantissa m → IsExponent e → e ≠ [] →
      (∀ c ∈ u.head?, c.isDigit = false) → Ends (s ++ m ++ e) u
  | mantissa {s m u : Text} : IsSign s → IsMantissa m → (∀ c ∈ u.head?, c.isDigit = false) →
      (u.head? = some (CodePoint.ofChar '.') → CodePoint.ofChar '.' ∈ m) →
      (∀ e, IsExponent e → e <+: u → e = []) → Ends (s ++ m) u

/-- The texts that are ignored behind the numeral `n`: an exponent without digits, a second point,
and a unit. -/
inductive IsIgnored (n : Text) : Text → Prop
  | exponent {c : CodePoint} {u : Text} : c = CodePoint.ofChar 'e' ∨ c = CodePoint.ofChar 'E' →
      (∀ e, IsExponent e → e <+: c :: u → e = []) → IsIgnored n (c :: u)
  | point {u : Text} : CodePoint.ofChar '.' ∈ n → IsIgnored n (CodePoint.ofChar '.' :: u)
  | unit {c : CodePoint} {u : Text} : c.isDigit = false →
      c ∉ [CodePoint.ofChar '.', CodePoint.ofChar 'e', CodePoint.ofChar 'E'] → IsIgnored n (c :: u)

/-! ### How a numeral can go on -/

theorem AllDigits.append_singleton {ds : Text} (h : AllDigits ds) (hc : c.isDigit = true) :
    AllDigits (ds ++ [c]) := by
  intro d hd
  rcases List.mem_append.1 hd with hd | hd
  · exact h d hd
  · rwa [List.mem_singleton.1 hd]

/-- A mantissa can go on with a digit. -/
theorem IsMantissa.append_digit (h : IsMantissa m) (hc : c.isDigit = true) :
    IsMantissa (m ++ [c]) := by
  cases h with
  | whole hds => exact .whole (hds.append_singleton hc) (by simp)
  | @pointed ds fs hds hfs =>
    rw [List.append_assoc, List.cons_append]
    exact .pointed hds (hfs.append_singleton hc) (.inr (by simp))

/-- A mantissa without a point can go on with one. -/
theorem IsMantissa.append_point (h : IsMantissa m) (noPoint : CodePoint.ofChar '.' ∉ m) :
    IsMantissa (m ++ [CodePoint.ofChar '.']) := by
  cases h with
  | whole hds some => exact .pointed hds (fun _ none => absurd none List.not_mem_nil) (.inl some)
  | pointed => simp at noPoint

/-- An exponent can go on with a digit. -/
theorem IsExponent.append_digit (h : IsExponent e) (some : e ≠ []) (hc : c.isDigit = true) :
    IsExponent (e ++ [c]) := by
  cases h with
  | none => exact absurd rfl some
  | some letter hs hds =>
    rw [List.append_assoc]
    exact .some letter hs (hds.append_singleton hc) (by simp)

/-- The longest numeral does not go on. -/
theorem IsLongest.eq_nil (h : IsLongest (n ++ u) n) (hp : p <+: u) (more : IsLiteral (n ++ p)) :
    p = [] := by
  have long := h.length_le (n ++ p) more ((List.prefix_append_right_inj n).2 hp)
  rw [List.length_append] at long
  exact List.length_eq_zero_iff.1 (by omega)

theorem IsLongest.not_singleton (h : IsLongest (n ++ u) n) (hc : c ∈ u.head?) :
    ¬ IsLiteral (n ++ [c]) := by
  obtain ⟨rest, rfl⟩ := List.head?_eq_some_iff.1 hc
  exact fun more => List.cons_ne_nil c [] (h.eq_nil ⟨rest, rfl⟩ more)

/-! ### The end of the longest numeral -/

/-- No exponent is found exactly where none stands. -/
theorem exponent_eq_nil_iff : exponent u = [] ↔ ∀ e, IsExponent e → e <+: u → e = [] := by
  constructor
  · rintro nothing e he ⟨rest, rfl⟩
    by_contra some
    rw [exponent_append he some, List.append_eq_nil_iff] at nothing
    exact some nothing.1
  · intro none
    exact none (exponent u) (isExponent_exponent u) (exponent_starts u)

/-- A numeral that does not go on is found whatever follows it. -/
theorem leading?_append_of_ends (h : Ends n u) : leading? (n ++ u) = some n := by
  cases h with
  | infinity hs => exact leading?_infinity_append hs u
  | exponent hs hm he some noDigit =>
    rw [List.append_assoc, leading?_mantissa_append hs hm,
      mantissa_append hm (head?_of_isExponent he some), List.drop_left, exponent_append he some,
      digits_eq_nil noDigit, List.append_nil]
  | @mantissa s m u hs hm noDigit point noExponent =>
    have read : mantissa (m ++ u) = m := by
      -- Behind its own point a mantissa ends where the digits do, whatever ends them.
      by_cases pointed : CodePoint.ofChar '.' ∈ m
      · rw [mantissa_append_of_point hm pointed, digits_eq_nil noDigit, List.append_nil]
      · refine mantissa_append hm fun c hc => ⟨noDigit c hc, ?_⟩
        rintro rfl
        exact pointed (point hc)
    rw [leading?_mantissa_append hs hm, read, List.drop_left, exponent_eq_nil_iff.2 noExponent,
      List.append_nil]

/-- Where a numeral could go on, it is not the longest one. -/
theorem IsLongest.ends (h : IsLongest (n ++ u) n) : Ends n u := by
  cases h.literal with
  | infinity hs => exact .infinity hs
  | @decimal s m e hs hm he =>
    -- Each way to go on would make a longer numeral.
    by_cases some : e = []
    · subst some
      rw [List.append_nil] at h ⊢
      have stands (p : Text) (hp : IsMantissa (m ++ p)) : IsLiteral (s ++ m ++ p) := by
        have := IsLiteral.decimal hs hp .none
        rwa [List.append_nil, ← List.append_assoc] at this
      refine .mantissa hs hm (fun c hc => ?_) (fun hpoint => ?_) (fun e he start => ?_)
      · refine eq_false_of_ne_true fun digit => ?_
        exact h.not_singleton hc (stands [c] (hm.append_digit digit))
      · by_contra noPoint
        exact h.not_singleton hpoint (stands _ (hm.append_point noPoint))
      · exact h.eq_nil start (.decimal hs hm he)
    · refine .exponent hs hm he some fun c hc => eq_false_of_ne_true fun digit => ?_
      have more := IsLiteral.decimal hs hm (he.append_digit some digit)
      rw [← List.append_assoc] at more
      exact h.not_singleton hc more

/-- A numeral is the longest one exactly where it does not go on. -/
theorem isLongest_append_iff : IsLongest (n ++ u) n ↔ Ends n u :=
  ⟨IsLongest.ends, fun h => isLongest_of_leading? (leading?_append_of_ends h)⟩

/-! ### What is ignored -/

theorem IsIgnored.not_isDigit (h : IsIgnored n u) : ∀ c ∈ u.head?, c.isDigit = false := by
  rintro d hd
  cases h with
  | exponent letter =>
    obtain rfl := Option.some.inj hd
    rcases letter with rfl | rfl <;> decide
  | point =>
    obtain rfl := Option.some.inj hd
    decide
  | unit noDigit =>
    obtain rfl := Option.some.inj hd
    exact noDigit

theorem IsIgnored.point_mem (h : IsIgnored n u) (hu : u.head? = some (CodePoint.ofChar '.')) :
    CodePoint.ofChar '.' ∈ n := by
  cases h with
  | exponent letter =>
    obtain rfl := Option.some.inj hu
    exact absurd letter (by decide)
  | point point => exact point
  | unit _ other =>
    obtain rfl := Option.some.inj hu
    exact absurd other (by decide)

theorem IsIgnored.exponent_eq_nil (h : IsIgnored n u) (he : IsExponent e) (start : e <+: u) :
    e = [] := by
  cases h with
  | exponent _ none => exact none e he start
  | point =>
    cases he with
    | none => rfl
    | some letter =>
      obtain ⟨rfl, -⟩ := List.cons_prefix_cons.1 start
      exact absurd letter (by decide)
  | unit _ other =>
    cases he with
    | none => rfl
    | some letter =>
      obtain ⟨rfl, -⟩ := List.cons_prefix_cons.1 start
      rcases letter with rfl | rfl <;> exact absurd other (by decide)

theorem point_not_mem_of_isSign {s : Text} (h : IsSign s) : CodePoint.ofChar '.' ∉ s := by
  cases h <;> decide

/-- No numeral goes on in a text that is ignored behind it. -/
theorem IsIgnored.ends (h : IsIgnored n u) (hn : IsLiteral n) : Ends n u := by
  cases hn with
  | infinity hs => exact .infinity hs
  | @decimal s m e hs hm he =>
    by_cases some : e = []
    · subst some
      rw [List.append_nil] at h ⊢
      refine .mantissa hs hm h.not_isDigit (fun hu => ?_) (fun e he => h.exponent_eq_nil he)
      -- The point that makes another one the second is not in the sign.
      exact (List.mem_append.1 (h.point_mem hu)).resolve_left (point_not_mem_of_isSign hs)
    · exact .exponent hs hm he some h.not_isDigit

end RobotsExclusion.Numeral
