import RobotsExclusion.Proofs.Text.Blank
import RobotsExclusion.Proofs.Text.LowerCase

/-!
# Lower-casing and trimming

Lower-casing neither maps blanks nor leads to them, and a blank is no letter with a case, so the
form that a sigma takes does not depend on the blanks behind a word. Hence it does not matter
whether a text is trimmed before or after lower-casing. Below the letters, nothing is led to at all,
so that a colon, a line feed or the mark of a comment in a lower-case form stood in the text before.

## Main definitions

* `LowerCase.Run.misses` — a run that has nothing to do with a range of characters

## Main results

* `LowerCase.isBlank_of_mem_letter` — blanks come from blanks alone
* `LowerCase.eq_of_mem_letter` — and so does all that is below the letters
* `Text.lower_append_of_isBlank` — blanks around a text are kept
* `Text.trim_lower` — trimming and lower-casing commute
-/

namespace RobotsExclusion

namespace LowerCase

variable {r : Run} {c d x : CodePoint} {cased : Bool} {t following left right : Text}

/-! ### Characters -/

/-- Neither what a run maps nor what it leads to lies in the range. Only comparisons that evaluate
fast are used, as all runs are checked. -/
def Run.misses (r : Run) (range : Nat × Nat) : Bool :=
  (r.last.blt range.1 || range.2.blt r.first) &&
    ((r.target + (r.last - r.first)).blt range.1 || range.2.blt r.target)

theorem Run.misses_iff {range : Nat × Nat} : r.misses range = true ↔
    (r.last < range.1 ∨ range.2 < r.first) ∧
      (r.target + (r.last - r.first) < range.1 ∨ range.2 < r.target) := by
  simp [Run.misses, Nat.blt_eq]

theorem runs_all_miss_blanks : (runs.all fun r => blankRanges.all r.misses) = true := by
  decide +kernel

theorem misses_of_mem {range : Nat × Nat} (hr : r ∈ runs) (hrange : range ∈ blankRanges) :
    r.misses range = true := by
  have missed := List.all_eq_true.1 runs_all_miss_blanks r hr
  exact List.all_eq_true.1 missed range hrange

/-- No letter with a case is a blank. -/
theorem casedRanges_miss_blanks :
    (casedRanges.all fun a => blankRanges.all fun b => a.2.blt b.1 || b.2.blt a.1) = true := by
  decide +kernel

/-- No run leads below the small letters of ASCII. -/
theorem runs_targets_above : ∀ r ∈ runs, 0x61 ≤ r.target := by decide +kernel

/-- Blanks are not mapped. -/
theorem image?_of_isBlank (h : c.isBlank = true) : image? runs c = none := by
  obtain ⟨range, hrange, low, high⟩ := CodePoint.exists_range_of_isBlank h
  refine List.findSome?_eq_none_iff.2 fun r hr => ?_
  obtain ⟨outside, -⟩ := Run.misses_iff.1 (misses_of_mem hr hrange)
  rw [Run.image?, if_neg (by omega)]

/-- Nothing is mapped to a blank. -/
theorem isBlank_of_image? (h : image? runs c = some d) : d.isBlank = false := by
  obtain ⟨r, hr, hd⟩ := exists_run_of_image? h
  obtain ⟨⟨_, _, _⟩, target⟩ := Run.image?_eq_some_iff.1 hd
  refine eq_false_of_ne_true fun blank => ?_
  obtain ⟨range, hrange, low, high⟩ := CodePoint.exists_range_of_isBlank blank
  obtain ⟨-, outside⟩ := Run.misses_iff.1 (misses_of_mem hr hrange)
  omega

/-- Nothing is mapped below the small letters of ASCII. -/
theorem le_of_image? (h : image? runs c = some d) : 0x61 ≤ d.toNat := by
  obtain ⟨r, hr, hd⟩ := exists_run_of_image? h
  obtain ⟨-, target⟩ := Run.image?_eq_some_iff.1 hd
  have := runs_targets_above r hr
  omega

theorem isCased_of_isBlank (h : c.isBlank = true) : isCased c = false := by
  obtain ⟨blanks, hblanks, low, high⟩ := CodePoint.exists_range_of_isBlank h
  refine eq_false_of_ne_true fun cased => ?_
  obtain ⟨letters, hletters, hc⟩ := List.any_eq_true.1 cased
  have apart := List.all_eq_true.1 (List.all_eq_true.1 casedRanges_miss_blanks letters hletters)
    blanks hblanks
  simp only [Bool.or_eq_true, Nat.blt_eq] at apart
  simp only [Bool.and_eq_true, decide_eq_true_eq] at hc
  omega

theorem isLower_of_isBlank (h : c.isBlank = true) : c.IsLower := by
  refine ⟨?_, ?_, ?_⟩
  · rw [CodePoint.simpleLower_eq, image?_of_isBlank h, Option.getD_none]
  · rintro rfl
    revert h
    decide
  · rintro rfl
    revert h
    decide

/-- A character leads to itself, or to others that are no blanks and not below the letters. -/
theorem mem_letter (hx : x ∈ letter cased c following) :
    x = c ∨ x.isBlank = false ∧ 0x61 ≤ x.toNat := by
  unfold letter at hx
  split at hx
  · rcases List.mem_pair.1 hx with rfl | rfl
    · exact .inr (by decide)
    · exact .inr (by decide)
  · split at hx
    · obtain rfl := List.mem_singleton.1 hx
      exact .inr (by decide)
    · obtain rfl := List.mem_singleton.1 hx
      rw [CodePoint.simpleLower_eq]
      cases himage : image? runs c with
      | none => exact .inl rfl
      | some d => exact .inr ⟨isBlank_of_image? himage, le_of_image? himage⟩

/-- Blanks come from blanks alone. -/
theorem isBlank_of_mem_letter (hx : x ∈ letter cased c following) (hc : c.isBlank = false) :
    x.isBlank = false := by
  rcases mem_letter hx with rfl | ⟨plain, -⟩
  · exact hc
  · exact plain

/-- What is below the letters comes from itself alone. -/
theorem eq_of_mem_letter (hx : x ∈ letter cased c following) (below : x.toNat < 0x61) : x = c := by
  rcases mem_letter hx with same | ⟨-, above⟩
  · exact same
  · omega

theorem letter_ne_nil (cased : Bool) (c : CodePoint) (following : Text) :
    letter cased c following ≠ [] := by
  unfold letter
  split
  · exact List.cons_ne_nil _ _
  · split
    · exact List.cons_ne_nil _ _
    · exact List.cons_ne_nil _ _

theorem mem_of_mem_spread (hx : x ∈ spread cased t) (below : x.toNat < 0x61) : x ∈ t := by
  induction t generalizing cased with
  | nil => cases hx
  | cons c t ih =>
    rcases List.mem_append.1 hx with hx | hx
    · exact eq_of_mem_letter hx below ▸ List.mem_cons_self
    · exact List.mem_cons_of_mem _ (ih hx)

/-! ### Blanks around a text -/

/-- Blanks behind a text do not tell whether it starts with a letter that has a case. -/
theorem startsCased_append_of_isBlank (h : right.isBlank = true) (t : Text) :
    startsCased (t ++ right) = startsCased t := by
  rw [startsCased, startsCased, List.dropWhile_append]
  by_cases nothing : (t.dropWhile isIgnorable).isEmpty = true
  · rw [if_pos nothing, List.isEmpty_iff.1 nothing]
    cases hdrop : right.dropWhile isIgnorable with
    | nil => rfl
    | cons c rest =>
      have hc : c ∈ right := (List.dropWhile_sublist _).subset (hdrop ▸ List.mem_cons_self)
      exact isCased_of_isBlank (Text.isBlank_iff.1 h c hc)
  · rw [if_neg nothing]
    cases hdrop : t.dropWhile isIgnorable with
    | nil => exact absurd (List.isEmpty_iff.2 hdrop) nothing
    | cons c rest => rfl

theorem letter_append_of_isBlank (h : right.isBlank = true) :
    letter cased c (following ++ right) = letter cased c following := by
  rw [letter, startsCased_append_of_isBlank h, letter]

theorem spread_append_right_of_isBlank (h : right.isBlank = true) (cased : Bool) (t : Text) :
    spread cased (t ++ right) = spread cased t ++ right := by
  induction t generalizing cased with
  | nil => exact spread_of_isLower fun x hx => isLower_of_isBlank (Text.isBlank_iff.1 h x hx)
  | cons c t ih =>
    rw [List.cons_append, spread, letter_append_of_isBlank h, ih, spread, List.append_assoc]

theorem casedAfter_false_of_isBlank (h : c.isBlank = true) : casedAfter false c = false := by
  rw [casedAfter, isCased_of_isBlank h, ite_self]

theorem spread_append_left_of_isBlank (h : left.isBlank = true) (t : Text) :
    spread false (left ++ t) = left ++ spread false t := by
  induction left with
  | nil => rfl
  | cons c left ih =>
    obtain ⟨hc, hleft⟩ := List.forall_mem_cons.1 (Text.isBlank_iff.1 h)
    rw [List.cons_append, spread, letter_of_isLower (isLower_of_isBlank hc),
      casedAfter_false_of_isBlank hc, ih (Text.isBlank_iff.2 hleft), List.singleton_append,
      List.cons_append]

/-- The last character is spread last. -/
theorem exists_spread_append_singleton (cased : Bool) (t : Text) (c : CodePoint) :
    ∃ before after, spread cased (t ++ [c]) = before ++ letter after c [] := by
  induction t generalizing cased with
  | nil => exact ⟨[], cased, List.append_nil _⟩
  | cons d t ih =>
    obtain ⟨before, after, hspread⟩ := ih (casedAfter cased d)
    refine ⟨letter cased d (t ++ [c]) ++ before, after, ?_⟩
    rw [List.cons_append, spread, hspread, List.append_assoc]

end LowerCase

namespace Text

open LowerCase

variable {c : CodePoint} {t left right : Text}

/-- Blanks around a text are kept. -/
theorem lower_append_of_isBlank (hleft : left.isBlank = true) (hright : right.isBlank = true)
    (t : Text) : (left ++ t ++ right).lower = left ++ t.lower ++ right := by
  rw [lower_eq, spread_append_right_of_isBlank hright, spread_append_left_of_isBlank hleft,
    lower_eq]

theorem isTrimmed_lower (h : t.IsTrimmed) : t.lower.IsTrimmed := by
  rw [lower_eq]
  refine ⟨fun x hx => ?_, fun x hx => ?_⟩
  · cases t with
    | nil => cases hx
    | cons c rest =>
      rw [spread, List.head?_append_of_ne_nil _ (letter_ne_nil _ _ _)] at hx
      exact isBlank_of_mem_letter (List.mem_of_mem_head? hx) (h.head c rfl)
  · rcases List.eq_nil_or_concat t with rfl | ⟨init, c, rfl⟩
    · cases hx
    · rw [List.concat_eq_append] at h hx
      obtain ⟨before, after, hspread⟩ := exists_spread_append_singleton false init c
      rw [hspread, List.getLast?_append_of_ne_nil _ (letter_ne_nil _ _ _)] at hx
      exact isBlank_of_mem_letter (List.mem_of_mem_getLast? hx) (h.last c (by simp))

/-- Trimming and lower-casing commute. -/
theorem trim_lower (t : Text) : t.lower.trim = t.trim.lower := by
  obtain ⟨left, right, hleft, hright, ht⟩ := exists_blanks t
  calc t.lower.trim
      = (left ++ t.trim.lower ++ right).trim := by
        conv_lhs => rw [ht, lower_append_of_isBlank hleft hright]
    _ = t.trim.lower.trim := trim_append_of_isBlank hleft hright _
    _ = t.trim.lower := trim_of_isTrimmed (isTrimmed_lower (isTrimmed_trim t))

/-- What is below the letters in a lower-case form stood in the text before. -/
theorem mem_of_mem_lower (h : c ∈ t.lower) (below : c.toNat < 0x61) : c ∈ t :=
  mem_of_mem_spread (lower_eq t ▸ h) below

/-- The same of the first character. -/
theorem head?_lower_eq_some_iff (hc : c.IsLower) (below : c.toNat < 0x61) :
    t.lower.head? = some c ↔ t.head? = some c := by
  cases t with
  | nil => rfl
  | cons d rest =>
    constructor
    · intro h
      rw [lower_eq, spread, List.head?_append_of_ne_nil _ (letter_ne_nil _ _ _)] at h
      rw [eq_of_mem_letter (List.mem_of_mem_head? h) below, List.head?_cons]
    · intro h
      obtain rfl := Option.some.inj h
      exact head?_lower_of_isLower hc rest

end Text

end RobotsExclusion
