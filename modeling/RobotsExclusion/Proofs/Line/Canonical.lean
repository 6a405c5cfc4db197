import RobotsExclusion.Proofs.Line
import RobotsExclusion.Proofs.Text.LowerCase.Blank
import Mathlib.Logic.Relation

/-!
# Spellings of a line

Many lines mean the same. Blanks around a line and around its first colon do not count, nor does the
text of a comment, nor the case of the letters in a name. Of all these spellings one is canonical.

## Main definitions

* `Line.canonical` — the canonical spelling of a line
* `Line.Alike` — two lines mean the same, and both are blank or none is
* `Line.Respelling` — the ways to spell a line differently

## Main results

* `Line.ofText_append_colon` — what a line with a colon means
* `Line.canonical_cases` — what the canonical spelling of a line can be
* `Line.alike_canonical` — a line and its canonical spelling are alike
* `Line.Respelling.alike` — so are two spellings of a line
-/

namespace RobotsExclusion

namespace Line

variable {s t name name' value value' : Text}

/-! ### Meaning -/

/-- What a line with a colon means. -/
theorem ofText_append_colon (h : CodePoint.ofChar ':' ∉ name) (value : Text) :
    ofText (name ++ CodePoint.ofChar ':' :: value) =
      if name.trim.head? = some (CodePoint.ofChar '#') then .empty
      else .rule name.trim.lower value.trim := by
  have plain : CodePoint.ofChar ':' ∉ name.trimLeft := fun hmem =>
    h ((List.dropWhile_sublist _).mem hmem)
  -- The colon is no blank, so trimming the line trims the name on the left and the value on the
  -- right, and the first colon stays the first one.
  have htrim := Text.trim_append_cons (c := CodePoint.ofChar ':') (by decide) name value
  have hcolon : CodePoint.ofChar ':' ∈ (name ++ CodePoint.ofChar ':' :: value).trim := by
    rw [htrim]
    exact List.mem_append_right _ List.mem_cons_self
  have hname : nameOf (name ++ CodePoint.ofChar ':' :: value).trim = name.trim.lower := by
    rw [nameOf, htrim, Text.before_append_cons plain, Text.trim_trimLeft]
  have hvalue : valueOf (name ++ CodePoint.ofChar ':' :: value).trim = value.trim := by
    rw [valueOf, htrim, Text.after_append_cons plain, Text.trim_trimRight]
  have hsilent : IsSilent (name ++ CodePoint.ofChar ':' :: value).trim ↔
      name.trim.head? = some (CodePoint.ofChar '#') := by
    rw [Text.head?_trim, IsSilent, htrim]
    cases name.trimLeft with
    | nil => exact iff_of_false (by simp; decide) (by simp)
    | cons c rest => simp
  rw [ofText_eq, hname, hvalue, if_pos hcolon]
  simp only [hsilent]

/-- Two lines mean the same, and both are blank or none is. -/
structure Alike (s t : Text) : Prop where
  ofText_eq : ofText s = ofText t
  isBlank_iff : s.isBlank = true ↔ t.isBlank = true

theorem alike_equivalence : Equivalence Alike where
  refl _ := ⟨rfl, Iff.rfl⟩
  symm h := ⟨h.ofText_eq.symm, h.isBlank_iff.symm⟩
  trans h h' := ⟨h.ofText_eq.trans h'.ofText_eq, h.isBlank_iff.trans h'.isBlank_iff⟩

/-- Outer blanks do not count. -/
theorem alike_of_trim_eq (h : s.trim = t.trim) : Alike s t := by
  refine ⟨?_, ?_⟩
  · rw [← ofText_trim s, h, ofText_trim]
  · rw [← Text.trim_eq_nil_iff, h, Text.trim_eq_nil_iff]

theorem not_isBlank_append_cons {c : CodePoint} (hc : c.isBlank = false) (name value : Text) :
    ¬ (name ++ c :: value).isBlank = true := by
  intro blank
  have := Text.isBlank_iff.1 blank c (List.mem_append_right _ List.mem_cons_self)
  exact Bool.false_ne_true (hc.symm.trans this)

theorem ofText_comment (t : Text) : ofText (CodePoint.ofChar '#' :: t) = .empty := by
  obtain ⟨rest, htrim⟩ := Text.exists_trim_cons (c := CodePoint.ofChar '#') (by decide) t
  rw [ofText_eq, htrim]
  exact if_pos (.inr rfl)

/-- The text of a comment does not count. -/
theorem alike_comment (s t : Text) :
    Alike (CodePoint.ofChar '#' :: s) (CodePoint.ofChar '#' :: t) := by
  refine ⟨?_, iff_of_false ?_ ?_⟩
  · rw [ofText_comment, ofText_comment]
  · exact not_isBlank_append_cons (by decide) [] s
  · exact not_isBlank_append_cons (by decide) [] t

/-- Lines with a colon are alike if their names and values are. -/
theorem alike_append_colon (h : CodePoint.ofChar ':' ∉ name) (h' : CodePoint.ofChar ':' ∉ name')
    (hname : name.trim.lower = name'.trim.lower) (hvalue : value.trim = value'.trim) :
    Alike (name ++ CodePoint.ofChar ':' :: value) (name' ++ CodePoint.ofChar ':' :: value') := by
  -- Lower-casing neither makes the mark of a comment nor takes one away.
  have mark : name.trim.head? = some (CodePoint.ofChar '#') ↔
      name'.trim.head? = some (CodePoint.ofChar '#') := by
    rw [← Text.head?_lower_eq_some_iff (by decide) (by decide), hname,
      Text.head?_lower_eq_some_iff (by decide) (by decide)]
  refine ⟨?_, iff_of_false ?_ ?_⟩
  · rw [ofText_append_colon h, ofText_append_colon h', hname, hvalue]
    simp only [mark]
  -- A colon is no blank.
  · exact not_isBlank_append_cons (by decide) name value
  · exact not_isBlank_append_cons (by decide) name' value'

/-! ### The canonical spelling -/

/-- The canonical spelling of a line: nothing if it is blank, the mark alone if it is a comment, and
else the line without blanks around it and its first colon and with the name in lower case. -/
def canonical (t : Text) : Text :=
  let line := t.trim
  if line = [] then []
  else if line.head? = some (CodePoint.ofChar '#') then "#"
  else if CodePoint.ofChar ':' ∈ line then nameOf line ++ CodePoint.ofChar ':' :: valueOf line
  else line

/-- What the canonical spelling of a line can be. -/
theorem canonical_cases (t : Text) :
    canonical t = t.trim ∨
      (∃ rest, t.trim = CodePoint.ofChar '#' :: rest ∧ canonical t = "#") ∨
      ∃ name value : Text, CodePoint.ofChar ':' ∉ name ∧
        t.trim = name ++ CodePoint.ofChar ':' :: value ∧
        canonical t = name.trim.lower ++ CodePoint.ofChar ':' :: value.trim := by
  unfold canonical
  by_cases empty : t.trim = []
  · exact .inl ((if_pos empty).trans empty.symm)
  · by_cases mark : t.trim.head? = some (CodePoint.ofChar '#')
    · obtain ⟨rest, hrest⟩ := List.head?_eq_some_iff.1 mark
      exact .inr (.inl ⟨rest, hrest, (if_neg empty).trans (if_pos mark)⟩)
    · by_cases hcolon : CodePoint.ofChar ':' ∈ t.trim
      · obtain ⟨name, value, hline, hname⟩ := List.eq_append_cons_of_mem hcolon
        refine .inr (.inr ⟨name, value, hname, hline, ?_⟩)
        rw [if_neg empty, if_neg mark, if_pos hcolon, nameOf, valueOf, hline,
          Text.before_append_cons hname, Text.after_append_cons hname]
      · exact .inl ((if_neg empty).trans ((if_neg mark).trans (if_neg hcolon)))

/-- A line and its canonical spelling are alike. -/
theorem alike_canonical (t : Text) : Alike (canonical t) t := by
  -- All spellings are taken from the trimmed line, which is alike.
  have trimmed : Alike t.trim t := alike_of_trim_eq (Text.trim_trim t)
  refine alike_equivalence.trans ?_ trimmed
  rcases canonical_cases t with same | ⟨rest, hline, mark⟩ | ⟨name, value, hname, hline, spelled⟩
  · rw [same]
    exact alike_equivalence.refl t.trim
  · rw [hline, mark]
    exact alike_comment [] rest
  · rw [hline, spelled]
    have hlower : CodePoint.ofChar ':' ∉ name.trim.lower := fun hmem =>
      hname (Text.mem_of_mem_trim (Text.mem_of_mem_lower hmem (by decide)))
    refine alike_append_colon hlower hname ?_ (Text.trim_trim value)
    rw [Text.trim_lower, Text.trim_trim, Text.lower_lower]

/-- The canonical spelling of a line is a line. -/
theorem lineFeed_not_mem_canonical (h : CodePoint.ofChar '\n' ∉ t) :
    CodePoint.ofChar '\n' ∉ canonical t := by
  have trimmed : CodePoint.ofChar '\n' ∉ t.trim := fun hmem => h (Text.mem_of_mem_trim hmem)
  rcases canonical_cases t with same | ⟨rest, -, mark⟩ | ⟨name, value, -, hline, spelled⟩
  · rwa [same]
  · rw [mark]
    decide
  · rw [hline] at trimmed
    rw [spelled]
    intro hmem
    rcases List.mem_append.1 hmem with hmem | hmem
    · have before := Text.mem_of_mem_trim (Text.mem_of_mem_lower hmem (by decide))
      exact trimmed (List.mem_append_left _ before)
    · have feed : CodePoint.ofChar '\n' ≠ CodePoint.ofChar ':' := by decide
      have after := Text.mem_of_mem_trim (List.mem_of_ne_of_mem feed hmem)
      exact trimmed (List.mem_append_right _ (List.mem_cons_of_mem _ after))

/-! ### Other spellings -/

/-- The ways to spell a line differently. -/
inductive Respelling : Text → Text → Prop
  /-- Blanks around a line, as the carriage return before a line feed. -/
  | blanks {left right : Text} (t : Text) (hleft : left.isBlank = true)
      (hright : right.isBlank = true) : Respelling (left ++ t ++ right) t
  /-- Blanks around the first colon. -/
  | colon {left right name : Text} (value : Text) (hleft : left.isBlank = true)
      (hright : right.isBlank = true) (h : CodePoint.ofChar ':' ∉ name) :
      Respelling (name ++ left ++ CodePoint.ofChar ':' :: (right ++ value))
        (name ++ CodePoint.ofChar ':' :: value)
  /-- The text of a comment. -/
  | comment (s t : Text) : Respelling (CodePoint.ofChar '#' :: s) (CodePoint.ofChar '#' :: t)
  /-- The case of the letters in the name. -/
  | letters {name name' : Text} (value : Text) (h : CodePoint.ofChar ':' ∉ name)
      (h' : CodePoint.ofChar ':' ∉ name') (same : name.lower = name'.lower) :
      Respelling (name ++ CodePoint.ofChar ':' :: value) (name' ++ CodePoint.ofChar ':' :: value)

/-- Two spellings of a line are alike. -/
theorem Respelling.alike (h : Respelling s t) : Alike s t := by
  cases h with
  | blanks t hleft hright => exact alike_of_trim_eq (Text.trim_append_of_isBlank hleft hright t)
  | @colon left right name value hleft hright hname =>
    have plain : CodePoint.ofChar ':' ∉ left := fun hmem =>
      Bool.noConfusion (Text.isBlank_iff.1 hleft _ hmem)
    refine alike_append_colon (List.not_mem_append hname plain) hname ?_ ?_
    · rw [Text.trim_append_right_of_isBlank hleft]
    · rw [Text.trim_append_left_of_isBlank hright]
  | comment s t => exact alike_comment s t
  | letters value hname hname' same =>
    refine alike_append_colon hname hname' ?_ rfl
    -- Whether names are compared before or after trimming does not matter.
    rw [← Text.trim_lower, same, Text.trim_lower]

/-- However often a line is spelled differently, the spellings are alike. -/
theorem alike_of_eqvGen (h : Relation.EqvGen Respelling s t) : Alike s t :=
  alike_equivalence.eqvGen_iff.1 (h.mono fun _ _ => Respelling.alike)

end Line

end RobotsExclusion
