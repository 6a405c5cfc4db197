import RobotsExclusion.Text.Blank
import Mathlib.Data.List.DropRight

/-!
# Trimming

Trimming takes the blanks around a text away and nothing else. What is left has no blank at either
end, comes out the same whatever blanks are put around the text, and is not trimmed any further.

## Main definitions

* `Text.IsTrimmed` — a text without outer blanks

## Main results

* `Text.exists_blanks` — a text is its trimmed form between blanks
* `Text.trim_append_of_isBlank` — blanks around a text do not matter
* `Text.trim_trim` — trimming is idempotent
* `Text.trim_append_cons` — a character that is no blank keeps what stands before it apart from
  what stands behind it
-/

namespace RobotsExclusion.Text

variable {t left right : Text} {c : CodePoint}

/-- A text has no blank at either end. -/
structure IsTrimmed (t : Text) : Prop where
  head : ∀ c ∈ t.head?, c.isBlank = false
  last : ∀ c ∈ t.getLast?, c.isBlank = false

theorem isBlank_iff : t.isBlank = true ↔ ∀ c ∈ t, c.isBlank = true := List.all_eq_true

theorem trimRight_eq_rdropWhile (t : Text) : t.trimRight = t.rdropWhile CodePoint.isBlank := rfl

/-- A text is its trimmed form between blanks. -/
theorem exists_blanks (t : Text) :
    ∃ left right : Text, left.isBlank = true ∧ right.isBlank = true ∧
      t = left ++ t.trim ++ right := by
  refine ⟨t.takeWhile CodePoint.isBlank, t.trimLeft.rtakeWhile CodePoint.isBlank, ?_, ?_, ?_⟩
  · exact isBlank_iff.2 fun c hc => List.mem_takeWhile_imp hc
  · exact isBlank_iff.2 fun c hc => List.mem_rtakeWhile_imp hc
  · rw [trim, trimRight_eq_rdropWhile, List.append_assoc, List.rdropWhile_append_rtakeWhile,
      trimLeft, List.takeWhile_append_dropWhile]

theorem mem_of_mem_trim (h : c ∈ t.trim) : c ∈ t := by
  obtain ⟨left, right, -, -, ht⟩ := exists_blanks t
  rw [ht]
  exact List.mem_append_left _ (List.mem_append_right _ h)

theorem trimLeft_append_of_isBlank (h : left.isBlank = true) (t : Text) :
    (left ++ t).trimLeft = t.trimLeft :=
  List.dropWhile_append_of_pos (isBlank_iff.1 h)

theorem trimRight_append_of_isBlank (h : right.isBlank = true) (t : Text) :
    (t ++ right).trimRight = t.trimRight := by
  rw [trimRight, List.reverse_append, List.dropWhile_append_of_pos, trimRight]
  exact fun c hc => isBlank_iff.1 h c (List.mem_reverse.1 hc)

/-- Blanks around a text do not matter. -/
theorem trim_append_of_isBlank (hleft : left.isBlank = true) (hright : right.isBlank = true)
    (t : Text) : (left ++ t ++ right).trim = t.trim := by
  rw [trim, List.append_assoc, trimLeft_append_of_isBlank hleft, trim]
  by_cases blank : t.isBlank = true
  -- If there are blanks alone, those on the right are already gone with those on the left.
  · have all : (t ++ right).trimLeft = [] := by
      refine List.dropWhile_eq_nil_iff.2 fun c hc => ?_
      rcases List.mem_append.1 hc with hc | hc
      · exact isBlank_iff.1 blank c hc
      · exact isBlank_iff.1 hright c hc
    have nothing : t.trimLeft = [] := List.dropWhile_eq_nil_iff.2 (isBlank_iff.1 blank)
    rw [all, nothing]
  · have something : ¬ t.trimLeft.isEmpty = true := fun h =>
      blank (isBlank_iff.2 (List.dropWhile_eq_nil_iff.1 (List.isEmpty_iff.1 h)))
    have kept : (t ++ right).trimLeft = t.trimLeft ++ right := by
      rw [trimLeft, List.dropWhile_append]
      exact if_neg something
    rw [kept, trimRight_append_of_isBlank hright]

theorem trim_append_right_of_isBlank (h : right.isBlank = true) (t : Text) :
    (t ++ right).trim = t.trim :=
  trim_append_of_isBlank (rfl : isBlank [] = true) h t

theorem trim_append_left_of_isBlank (h : left.isBlank = true) (t : Text) :
    (left ++ t).trim = t.trim := by
  have := trim_append_of_isBlank h (rfl : isBlank [] = true) t
  rwa [List.append_nil] at this

/-- Nothing is left of blanks alone, and of no other text. -/
theorem trim_eq_nil_iff : t.trim = [] ↔ t.isBlank = true := by
  constructor
  · intro h
    obtain ⟨left, right, hleft, hright, ht⟩ := exists_blanks t
    rw [h, List.append_nil] at ht
    rw [ht, isBlank, List.all_append, Bool.and_eq_true]
    exact ⟨hleft, hright⟩
  · intro h
    have := trim_append_right_of_isBlank h []
    rwa [List.nil_append] at this

/-- Trimming on the right leaves the first character alone that trimming on the left has found. -/
theorem head?_trim (t : Text) : t.trim.head? = t.trimLeft.head? := by
  rw [trim]
  obtain ⟨right, hright⟩ := List.rdropWhile_prefix CodePoint.isBlank t.trimLeft
  rw [← trimRight_eq_rdropWhile] at hright
  cases htrim : t.trimLeft.trimRight with
  | cons c rest => rw [← hright, htrim, List.cons_append, List.head?_cons, List.head?_cons]
  | nil =>
    -- Then nothing was left on the left already, as a first character would not be a blank.
    cases hleft : t.trimLeft with
    | nil => rfl
    | cons c rest =>
      have first := List.head?_dropWhile_not CodePoint.isBlank t
      rw [← trimLeft, hleft] at first
      have blanks := List.rdropWhile_eq_nil_iff.1 htrim c (hleft ▸ List.mem_cons_self)
      exact absurd (blanks.symm.trans first) Bool.noConfusion

theorem isTrimmed_trim (t : Text) : t.trim.IsTrimmed := by
  refine ⟨fun c hc => ?_, fun c hc => ?_⟩
  · have first := List.head?_dropWhile_not CodePoint.isBlank t
    rw [← trimLeft, ← head?_trim, Option.mem_def.1 hc] at first
    exact first
  · obtain ⟨nonempty, rfl⟩ := List.mem_getLast?_eq_getLast hc
    exact eq_false_of_ne_true (List.rdropWhile_last_not CodePoint.isBlank t.trimLeft nonempty)

theorem trim_of_isTrimmed (h : t.IsTrimmed) : t.trim = t := by
  have atStart : t.trimLeft = t := by
    cases t with
    | nil => rfl
    | cons c rest =>
      have := h.head c rfl
      exact List.dropWhile_cons_of_neg (by rw [this]; exact Bool.false_ne_true)
  rw [trim, atStart, trimRight_eq_rdropWhile, List.rdropWhile_eq_self_iff]
  intro nonempty last
  have := h.last _ (List.getLast_mem_getLast? nonempty)
  exact Bool.false_ne_true (this.symm.trans last)

/-- Trimming a second time changes nothing. -/
theorem trim_trim (t : Text) : t.trim.trim = t.trim := trim_of_isTrimmed (isTrimmed_trim t)

/-- A character that is no blank keeps what stands before it apart from what stands behind it. -/
theorem trim_append_cons (h : c.isBlank = false) (before after : Text) :
    (before ++ c :: after).trim = before.trimLeft ++ c :: after.trimRight := by
  have stop (blanks rest : Text) : (blanks ++ c :: rest).dropWhile CodePoint.isBlank =
      blanks.dropWhile CodePoint.isBlank ++ c :: rest := by
    rw [List.dropWhile_append, List.dropWhile_cons_of_neg (by rw [h]; exact Bool.false_ne_true)]
    split
    case isTrue nothing => rw [List.isEmpty_iff.1 nothing, List.nil_append]
    case isFalse => rfl
  have backwards : (before.trimLeft ++ c :: after).reverse =
      after.reverse ++ c :: before.trimLeft.reverse := by
    simp only [List.reverse_append, List.reverse_cons, List.append_assoc, List.singleton_append]
  rw [trim, trimLeft, stop, ← trimLeft, trimRight, backwards, stop, trimRight]
  simp only [List.reverse_append, List.reverse_cons, List.reverse_reverse, List.append_assoc,
    List.singleton_append]

theorem trim_trimLeft (t : Text) : t.trimLeft.trim = t.trim := by
  have blanks : isBlank (t.takeWhile CodePoint.isBlank) = true :=
    isBlank_iff.2 fun c hc => List.mem_takeWhile_imp hc
  conv_rhs => rw [← List.takeWhile_append_dropWhile (p := CodePoint.isBlank) (l := t)]
  rw [trim_append_left_of_isBlank blanks]
  rfl

theorem trim_trimRight (t : Text) : t.trimRight.trim = t.trim := by
  have blanks : isBlank (t.rtakeWhile CodePoint.isBlank) = true :=
    isBlank_iff.2 fun c hc => List.mem_rtakeWhile_imp hc
  conv_rhs => rw [← List.rdropWhile_append_rtakeWhile (p := CodePoint.isBlank) (l := t)]
  rw [trim_append_right_of_isBlank blanks, trimRight_eq_rdropWhile]

end RobotsExclusion.Text
