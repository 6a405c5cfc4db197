import RobotsExclusion.Proofs.Text.Blank
import RobotsExclusion.Utf8
import Mathlib.Data.List.Basic

/-!
# Lines of texts

Splitting a text is splitting a list, and so a text is its lines with line feeds between them, and
texts without line feeds are the lines of what they make up. A byte-order mark at the start belongs
to the first line and to no other.

## Main results

* `Text.split_eq_splitOn` — splitting in terms of lists
* `length_splitOn` — there is one piece more than there are separators
* `Text.join_lines` — the lines of a text make up the text
* `Text.lines_join` — texts without line feeds are the lines of the text that they make up
* `Text.lines_append` — a line feed keeps the lines before it apart from those behind it
* `Text.lines_dropByteOrderMark` — a byte-order mark matters for the first line only
-/

namespace RobotsExclusion

/-- Cutting gives one piece more than there are separators. -/
theorem length_splitOn {α : Type} [BEq α] [LawfulBEq α] (a : α) (l : List α) :
    (l.splitOn a).length = l.count a + 1 := by
  induction l with
  | nil => rfl
  | cons b l ih =>
    rw [List.splitOn_cons_eq_if_modifyHead, List.count_cons]
    by_cases separator : (b == a) = true
    · rw [if_pos separator, if_pos separator, List.length_cons, ih]
    · rw [if_neg separator, if_neg separator, List.length_modifyHead, ih, Nat.add_zero]

namespace Text

variable {t line : Text} {ls : List Text}

/-- Splitting a text is splitting a list. -/
theorem split_eq_splitOn (separator : CodePoint) (t : Text) :
    t.split separator = t.splitOn separator := by
  induction t with
  | nil => rfl
  | cons c t ih =>
    rw [List.splitOn_cons_eq_if_modifyHead, ← ih]
    by_cases h : c = separator
    · rw [if_pos (beq_iff_eq.2 h)]
      simp only [split, pieces, List.foldr_cons, if_pos h]
    · rw [if_neg (mt beq_iff_eq.1 h)]
      simp only [split, pieces, List.foldr_cons, if_neg h, List.modifyHead_cons]

/-- The lines of a text make up the text. -/
theorem join_lines (t : Text) : join [CodePoint.ofChar '\n'] t.lines = t := by
  rw [join, lines, split_eq_splitOn]
  exact List.intercalate_splitOn _

theorem lines_ne_nil (t : Text) : t.lines ≠ [] := by
  rw [lines, split_eq_splitOn]
  exact List.splitOn_ne_nil _ _

theorem lines_cons (c : CodePoint) (t : Text) :
    lines (c :: t) =
      if c = CodePoint.ofChar '\n' then [] :: t.lines else t.lines.modifyHead (c :: ·) := by
  simp only [lines, split_eq_splitOn, List.splitOn_cons_eq_if_modifyHead, beq_iff_eq]

/-- A line feed keeps the lines before it apart from those behind it. -/
theorem lines_append (t u : Text) :
    (t ++ CodePoint.ofChar '\n' :: u).lines = t.lines ++ u.lines := by
  simp only [lines, split_eq_splitOn]
  exact List.splitOn_append_cons_self t u

/-- Texts without line feeds are the lines of the text that they make up. -/
theorem lines_join (h : ∀ line ∈ ls, CodePoint.ofChar '\n' ∉ line) (hls : ls ≠ []) :
    (join [CodePoint.ofChar '\n'] ls).lines = ls := by
  rw [lines, split_eq_splitOn, join]
  exact List.splitOn_intercalate _ h hls

/-- A text without line feeds is a single line. -/
theorem lines_of_not_mem (h : CodePoint.ofChar '\n' ∉ t) : t.lines = [t] := by
  have whole : join [CodePoint.ofChar '\n'] [t] = t := List.intercalate_singleton
  have single := lines_join (List.forall_mem_singleton.2 h) (List.cons_ne_nil t [])
  rwa [whole] at single

/-- There is one line more than there are line feeds. -/
theorem length_lines (t : Text) : t.lines.length = t.count (CodePoint.ofChar '\n') + 1 := by
  rw [lines, split_eq_splitOn, length_splitOn]

theorem lineFeed_not_mem_of_mem_lines (h : line ∈ t.lines) : CodePoint.ofChar '\n' ∉ line := by
  induction t generalizing line with
  | nil =>
    obtain rfl := List.mem_singleton.1 h
    exact List.not_mem_nil
  | cons c t ih =>
    rw [lines_cons] at h
    by_cases feed : c = CodePoint.ofChar '\n'
    · rw [if_pos feed] at h
      rcases List.mem_cons.1 h with rfl | h
      · exact List.not_mem_nil
      · exact ih h
    · obtain ⟨first, rest, hlines⟩ := List.exists_cons_of_ne_nil (lines_ne_nil t)
      rw [if_neg feed, hlines, List.modifyHead_cons] at h
      rcases List.mem_cons.1 h with rfl | h
      · intro hfeed
        rcases List.mem_cons.1 hfeed with same | hfirst
        · exact feed same.symm
        · exact ih (hlines ▸ List.mem_cons_self) hfirst
      · exact ih (hlines ▸ List.mem_cons_of_mem _ h)

/-- A text is blank if all its lines are. -/
theorem isBlank_iff_lines : t.isBlank = true ↔ ∀ line ∈ t.lines, line.isBlank = true := by
  induction t with
  | nil => simp [lines, split, pieces, isBlank]
  | cons c t ih =>
    obtain ⟨first, rest, hlines⟩ := List.exists_cons_of_ne_nil (lines_ne_nil t)
    rw [isBlank, List.all_cons, Bool.and_eq_true, ← isBlank, ih, lines_cons]
    by_cases feed : c = CodePoint.ofChar '\n'
    · have blank : c.isBlank = true := feed ▸ by decide
      rw [if_pos feed, List.forall_mem_cons, and_iff_right blank]
      exact (and_iff_right rfl).symm
    · rw [if_neg feed, hlines, List.modifyHead_cons, List.forall_mem_cons, List.forall_mem_cons,
        isBlank, isBlank, List.all_cons, Bool.and_eq_true, and_assoc]

/-- A byte-order mark at the start of a text is at the start of its first line. -/
theorem lines_dropByteOrderMark (t : Text) :
    t.dropByteOrderMark.lines = t.lines.modifyHead dropByteOrderMark := by
  cases t with
  | nil => rfl
  | cons c t =>
    obtain ⟨line, rest, hlines⟩ := List.exists_cons_of_ne_nil (lines_ne_nil t)
    rw [dropByteOrderMark, lines_cons]
    by_cases mark : c = CodePoint.byteOrderMark
    · have feed : c ≠ CodePoint.ofChar '\n' := mark ▸ by decide
      rw [if_pos mark, if_neg feed, hlines, List.modifyHead_cons, List.modifyHead_cons,
        dropByteOrderMark, if_pos mark]
    · rw [if_neg mark, lines_cons]
      by_cases feed : c = CodePoint.ofChar '\n'
      · rw [if_pos feed, List.modifyHead_cons]
        rfl
      · rw [if_neg feed, hlines, List.modifyHead_cons, List.modifyHead_cons, dropByteOrderMark,
          if_neg mark]

end Text

end RobotsExclusion
