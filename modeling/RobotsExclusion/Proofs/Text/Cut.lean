import RobotsExclusion.Text.Basic
import Mathlib.Data.List.TakeWhile

/-!
# Cutting a text

A text with a separator in it is cut at the first one. What stands before that one has no separator,
and so the two parts of a text are found again where they are put together.

## Main results

* `Text.cut?_of_mem`, `Text.cut?_of_not_mem` — a text that is cut, and one that is not
* `Text.cut?_append_cons` — the parts around the first separator
-/

namespace RobotsExclusion.Text

variable {separator c : CodePoint} {name t : Text}

theorem decide_ne_of_not_mem (h : separator ∉ t) : ∀ c ∈ t, decide (c ≠ separator) = true := by
  intro c hc
  exact decide_eq_true fun same => h (same ▸ hc)

theorem cut?_of_not_mem (h : separator ∉ t) : t.cut? separator = none := by
  have hdrop : t.dropWhile (· ≠ separator) = [] :=
    List.dropWhile_eq_nil_iff.2 (decide_ne_of_not_mem h)
  rw [cut?, hdrop]

theorem cut?_of_mem (h : separator ∈ t) :
    t.cut? separator = some (t.before separator, t.after separator) := by
  rw [cut?, after, before]
  cases hdrop : t.dropWhile (· ≠ separator) with
  | nil =>
    have := List.dropWhile_eq_nil_iff.1 hdrop separator h
    simp at this
  | cons x rest => rfl

theorem before_of_not_mem (h : separator ∉ t) : t.before separator = t :=
  List.takeWhile_eq_self_iff.2 (decide_ne_of_not_mem h)

theorem after_of_not_mem (h : separator ∉ t) : t.after separator = [] := by
  rw [after, List.dropWhile_eq_nil_iff.2 (decide_ne_of_not_mem h), List.drop_nil]

theorem afterLast_of_not_mem (h : separator ∉ t) : t.afterLast separator = t := by
  have reversed : separator ∉ t.reverse := by simpa using h
  rw [afterLast, List.takeWhile_eq_self_iff.2 (decide_ne_of_not_mem reversed),
    List.reverse_reverse]

theorem before_append_cons (h : separator ∉ name) (value : Text) :
    (name ++ separator :: value).before separator = name := by
  rw [before, List.takeWhile_append_of_pos (decide_ne_of_not_mem h),
    List.takeWhile_cons_of_neg (by simp), List.append_nil]

theorem after_append_cons (h : separator ∉ name) (value : Text) :
    (name ++ separator :: value).after separator = value := by
  rw [after, List.dropWhile_append_of_pos (decide_ne_of_not_mem h),
    List.dropWhile_cons_of_neg (by simp), List.drop_one, List.tail_cons]

/-- The first separator is the one behind the part that has none. -/
theorem cut?_append_cons (h : separator ∉ name) (value : Text) :
    (name ++ separator :: value).cut? separator = some (name, value) := by
  rw [cut?_of_mem (List.mem_append_right _ List.mem_cons_self), before_append_cons h,
    after_append_cons h]

end RobotsExclusion.Text
