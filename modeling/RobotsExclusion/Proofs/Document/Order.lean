import RobotsExclusion.Proofs.Document.Concatenation
import Mathlib.Data.List.Nodup

/-!
# Reports in good order

The findings of a report come in the order of the lines. Errors name each line once at most, and
what is said about the whole document comes last. Warnings name each line three times at most, and
what is said about the whole document comes first. No line is named by both.

## Main definitions

* `Ascending` — line numbers in ascending order, each of them so many times at most
* `Report.IsOrderly` — a report in good order

## Main results

* `Ascending.append` — looking at one more line keeps the order
* `Document.ascending_inLines` — and so does looking at any number of lines
* `Document.check_isOrderly` — every report is in good order
-/

namespace RobotsExclusion

/-! ### Ascending line numbers -/

/-- Numbers of the first `count` lines in ascending order, each of them `most` times at most. -/
structure Ascending (most count : Nat) (numbers : List Int) : Prop where
  sorted : numbers.Pairwise (· ≤ ·)
  within : ∀ n ∈ numbers, 1 ≤ n ∧ n ≤ count
  count_le : ∀ n, numbers.count n ≤ most

namespace Ascending

variable {most count : Nat} {numbers : List Int} {search : Int → List Finding}

theorem nil (most : Nat) : Ascending most 0 [] :=
  ⟨.nil, fun _ h => absurd h List.not_mem_nil, fun _ => Nat.zero_le most⟩

/-- The findings in one more line come last, and there are no others with its number. -/
theorem append (h : Ascending most count numbers) (finds : Finds most search) :
    Ascending most (count + 1) (numbers ++ (search (count + 1)).map Finding.line) := by
  have last : (search (count + 1)).map Finding.line =
      List.replicate (search (count + 1)).length ((count : Int) + 1) := by
    refine List.eq_replicate_iff.2 ⟨List.length_map _, fun n hn => ?_⟩
    obtain ⟨f, hf, rfl⟩ := List.mem_map.1 hn
    exact finds.line_eq_of_mem hf
  rw [last]
  refine ⟨?_, fun n hn => ?_, fun n => ?_⟩
  -- The number of the line is greater than all before it.
  · refine List.pairwise_append.2 ⟨h.sorted, List.pairwise_replicate.2 (.inr (Int.le_refl _)), ?_⟩
    intro n hn m hm
    have := (h.within n hn).2
    rw [List.eq_of_mem_replicate hm]
    omega
  · rcases List.mem_append.1 hn with hn | hn
    · have := h.within n hn
      omega
    · rw [List.eq_of_mem_replicate hn]
      omega
  · rw [List.count_append]
    by_cases hn : n = count + 1
    -- Each number is counted on one side only, as that of the line is new.
    · have fresh : n ∉ numbers := fun hmem => by
        have := (h.within n hmem).2
        omega
      have few : (search (count + 1)).length ≤ most := finds.length_le _
      rw [List.count_eq_zero.2 fresh, Nat.zero_add]
      exact Nat.le_trans List.count_le_length (List.length_replicate.trans_le few)
    · have absent : n ∉ List.replicate (search (count + 1)).length ((count : Int) + 1) :=
        fun hmem => hn (List.eq_of_mem_replicate hmem)
      rw [List.count_eq_zero.2 absent, Nat.add_zero]
      exact h.count_le n

/-- Numbers that occur once at most ascend strictly. -/
theorem strict (h : Ascending 1 count numbers) : numbers.Pairwise (· < ·) := by
  have distinct : numbers.Nodup := List.nodup_iff_count_le_one.2 h.count_le
  exact (h.sorted.and distinct).imp fun ⟨le, ne⟩ => by omega

end Ascending

/-- A report in good order on a document with so many lines. -/
structure Report.IsOrderly (count : Nat) (r : Report) : Prop where
  errors_severity : ∀ f ∈ r.errors, f.severity = .error
  warnings_severity : ∀ f ∈ r.warnings, f.severity = .warning
  /-- Every finding is about one of the lines, or about the whole document. -/
  within : ∀ f ∈ r.findings, 0 ≤ f.line ∧ f.line ≤ count
  /-- No line has two errors, and what is said about the whole document is said once and last. -/
  errors_lines : ∃ numbers whole : List Int, r.errors.map Finding.line = numbers ++ whole ∧
    numbers.Pairwise (· < ·) ∧ (∀ n ∈ numbers, 1 ≤ n) ∧ (whole = [] ∨ whole = [0])
  /-- No line has four warnings, and what is said about the whole document is said twice at most,
  and first. -/
  warnings_lines : ∃ (k : Nat) (numbers : List Int),
    r.warnings.map Finding.line = List.replicate k 0 ++ numbers ∧ k ≤ 2 ∧
      numbers.Pairwise (· ≤ ·) ∧ (∀ n ∈ numbers, 1 ≤ n) ∧ ∀ n, numbers.count n ≤ 3
  /-- No line has both errors and warnings. -/
  apart : ∀ f ∈ r.errors, ∀ g ∈ r.warnings, 1 ≤ f.line → f.line ≠ g.line

namespace Document

variable {lines : List Text} {content t : Text} {f g : Finding} {most : Nat}
  {look : Bool → Text → Int → List Finding}

/-! ### Lines -/

/-- Line by line, findings come in the order of the lines. -/
theorem ascending_inLines (h : ∀ opened t, Finds most (look opened t)) (lines : List Text) :
    Ascending most lines.length ((inLines look lines).map Finding.line) := by
  induction lines using List.reverseRecOn with
  | nil => exact .nil most
  | append_singleton lines line ih =>
    rw [inLines_append_singleton, List.map_append, List.length_append, List.length_singleton]
    exact ih.append (h _ line)

/-- No line has both errors and warnings. -/
theorem line_ne_of_mem (hf : f ∈ lineErrors lines) (hg : g ∈ lineWarnings lines) :
    f.line ≠ g.line := by
  obtain ⟨k, line, hk, hf⟩ := mem_inLines_iff.1 hf
  obtain ⟨k', line', hk', hg⟩ := mem_inLines_iff.1 hg
  rw [(Line.finds_errors _ _).line_eq_of_mem hf, (Line.finds_warnings _ _).line_eq_of_mem hg]
  intro same
  -- The same number is that of the same line, and what is found in it has one severity.
  obtain rfl : k = k' := by omega
  obtain rfl : line = line' := Option.some.inj (hk.symm.trans hk')
  rcases Line.errors_eq_nil_or_warnings_eq_nil (decide (OpenAt lines k)) line (k + 1) with h | h
  · rw [h] at hf
    cases hf
  · rw [h] at hg
    cases hg

/-! ### The whole document -/

theorem length_sizeFindings_le (t : Text) : (sizeFindings t).length ≤ 1 := by
  unfold sizeFindings
  split
  · exact Nat.le_refl 1
  · exact Nat.zero_le 1

theorem length_encodingFindings_le (t : Text) : (encodingFindings t).length ≤ 1 := by
  unfold encodingFindings
  split
  · exact Nat.zero_le 1
  · exact Nat.le_refl 1

/-- Two warnings at most are about the whole document. -/
theorem exists_replicate_wholeFindings (t : Text) :
    ∃ k ≤ 2, (sizeFindings t ++ encodingFindings t).map Finding.line = List.replicate k 0 := by
  refine ⟨(sizeFindings t ++ encodingFindings t).length, ?_, List.eq_replicate_iff.2 ⟨?_, ?_⟩⟩
  · rw [List.length_append]
    exact Nat.add_le_add (length_sizeFindings_le t) (length_encodingFindings_le t)
  · exact List.length_map _
  · intro n hn
    obtain ⟨f, hf, rfl⟩ := List.mem_map.1 hn
    exact (mem_wholeFindings hf).1

theorem groupFindings_lines (grouped : Bool) :
    (groupFindings grouped).map Finding.line = [] ∨
      (groupFindings grouped).map Finding.line = [0] := by
  cases grouped with
  | true => exact .inl rfl
  | false => exact .inr rfl

/-- The report on a document of blanks is in good order. -/
theorem emptyReport_isOrderly (count : Nat) : Report.IsOrderly count ⟨[emptyError], []⟩ where
  errors_severity f hf := List.mem_singleton.1 hf ▸ rfl
  warnings_severity f hf := by cases hf
  within f hf := by
    obtain rfl := List.mem_singleton.1 hf
    exact ⟨Int.le_refl 0, Int.natCast_nonneg count⟩
  errors_lines := ⟨[], [0], rfl, .nil, fun n hn => absurd hn List.not_mem_nil, .inr rfl⟩
  warnings_lines := ⟨0, [], rfl, Nat.zero_le 2, .nil, fun n hn => absurd hn List.not_mem_nil,
    fun n => Nat.zero_le 3⟩
  apart f hf g hg := by cases hg

/-- The report on a document that is not blank is in good order. -/
theorem check_isOrderly_of_not_isBlank (h : content.dropByteOrderMark.isBlank = false) :
    (check content).IsOrderly (trimmedLines content).length := by
  have sorted : check content = .ofFindings (findings content.dropByteOrderMark) :=
    check_of_not_isBlank h
  have lines := check_eq h
  have errors := ascending_inLines Line.finds_errors (trimmedLines content)
  have warnings := ascending_inLines Line.finds_warnings (trimmedLines content)
  refine ⟨fun f hf => ?_, fun f hf => ?_, fun f hf => ?_, ?_, ?_, fun f hf g hg positive => ?_⟩
  · rw [sorted] at hf
    exact of_decide_eq_true (List.mem_filter.1 hf).2
  · rw [sorted] at hf
    exact of_decide_eq_true (List.mem_filter.1 hf).2
  · rw [lines] at hf
    rcases List.mem_append.1 hf with hf | hf
    · rcases List.mem_append.1 hf with hf | hf
      · have := errors.within _ (List.mem_map_of_mem hf)
        omega
      · have := (mem_groupFindings hf).1
        omega
    · rcases List.mem_append.1 hf with hf | hf
      · have := (mem_wholeFindings hf).1
        omega
      · have := warnings.within _ (List.mem_map_of_mem hf)
        omega
  · rw [lines, List.map_append]
    exact ⟨_, _, rfl, errors.strict, fun n hn => (errors.within n hn).1, groupFindings_lines _⟩
  · obtain ⟨k, hk, whole⟩ := exists_replicate_wholeFindings content.dropByteOrderMark
    rw [lines, List.map_append, whole]
    exact ⟨k, _, rfl, hk, warnings.sorted, fun n hn => (warnings.within n hn).1,
      warnings.count_le⟩
  -- A finding with a positive number is none about the whole document.
  · rw [lines] at hf hg
    rcases List.mem_append.1 hf with hf | hf
    · rcases List.mem_append.1 hg with hg | hg
      · have := (mem_wholeFindings hg).1
        omega
      · exact line_ne_of_mem hf hg
    · have := (mem_groupFindings hf).1
      omega

/-- Every report is in good order, and on a document of blanks it is a single error about the whole
document. -/
theorem check_isOrderly (content : Text) :
    (check content).IsOrderly (content.count (CodePoint.ofChar '\n') + 1) ∧
      (content.dropByteOrderMark.isBlank = true →
        check content = ⟨[.error 0 "Robots.txt file is empty"], []⟩) := by
  refine ⟨?_, check_of_isBlank⟩
  by_cases blank : content.dropByteOrderMark.isBlank = true
  · rw [check_of_isBlank blank]
    exact emptyReport_isOrderly _
  · rw [← length_trimmedLines]
    exact check_isOrderly_of_not_isBlank (eq_false_of_ne_true blank)

/-- A byte-order mark and two blank lines. -/
theorem check_isOrderly_blank :
    let content : Text := CodePoint.byteOrderMark :: " \n\t"
    content.dropByteOrderMark.isBlank = true ∧
      check content = ⟨[.error 0 "Robots.txt file is empty"], []⟩ ∧
      (check content).IsOrderly 2 := by
  intro content
  have blank : content.dropByteOrderMark.isBlank = true := by decide
  obtain ⟨orderly, empty⟩ := check_isOrderly content
  exact ⟨blank, empty blank, orderly⟩

end Document

end RobotsExclusion
