import RobotsExclusion.Proofs.Document.Scan
import RobotsExclusion.Proofs.Report

/-!
# Documents that are no UTF-8

Reading ill-formed bytes leaves surrogates in the text, and it is by them that the check tells.
Surrogates are no blanks and no byte-order marks, so they keep the document from being taken for an
empty one, and no step before the warning removes them.

## Main definitions

* `Document.encodingWarning` — the finding in question

## Main results

* `Document.count_encodingWarning_check` — the warning is given once on texts with surrogates, and
  never on others
* `Document.emptyError_mem_check_iff` — only a document of blanks is reported as empty
* `Document.encodingWarning_mem_checkBytes_iff` — the warning is given on ill-formed bytes alone
-/

namespace RobotsExclusion

open Utf8

/-- No surrogate is white space. -/
theorem CodePoint.isSurrogate_of_isBlank {c : CodePoint} (h : c.isBlank = true) :
    c.isSurrogate = false := by
  obtain ⟨range, hrange, low, high⟩ := exists_range_of_isBlank h
  have apart : ∀ r ∈ blankRanges, r.2 < 0xD800 ∨ 0xDFFF < r.1 := by decide
  have := apart range hrange
  simp only [isSurrogate, Bool.and_eq_false_iff, decide_eq_false_iff_not]
  omega

namespace Document

variable {content : Text} {lines : List Text} {f : Finding}

/-- The warning about a document that is no UTF-8. -/
def encodingWarning : Finding := .warning 0 "File should be UTF-8 encoded (RFC 9309)"

/-! ### Findings about the whole document -/

/-- What is found in a line has the number of the line, which is never zero. -/
theorem not_mem_foundIn (h : f.line = 0) : f ∉ foundIn lines := by
  intro hf
  obtain ⟨k, line, -, hline⟩ := mem_foundIn_iff.1 hf
  have := Line.line_eq_of_mem_findings hline
  omega

theorem encodingWarning_not_mem_sizeFindings (t : Text) : encodingWarning ∉ sizeFindings t := by
  unfold sizeFindings
  split
  · decide +kernel
  · exact List.not_mem_nil

theorem encodingWarning_not_mem_groupFindings (grouped : Bool) :
    encodingWarning ∉ groupFindings grouped := by
  intro h
  cases (mem_groupFindings h).2

theorem emptyError_not_mem_groupFindings (grouped : Bool) :
    emptyError ∉ groupFindings grouped := by
  cases grouped <;> decide +kernel

theorem count_encodingFindings (t : Text) :
    (encodingFindings t).count encodingWarning =
      if t.any CodePoint.isSurrogate = true then 1 else 0 := by
  rw [encodingFindings, Text.utf8?]
  by_cases surrogate : t.any CodePoint.isSurrogate = true
  · rw [if_pos surrogate, if_pos surrogate]
    rfl
  · rw [if_neg surrogate, if_neg surrogate]
    rfl

/-- A text with surrogates is not blank. -/
theorem isBlank_eq_false_of_any_isSurrogate (h : content.any CodePoint.isSurrogate = true) :
    content.dropByteOrderMark.isBlank = false := by
  rw [← Text.any_isSurrogate_dropByteOrderMark, List.any_eq_true] at h
  obtain ⟨c, hc, surrogate⟩ := h
  refine eq_false_of_ne_true fun blank => ?_
  have plain := CodePoint.isSurrogate_of_isBlank (List.all_eq_true.1 blank c hc)
  exact Bool.false_ne_true (plain.symm.trans surrogate)

/-- The warning is given once on texts with surrogates, and never on others. -/
theorem count_encodingWarning_check (content : Text) :
    (check content).findings.count encodingWarning =
      if content.any CodePoint.isSurrogate = true then 1 else 0 := by
  by_cases blank : content.dropByteOrderMark.isBlank = true
  -- A document of blanks is left early, but it has no surrogates to be warned about.
  · have plain : ¬ content.any CodePoint.isSurrogate = true := fun surrogate =>
      Bool.false_ne_true ((isBlank_eq_false_of_any_isSurrogate surrogate).symm.trans blank)
    rw [check_of_isBlank blank, if_neg plain]
    decide
  · have lines : encodingWarning ∉ foundIn content.dropByteOrderMark.lines := not_mem_foundIn rfl
    have size := encodingWarning_not_mem_sizeFindings content.dropByteOrderMark
    rw [check_of_not_isBlank (eq_false_of_ne_true blank), Report.count_findings_ofFindings,
      findings_eq, List.count_append, List.count_append, List.count_append, count_encodingFindings,
      List.count_eq_zero.2 size, List.count_eq_zero.2 lines,
      List.count_eq_zero.2 (encodingWarning_not_mem_groupFindings _),
      Text.any_isSurrogate_dropByteOrderMark]
    simp only [Nat.zero_add, Nat.add_zero]

theorem encodingWarning_mem_check_iff :
    encodingWarning ∈ (check content).findings ↔ content.any CodePoint.isSurrogate = true := by
  rw [← List.count_pos_iff, count_encodingWarning_check]
  split_ifs with surrogate
  · exact iff_of_true Nat.one_pos surrogate
  · exact iff_of_false (Nat.lt_irrefl 0) surrogate

/-- Only a document of blanks is reported as empty. -/
theorem emptyError_mem_check_iff :
    emptyError ∈ (check content).findings ↔ content.dropByteOrderMark.isBlank = true := by
  by_cases blank : content.dropByteOrderMark.isBlank = true
  · rw [check_of_isBlank blank]
    exact iff_of_true (List.mem_singleton.2 rfl) blank
  · refine iff_of_false ?_ blank
    rw [check_of_not_isBlank (eq_false_of_ne_true blank), Report.mem_findings_ofFindings_iff,
      findings_eq]
    intro h
    rcases List.mem_append.1 h with h | h
    · rcases List.mem_append.1 h with h | h
      · cases (mem_wholeFindings h).2
      · exact not_mem_foundIn rfl h
    · exact emptyError_not_mem_groupFindings _ h

/-! ### Documents given as bytes -/

/-- The warning is given exactly on ill-formed bytes, and only once. Those are never reported as
empty, byte-order marks in front do not matter, and of encoded texts only those with surrogates are
warned about. -/
theorem encodingWarning_mem_checkBytes_iff (bytes : Bytes) :
    (encodingWarning ∈ (checkBytes bytes).findings ↔ ¬ WellFormed bytes) ∧
      ((checkBytes bytes).findings.count encodingWarning = 1 ↔ ¬ WellFormed bytes) ∧
      (emptyError ∈ (checkBytes bytes).findings → WellFormed bytes) ∧
      (∀ marks, encodingWarning ∈
        (checkBytes ((List.replicate marks [0xEF, 0xBB, 0xBF]).flatten ++ bytes)).findings ↔
          ¬ WellFormed bytes) ∧
      ∀ t : Text, encodingWarning ∈ (checkBytes t.utf8).findings ↔
        ∃ c ∈ t, c.isSurrogate = true := by
  have flagged (bytes : Bytes) :
      encodingWarning ∈ (checkBytes bytes).findings ↔ ¬ WellFormed bytes := by
    rw [checkBytes, encodingWarning_mem_check_iff, any_isSurrogate_readDocument_iff]
  refine ⟨flagged bytes, ?_, fun empty => ?_, fun marks => ?_, fun t => ?_⟩
  · rw [checkBytes, count_encodingWarning_check, ← any_isSurrogate_readDocument_iff]
    by_cases surrogate : (readDocument bytes).any CodePoint.isSurrogate = true
    · exact iff_of_true (if_pos surrogate) surrogate
    · rw [if_neg surrogate]
      exact iff_of_false Nat.zero_ne_one surrogate
  -- Ill-formed bytes leave a surrogate in the text, which is then not blank.
  · by_contra illFormed
    have surrogate := any_isSurrogate_readDocument_iff.2 illFormed
    have blank := emptyError_mem_check_iff.1 empty
    exact Bool.false_ne_true ((isBlank_eq_false_of_any_isSurrogate surrogate).symm.trans blank)
  -- The marks are the encoding of a text, and only that matters.
  · have marked : (List.replicate marks [0xEF, 0xBB, 0xBF]).flatten =
        Text.utf8 (List.replicate marks CodePoint.byteOrderMark) := by
      rw [Text.utf8, List.flatMap_def, List.map_replicate]
      rfl
    rw [flagged, marked, wellFormed_utf8_append_iff fun c hc => List.eq_of_mem_replicate hc ▸ rfl]
  · rw [flagged, wellFormed_utf8_iff]
    push Not
    simp only [ne_eq, Bool.not_eq_false]

end Document

end RobotsExclusion
