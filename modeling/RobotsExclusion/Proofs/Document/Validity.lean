import RobotsExclusion.Proofs.Document.Scan

/-!
# Valid documents

Which documents are valid, told by their trimmed lines and without reading them in order. Nothing
else counts: neither unknown directives nor paths, delays, comments, the size or the encoding.

## Main definitions

* `Document.IsSound` — what a valid document has to be

## Main results

* `Document.isValid_check_iff` — the report is free of errors exactly on these documents
-/

namespace RobotsExclusion.Document

variable {lines : List Text} {content : Text}

/-- What a valid document has to be. -/
structure IsSound (content : Text) : Prop where
  /-- There is something else than blanks. -/
  notBlank : content.dropByteOrderMark.isBlank = false
  /-- Every line that is neither empty nor a comment has a colon. -/
  separated : ∀ line ∈ trimmedLines content, ¬ Line.IsSilent line → CodePoint.ofChar ':' ∈ line
  /-- Some line names a user agent. -/
  hasAgent : ∃ line ∈ trimmedLines content, Line.Names .userAgent line
  /-- Every user agent has a value. -/
  agentsNamed : ∀ line ∈ trimmedLines content, Line.Names .userAgent line → Line.valueOf line ≠ []
  /-- Before every path there is a line that names a user agent. -/
  grouped : ∀ k line, (trimmedLines content)[k]? = some line →
    Line.Names .allow line ∨ Line.Names .disallow line → OpenAt (trimmedLines content) k
  /-- Every sitemap is an absolute URL of a web scheme. -/
  sitemaps : ∀ line ∈ trimmedLines content, Line.Names .sitemap line →
    Url.absoluteScheme? (Line.valueOf line) = some ("http" : Text) ∨
      Url.absoluteScheme? (Line.valueOf line) = some ("https" : Text)

/-- Lines are free of errors if each of them is. -/
theorem lineErrors_eq_nil_iff :
    lineErrors lines = [] ↔ ∀ k line, lines[k]? = some line →
      Line.errors (decide (OpenAt lines k)) line (k + 1) = [] := by
  rw [lineErrors, inLines, List.flatMap_eq_nil_iff]
  constructor
  · intro h k line hline
    exact h (line, k) (List.mk_mem_zipIdx_iff_getElem?.2 hline)
  · intro h entry hentry
    exact h entry.2 entry.1 (List.mem_zipIdx_iff_getElem?.1 hentry)

/-- The report on a document that is not blank is free of errors if its lines are, and one of them
names a user agent. -/
theorem isValid_check_of_not_isBlank (h : content.dropByteOrderMark.isBlank = false) :
    (check content).isValid = true ↔ lineErrors (trimmedLines content) = [] ∧
      ∃ line ∈ trimmedLines content, Line.Names .userAgent line := by
  rw [Report.isValid, check_eq h, List.isEmpty_iff, List.append_eq_nil_iff, groupFindings]
  refine and_congr_right fun _ => ?_
  by_cases agent : ∃ line ∈ trimmedLines content, Line.Names .userAgent line
  · exact iff_of_true (if_pos (decide_eq_true agent)) agent
  · rw [if_neg (by simpa using agent)]
    exact iff_of_false (by simp) agent

/-- A document is valid exactly if it is sound. -/
theorem isValid_check_iff (content : Text) :
    (check content).isValid = true ↔ IsSound content := by
  by_cases blank : content.dropByteOrderMark.isBlank = true
  · refine iff_of_false ?_ fun sound => ?_
    · rw [check_of_isBlank blank]
      exact Bool.false_ne_true
    · exact Bool.false_ne_true (sound.notBlank.symm.trans blank)
  · have notBlank := eq_false_of_ne_true blank
    rw [isValid_check_of_not_isBlank notBlank, lineErrors_eq_nil_iff]
    -- Each line is now free of four kinds of errors; soundness asks for one kind at a time.
    simp only [Line.errors_eq_nil_iff, decide_eq_true_eq]
    constructor
    · rintro ⟨clean, agent⟩
      refine ⟨notBlank, fun line hline silent => ?_, agent, fun line hline => ?_,
        fun k line hk => (clean k line hk).2.2.1, fun line hline => ?_⟩
      · obtain ⟨k, hk⟩ := List.getElem?_of_mem hline
        exact (clean k line hk).1.resolve_left silent
      · obtain ⟨k, hk⟩ := List.getElem?_of_mem hline
        exact (clean k line hk).2.1
      · obtain ⟨k, hk⟩ := List.getElem?_of_mem hline
        exact (clean k line hk).2.2.2
    · intro sound
      refine ⟨fun k line hk => ?_, sound.hasAgent⟩
      have hline := List.mem_of_getElem? hk
      exact ⟨or_iff_not_imp_left.2 (sound.separated line hline), sound.agentsNamed line hline,
        sound.grouped k line hk, sound.sitemaps line hline⟩

end RobotsExclusion.Document
