import RobotsExclusion.Proofs.Document.Concatenation
import RobotsExclusion.Proofs.Line.Canonical
import Mathlib.Data.List.Forall2

/-!
# Spellings of a document

A document is checked line by line, and of a line nothing counts but what it means. So the spelling
of the lines can only matter for what is said about the document as a whole: its size and its
encoding.

## Main definitions

* `Document.canonical` — the document with every line in its canonical spelling
* `Report.Agrees` — two reports that differ at most in warnings about the whole document

## Main results

* `Document.readLines_congr` — lines that mean the same are read the same
* `Document.check_agrees` — and reported the same
* `Document.check_canonical_agrees` — no spelling of a document is reported differently
-/

namespace RobotsExclusion

/-- Two reports differ at most in their warnings about the whole document. -/
structure Report.Agrees (r s : Report) : Prop where
  errors : r.errors = s.errors
  warnings : r.warnings.filter (·.line ≠ 0) = s.warnings.filter (·.line ≠ 0)

namespace Document

variable {content other : Text} {lines others : List Text}

/-- The document with every line in its canonical spelling, behind a byte-order mark. -/
def canonical (content : Text) : Text :=
  CodePoint.byteOrderMark ::
    Text.join [CodePoint.ofChar '\n'] (content.dropByteOrderMark.lines.map Line.canonical)

theorem lines_dropByteOrderMark_canonical (content : Text) :
    (canonical content).dropByteOrderMark.lines =
      content.dropByteOrderMark.lines.map Line.canonical := by
  rw [canonical, Text.dropByteOrderMark, if_pos rfl]
  refine Text.lines_join (fun line hline => ?_) ?_
  · obtain ⟨spelling, hspelling, rfl⟩ := List.mem_map.1 hline
    exact Line.lineFeed_not_mem_canonical (Text.lineFeed_not_mem_of_mem_lines hspelling)
  · exact mt List.map_eq_nil_iff.1 (Text.lines_ne_nil _)

/-! ### Lines that mean the same -/

/-- Lines that mean the same are read the same. -/
theorem readLines_congr (h : List.Forall₂ Line.Alike lines others) :
    readLines lines = readLines others := by
  unfold readLines
  -- Wherever reading has got to, the next line is read by its meaning alone.
  generalize (⟨1, false, []⟩ : Progress) = p
  induction h generalizing p with
  | nil => rfl
  | cons same _ ih =>
    rw [List.foldl_cons, List.foldl_cons, Progress.next, Progress.next, same.ofText_eq]
    exact ih _

/-- Of documents whose lines mean the same, both are blank or none is. -/
theorem isBlank_congr (h : List.Forall₂ Line.Alike content.lines other.lines) :
    content.isBlank = true ↔ other.isBlank = true := by
  rw [Text.isBlank_iff_lines, Text.isBlank_iff_lines]
  generalize content.lines = lines at h
  generalize other.lines = others at h
  induction h with
  | nil => exact Iff.rfl
  | cons same _ ih => rw [List.forall_mem_cons, List.forall_mem_cons, same.isBlank_iff, ih]

/-- What is wrong with the lines, told by reading them. -/
theorem lineReport_eq (content : Text) :
    lineReport (trimmedLines content) =
      .ofFindings (readLines content.dropByteOrderMark.lines).found.reverse := by
  have errors := filter_foundIn Line.filter_error_findings content.dropByteOrderMark.lines
  have warnings := filter_foundIn Line.filter_warning_findings content.dropByteOrderMark.lines
  rw [(readLines_follows content.dropByteOrderMark.lines).found, Report.ofFindings, errors,
    warnings]
  rfl

theorem hasAgent_iff (content : Text) :
    HasAgent content ↔ (readLines content.dropByteOrderMark.lines).grouped = true := by
  rw [(readLines_follows content.dropByteOrderMark.lines).grouped, decide_eq_true_iff,
    ← openAt_length_iff, trimmedLines, List.length_map]

/-- Without what is said about the whole document, the warnings are those of the lines. -/
theorem filter_warnings_check (content : Text) :
    (check content).warnings.filter (·.line ≠ 0) =
      (lineReport (trimmedLines content)).warnings := by
  rw [← numbered_check]
  refine List.filter_congr fun f hf => decide_eq_decide.2 ?_
  -- No number is negative.
  rcases line_of_mem_check (List.mem_append_right _ hf) with hline | ⟨k, line, hline, -⟩
  · omega
  · omega

/-- Documents whose lines mean the same are reported the same. -/
theorem check_agrees
    (h : List.Forall₂ Line.Alike content.dropByteOrderMark.lines other.dropByteOrderMark.lines) :
    (check content).Agrees (check other) := by
  have blanks := isBlank_congr h
  have read := readLines_congr h
  have lines : lineReport (trimmedLines content) = lineReport (trimmedLines other) := by
    rw [lineReport_eq, read, lineReport_eq]
  have agent : HasAgent content ↔ HasAgent other := by
    rw [hasAgent_iff, read, hasAgent_iff]
  refine ⟨?_, ?_⟩
  · by_cases blank : content.dropByteOrderMark.isBlank = true
    · rw [check_of_isBlank blank, check_of_isBlank (blanks.1 blank)]
    · have notBlank := eq_false_of_ne_true (mt blanks.2 blank)
      have errors : lineErrors (trimmedLines content) = lineErrors (trimmedLines other) :=
        congrArg Report.errors lines
      have group : groupFindings (decide (HasAgent content)) =
          groupFindings (decide (HasAgent other)) :=
        congrArg groupFindings (decide_eq_decide.2 agent)
      rw [check_eq (eq_false_of_ne_true blank), check_eq notBlank]
      exact congrArg₂ (· ++ ·) errors group
  · rw [filter_warnings_check, lines, filter_warnings_check]

/-- The canonical spelling of a document is reported as the document is, and so is every other
spelling, whatever its blanks around lines and colons, its line ends, its comments, and the case of
the letters in its names: only what is said about the whole document can differ. -/
theorem check_canonical_agrees (content : Text) :
    (check (canonical content)).Agrees (check content) ∧
      ∀ other : Text, List.Forall₂ (Relation.EqvGen Line.Respelling)
          other.dropByteOrderMark.lines content.dropByteOrderMark.lines →
        (check other).Agrees (check content) := by
  refine ⟨check_agrees ?_, fun other h => check_agrees ?_⟩
  · rw [lines_dropByteOrderMark_canonical, List.forall₂_map_left_iff]
    exact List.forall₂_same.2 fun line _ => Line.alike_canonical line
  · exact List.Forall₂.imp (fun _ _ => Line.alike_of_eqvGen) h

/-- Capital letters, a blank behind the colon, a carriage return and another comment. -/
theorem check_canonical_agrees_respelled :
    let content : Text := "allow:a\n#"
    let other : Text := "Allow: a\r\n# b"
    List.Forall₂ (Relation.EqvGen Line.Respelling) other.dropByteOrderMark.lines
        content.dropByteOrderMark.lines ∧
      (check other).Agrees (check content) ∧ (check (canonical other)).Agrees (check other) := by
  intro content other
  have spelled : List.Forall₂ (Relation.EqvGen Line.Respelling) other.dropByteOrderMark.lines
      content.dropByteOrderMark.lines := by
    have lines : content.dropByteOrderMark.lines = ["allow" ++ ":a", "#"] := by decide +kernel
    have others : other.dropByteOrderMark.lines =
        ["Allow" ++ ":" ++ " " ++ "a" ++ "\r", "#" ++ " b"] := by decide +kernel
    have ending : Line.Respelling ("Allow" ++ ":" ++ " " ++ "a" ++ "\r")
        ("Allow" ++ ":" ++ " " ++ "a") := @Line.Respelling.blanks [] "\r" _ rfl rfl
    have blank : Line.Respelling ("Allow" ++ ":" ++ " " ++ "a") ("Allow" ++ ":" ++ "a") :=
      @Line.Respelling.colon [] " " "Allow" "a" rfl rfl (by decide)
    have capital : Line.Respelling ("Allow" ++ ":" ++ "a") ("allow" ++ ":a") :=
      @Line.Respelling.letters "Allow" "allow" "a" (by decide) (by decide) (by decide +kernel)
    rw [lines, others]
    refine .cons ?_ (.cons (.rel _ _ (.comment " b" [])) .nil)
    exact .trans _ _ _ (.rel _ _ ending) (.trans _ _ _ (.rel _ _ blank) (.rel _ _ capital))
  obtain ⟨-, respelled⟩ := check_canonical_agrees content
  exact ⟨spelled, respelled other spelled, (check_canonical_agrees other).1⟩

end Document

end RobotsExclusion
