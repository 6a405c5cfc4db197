import RobotsExclusion.Proofs.Report
import RobotsExclusion.Proofs.Text.Cut
import RobotsExclusion.Proofs.Text.Lines
import RobotsExclusion.Proofs.Text.Numeral

/-!
# Reading a report back from its text

The text of a report has a line for each finding below the heading of its section. The number of the
line ends at the first colon, and all behind it is the message. As no heading looks like a finding,
the sections can be told apart, and if no message has a line feed, the numbers and the messages are
found again as they were.

## Main definitions

* `Finding.content` — what the text of a report tells of a finding
* `Report.readFinding?` — reads a line that tells a finding
* `Report.readSection` — reads the findings below a heading

## Main results

* `Report.lines_render` — the lines of the text
* `Report.readSection_errors`, `Report.readSection_warnings` — what is read below the headings
* `Report.contents_eq_of_render_eq` — different findings have different texts
-/

namespace RobotsExclusion

/-- What the text of a report tells of a finding: the number of its line and its message. -/
def Finding.content (f : Finding) : Int × Text := (f.line, f.message)

theorem Finding.eq_map_content {fs : List Finding} {severity : Severity}
    (h : ∀ f ∈ fs, f.severity = severity) :
    fs = (fs.map content).map fun c => ⟨c.1, c.2, severity⟩ := by
  rw [List.map_map]
  refine (List.map_id fs).symm.trans (List.map_congr_left fun f hf => ?_)
  rw [Function.comp_apply, ← h f hf]
  rfl

/-- Among findings of one severity, those with the same contents are the same. -/
theorem Finding.eq_of_map_content {fs gs : List Finding} {severity : Severity}
    (hfs : ∀ f ∈ fs, f.severity = severity) (hgs : ∀ g ∈ gs, g.severity = severity)
    (h : fs.map content = gs.map content) : fs = gs := by
  rw [eq_map_content hfs, h, ← eq_map_content hgs]

namespace Report

variable {fs : List Finding} {f : Finding} {heading t : Text} {ls more : List Text} {r : Report}

/-! ### Lines -/

/-- The line of text for a finding, without its line feed. -/
def findingLine (f : Finding) : Text := "  Line " ++ Text.ofInt f.line ++ ": " ++ f.message

theorem renderFinding_eq (f : Finding) :
    renderFinding f = findingLine f ++ [CodePoint.ofChar '\n'] := rfl

/-- The lines of a section: a heading and the findings below it, or nothing. -/
def sectionLines (heading : Text) (fs : List Finding) : List Text :=
  if fs.isEmpty then [] else (heading ++ ":") :: fs.map findingLine

theorem lineFeed_not_mem_findingLine (h : CodePoint.ofChar '\n' ∉ f.message) :
    CodePoint.ofChar '\n' ∉ findingLine f := by
  have number : CodePoint.ofChar '\n' ∉ Text.ofInt f.line :=
    Text.not_mem_ofInt (by decide) (by decide) _
  have start : CodePoint.ofChar '\n' ∉ ("  Line " : Text) := by decide
  have colon : CodePoint.ofChar '\n' ∉ (": " : Text) := by decide
  simp only [findingLine, List.mem_append, not_or]
  exact ⟨⟨⟨start, number⟩, colon⟩, h⟩

theorem lines_flatMap_renderFinding (h : ∀ f ∈ fs, CodePoint.ofChar '\n' ∉ f.message) (t : Text) :
    Text.lines (fs.flatMap renderFinding ++ t) = fs.map findingLine ++ t.lines := by
  induction fs with
  | nil => rfl
  | cons f fs ih =>
    obtain ⟨hf, hfs⟩ := List.forall_mem_cons.1 h
    -- The line feed behind the first finding keeps it apart from all that follows.
    rw [List.flatMap_cons, renderFinding_eq, List.append_assoc, List.append_assoc,
      List.singleton_append, Text.lines_append,
      Text.lines_of_not_mem (lineFeed_not_mem_findingLine hf), ih hfs]
    rfl

/-- A section takes up its lines, whatever the text behind it. -/
theorem lines_renderSection (hheading : CodePoint.ofChar '\n' ∉ heading)
    (h : ∀ f ∈ fs, CodePoint.ofChar '\n' ∉ f.message) (t : Text) :
    Text.lines (renderSection heading fs ++ t) = sectionLines heading fs ++ t.lines := by
  cases fs with
  | nil => rfl
  | cons f fs =>
    have colon : CodePoint.ofChar '\n' ∉ (":" : Text) := by decide
    have hline : CodePoint.ofChar '\n' ∉ heading ++ ":" := by
      rw [List.mem_append, not_or]
      exact ⟨hheading, colon⟩
    have start : renderSection heading (f :: fs) ++ t =
        (heading ++ ":") ++ CodePoint.ofChar '\n' :: ((f :: fs).flatMap renderFinding ++ t) := by
      rw [renderSection, if_neg (by simp), List.append_assoc, List.append_assoc, List.append_assoc]
      rfl
    rw [start, Text.lines_append, Text.lines_of_not_mem hline, lines_flatMap_renderFinding h]
    rfl

/-- The empty line between two sections. -/
def gap (r : Report) : List Text :=
  if r.errors.isEmpty || r.warnings.isEmpty then [] else [[]]

/-- No message has a line feed. -/
def FitsLines (r : Report) : Prop := ∀ f ∈ r.findings, CodePoint.ofChar '\n' ∉ f.message

instance (r : Report) : Decidable r.FitsLines := inferInstanceAs (Decidable (∀ f ∈ _, _))

theorem isEmpty_and_iff : (r.errors.isEmpty && r.warnings.isEmpty) = true ↔ r.findings = [] := by
  rw [Bool.and_eq_true_iff, List.isEmpty_iff, List.isEmpty_iff, findings, List.append_eq_nil_iff]

/-- The lines of the text of a report with findings. Behind the last line feed there is one more
line, which is empty. -/
theorem lines_render (h : r.FitsLines) (found : r.findings ≠ []) :
    r.render.lines =
      sectionLines "Errors" r.errors ++ (r.gap ++ (sectionLines "Warnings" r.warnings ++ [[]])) := by
  have herrors : ∀ f ∈ r.errors, CodePoint.ofChar '\n' ∉ f.message :=
    fun f hf => h f (List.mem_append_left _ hf)
  have hwarnings : ∀ f ∈ r.warnings, CodePoint.ofChar '\n' ∉ f.message :=
    fun f hf => h f (List.mem_append_right _ hf)
  have warnings : Text.lines (renderSection "Warnings" r.warnings) =
      sectionLines "Warnings" r.warnings ++ [[]] := by
    rw [← List.append_nil (renderSection _ _), lines_renderSection (by decide) hwarnings]
    rfl
  rw [render, if_neg (mt isEmpty_and_iff.1 found), gap]
  dsimp only
  split
  · rw [lines_renderSection (by decide) herrors, warnings, List.nil_append]
  · rw [List.append_assoc, lines_renderSection (by decide) herrors]
    have blank : ("\n" : Text) ++ renderSection "Warnings" r.warnings =
        [] ++ CodePoint.ofChar '\n' :: renderSection "Warnings" r.warnings := rfl
    rw [blank, Text.lines_append, warnings]
    rfl

/-! ### Reading -/

/-- Reads a line that tells a finding. The number ends at the first colon, and a space follows. -/
def readFinding? (line : Text) : Option (Int × Text) :=
  if ("  Line " : Text) <+: line then
    (Text.cut? ':' (line.drop 7)).map fun (number, message) => (number.toInt, message.drop 1)
  else none

/-- Reads lines up to the first one that tells no finding. -/
def readFindings : List Text → List (Int × Text)
  | [] => []
  | line :: ls =>
    match readFinding? line with
    | none => []
    | some content => content :: readFindings ls

/-- Reads the findings below the first such heading. -/
def readSection (heading : Text) (ls : List Text) : List (Int × Text) :=
  readFindings ((ls.dropWhile (· ≠ heading ++ ":")).drop 1)

/-- The colon behind the number is the first one, whatever the message. -/
theorem readFinding?_findingLine (f : Finding) : readFinding? (findingLine f) = some f.content := by
  have number : CodePoint.ofChar ':' ∉ Text.ofInt f.line :=
    Text.not_mem_ofInt (by decide) (by decide) _
  have parts : findingLine f = ("  Line " : Text) ++
      (Text.ofInt f.line ++ CodePoint.ofChar ':' :: (CodePoint.ofChar ' ' :: f.message)) := by
    rw [findingLine, List.append_assoc, List.append_assoc]
    rfl
  have behind : (findingLine f).drop 7 =
      Text.ofInt f.line ++ CodePoint.ofChar ':' :: (CodePoint.ofChar ' ' :: f.message) := by
    rw [parts]
    exact List.drop_left' rfl
  rw [readFinding?, if_pos (parts ▸ List.prefix_append _ _), behind, Text.cut?_append_cons number,
    Option.map_some]
  exact congrArg some (Prod.ext (Text.toInt_ofInt f.line) rfl)

/-- A line that tells a finding starts with a space. -/
theorem head?_findingLine (f : Finding) :
    (findingLine f).head? = some (CodePoint.ofChar ' ') := rfl

theorem readFindings_append {line : Text} (h : readFinding? line = none) (fs : List Finding) :
    readFindings (fs.map findingLine ++ line :: more) = fs.map Finding.content := by
  induction fs with
  | nil => rw [List.map_nil, List.nil_append, readFindings, h, List.map_nil]
  | cons f fs ih =>
    rw [List.map_cons, List.cons_append, readFindings, readFinding?_findingLine, List.map_cons, ih]

theorem readSection_append (h : heading ++ ":" ∉ ls) (more : List Text) :
    readSection heading (ls ++ (heading ++ ":") :: more) = readFindings more := by
  have skipped : ∀ line ∈ ls, decide (line ≠ heading ++ ":") = true :=
    fun line hline => decide_eq_true fun same => h (same ▸ hline)
  rw [readSection, List.dropWhile_append_of_pos skipped, List.dropWhile_cons_of_neg (by simp),
    List.drop_one, List.tail_cons]

theorem readSection_of_not_mem (h : heading ++ ":" ∉ ls) : readSection heading ls = [] := by
  have skipped : ls.dropWhile (· ≠ heading ++ ":") = [] :=
    List.dropWhile_eq_nil_iff.2 fun line hline => decide_eq_true fun same => h (same ▸ hline)
  rw [readSection, skipped]
  rfl

/-- The findings of a section are no headings. -/
theorem not_mem_sectionLines (other : heading ++ ":" ≠ t)
    (unspaced : t.head? ≠ some (CodePoint.ofChar ' ')) (fs : List Finding) :
    t ∉ sectionLines heading fs := by
  intro mem
  rw [sectionLines] at mem
  split at mem
  · cases mem
  · rcases List.mem_cons.1 mem with same | mem
    · exact other same.symm
    · obtain ⟨f, -, hf⟩ := List.mem_map.1 mem
      exact unspaced (hf ▸ head?_findingLine f)

theorem not_mem_gap (h : t ≠ []) (r : Report) : t ∉ r.gap := by
  intro mem
  rw [gap] at mem
  split at mem
  · cases mem
  · exact h (List.mem_singleton.1 mem)

/-- An empty line follows the errors, whether or not there are warnings. -/
theorem exists_gap_append (found : r.errors ≠ []) :
    ∃ more, r.gap ++ (sectionLines "Warnings" r.warnings ++ [[]]) = [] :: more := by
  have nonempty : r.errors.isEmpty = false := List.isEmpty_eq_false_iff.2 found
  cases hwarnings : r.warnings with
  | nil =>
    -- It is the one behind the last line feed.
    rw [gap, hwarnings, List.isEmpty_nil, Bool.or_true]
    exact ⟨[], rfl⟩
  | cons f fs =>
    rw [gap, nonempty, hwarnings, List.isEmpty_cons]
    exact ⟨_, rfl⟩

/-- A line of the text is empty, the message of success, or a line of one of the sections. -/
theorem not_mem_lines_render (h : r.FitsLines) (nonempty : t ≠ []) (other : t ≠ success)
    (errors : t ∉ sectionLines "Errors" r.errors)
    (warnings : t ∉ sectionLines "Warnings" r.warnings) : t ∉ r.render.lines := by
  by_cases found : r.findings = []
  · have single : success.lines = [success] := Text.lines_of_not_mem (by decide)
    rw [render, if_pos (isEmpty_and_iff.2 found), single, List.mem_singleton]
    exact other
  · have last : t ∉ [([] : Text)] := fun mem => nonempty (List.mem_singleton.1 mem)
    rw [lines_render h found]
    simp only [List.mem_append, not_or]
    exact ⟨errors, not_mem_gap nonempty r, warnings, last⟩

/-- The errors are read back. -/
theorem readSection_errors (h : r.FitsLines) :
    readSection "Errors" r.render.lines = r.errors.map Finding.content := by
  cases herrors : r.errors with
  | nil =>
    -- Without errors, their heading is nowhere to be found.
    refine readSection_of_not_mem (not_mem_lines_render h (by decide) (by decide) ?_ ?_)
    · exact herrors ▸ List.not_mem_nil
    · exact not_mem_sectionLines (by decide) (by decide) _
  | cons f fs =>
    have nonempty : r.errors ≠ [] := herrors ▸ List.cons_ne_nil f fs
    obtain ⟨more, blank⟩ := exists_gap_append nonempty
    rw [lines_render h (List.append_ne_nil_of_left_ne_nil nonempty _), blank, herrors]
    exact (readSection_append List.not_mem_nil _).trans (readFindings_append rfl (f :: fs))

/-- The warnings are read back. -/
theorem readSection_warnings (h : r.FitsLines) :
    readSection "Warnings" r.render.lines = r.warnings.map Finding.content := by
  have before : ("Warnings" : Text) ++ ":" ∉ sectionLines "Errors" r.errors :=
    not_mem_sectionLines (by decide) (by decide) _
  cases hwarnings : r.warnings with
  | nil =>
    refine readSection_of_not_mem (not_mem_lines_render h (by decide) (by decide) before ?_)
    exact hwarnings ▸ List.not_mem_nil
  | cons f fs =>
    have nonempty : r.warnings ≠ [] := hwarnings ▸ List.cons_ne_nil f fs
    -- Neither an error nor the empty line is taken for the heading, whatever the messages say.
    have skipped : ("Warnings" : Text) ++ ":" ∉ sectionLines "Errors" r.errors ++ r.gap := by
      rw [List.mem_append, not_or]
      exact ⟨before, not_mem_gap (by decide) r⟩
    rw [lines_render h (List.append_ne_nil_of_right_ne_nil _ nonempty), hwarnings,
      ← List.append_assoc]
    exact (readSection_append skipped _).trans (readFindings_append rfl (f :: fs))

/-- Reports whose texts are the same tell the same. -/
theorem contents_eq_of_render_eq {s : Report} (hr : r.FitsLines) (hs : s.FitsLines)
    (h : r.render = s.render) :
    r.errors.map Finding.content = s.errors.map Finding.content ∧
      r.warnings.map Finding.content = s.warnings.map Finding.content := by
  constructor
  · rw [← readSection_errors hr, h, readSection_errors hs]
  · rw [← readSection_warnings hr, h, readSection_warnings hs]

end Report

end RobotsExclusion
