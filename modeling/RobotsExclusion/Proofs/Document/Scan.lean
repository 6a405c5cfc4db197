import RobotsExclusion.Document
import RobotsExclusion.Proofs.Line
import RobotsExclusion.Proofs.Report
import RobotsExclusion.Proofs.Utf8
import Mathlib.Data.List.Induction

/-!
# Reading the lines of a document

The lines are read one by one, and all that is carried from line to line is a number, whether a
user agent has been named, and the findings so far. Here each of them is tied to the lines that have
been read, so that the report on a document can be told without any state: what is found in a line
depends on the line, its number, and whether some earlier line names a user agent.

## Main definitions

* `Document.trimmedLines` — the lines that a check looks at
* `Document.OpenAt` — some earlier line names a user agent
* `Document.Progress.Follows` — what has been read, told by the lines themselves
* `Document.inLines` — what is found in lines if each is looked at by itself
* `Document.lineErrors`, `Document.lineWarnings` — what is wrong with the lines, without any state

## Main results

* `Document.inLines_append` — what is found in the lines behind others
* `Document.Progress.Follows.next` — reading one more line
* `Document.readLines_follows` — reading any number of lines
* `Document.check_eq`, `Document.check_eq_by_lines` — the report on a document that is not blank
* `Document.line_of_mem_check` — where a finding was made
-/

namespace RobotsExclusion.Document

variable {lines more : List Text} {line content : Text} {k : Nat} {p : Progress} {f : Finding}
  {look : Bool → Text → Int → List Finding}

/-- The lines of a document that a check looks at: one byte-order mark does not count, and each
line is trimmed. -/
def trimmedLines (content : Text) : List Text := content.dropByteOrderMark.lines.map Text.trim

/-- One of the first `k` trimmed lines names a user agent, whether or not it has a value. -/
def OpenAt (lines : List Text) (k : Nat) : Prop :=
  ∃ line ∈ lines.take k, Line.Names .userAgent line

instance (lines : List Text) (k : Nat) : Decidable (OpenAt lines k) :=
  inferInstanceAs (Decidable (∃ line ∈ _, _))

/-- Later lines do not matter. -/
theorem openAt_append_iff (h : k ≤ lines.length) : OpenAt (lines ++ more) k ↔ OpenAt lines k := by
  rw [OpenAt, List.take_append_of_le_length h, OpenAt]

/-- After all lines, all of them count. -/
theorem openAt_map_length_iff (lines : List Text) : OpenAt (lines.map Text.trim) lines.length ↔
    ∃ line ∈ lines, Line.Names .userAgent line.trim := by
  rw [OpenAt, List.take_of_length_le (List.length_map _).le]
  simp only [List.mem_map, exists_exists_and_eq_and]

/-- The earlier lines of two stretches are those of the first one and the earlier ones of the
second. -/
theorem openAt_append_add_iff (lines more : List Text) (k : Nat) :
    OpenAt (lines ++ more) (lines.length + k) ↔ OpenAt lines lines.length ∨ OpenAt more k := by
  rw [OpenAt, List.take_length_add_append, OpenAt, List.take_length, OpenAt]
  simp only [List.mem_append, or_and_right, exists_or]

/-! ### Line by line -/

/-- What `look` finds in trimmed lines, in the order of the lines. It is told whether an earlier
line names a user agent, the line, and its number. -/
def inLines (look : Bool → Text → Int → List Finding) (lines : List Text) : List Finding :=
  lines.zipIdx.flatMap fun entry => look (decide (OpenAt lines entry.2)) entry.1 (entry.2 + 1)

theorem mem_flatMap_zipIdx_iff {α β : Type*} {items : List α} {g : α × Nat → List β} {b : β} :
    b ∈ items.zipIdx.flatMap g ↔ ∃ k a, items[k]? = some a ∧ b ∈ g (a, k) := by
  rw [List.mem_flatMap]
  constructor
  · rintro ⟨⟨a, k⟩, hentry, hb⟩
    exact ⟨k, a, List.mk_mem_zipIdx_iff_getElem?.1 hentry, hb⟩
  · rintro ⟨k, a, ha, hb⟩
    exact ⟨⟨a, k⟩, List.mk_mem_zipIdx_iff_getElem?.2 ha, hb⟩

theorem mem_inLines_iff : f ∈ inLines look lines ↔ ∃ k line, lines[k]? = some line ∧
    f ∈ look (decide (OpenAt lines k)) line (k + 1) :=
  mem_flatMap_zipIdx_iff

/-- Later lines are looked at as if they were alone, but for two things: their numbers go on, and it
counts whether one of the lines before them names a user agent. -/
theorem inLines_append (look : Bool → Text → Int → List Finding) (lines more : List Text) :
    inLines look (lines ++ more) = inLines look lines ++
      inLines (fun opened t number =>
        look (decide (OpenAt lines lines.length) || opened) t (lines.length + number)) more := by
  rw [inLines, List.zipIdx_append, List.flatMap_append, inLines]
  congr 1
  -- No line notices what comes later.
  · refine List.flatMap_congr fun entry hentry => ?_
    have hk := List.snd_lt_of_mem_zipIdx hentry
    rw [decide_eq_decide.2 (openAt_append_iff (by omega))]
  · rw [List.zipIdx_eq_map_add, List.flatMap_map, inLines]
    refine List.flatMap_congr fun entry _ => ?_
    have number : ((lines.length + entry.2 : Nat) : Int) + 1 = lines.length + (entry.2 + 1) := by
      omega
    simp only [Nat.zero_add, number, openAt_append_add_iff, Bool.decide_or]

theorem inLines_append_singleton (look : Bool → Text → Int → List Finding) (lines : List Text)
    (line : Text) :
    inLines look (lines ++ [line]) = inLines look lines ++
      look (decide (OpenAt lines lines.length)) line (lines.length + 1) := by
  rw [inLines_append]
  congr 1
  simp [inLines, OpenAt]

/-! ### Steps and runs -/

/-- What is found in lines, each with the number of lines before it. -/
def foundIn (lines : List Text) : List Finding :=
  lines.zipIdx.flatMap fun entry =>
    (Line.ofText entry.1).findings (decide (OpenAt (lines.map Text.trim) entry.2)) (entry.2 + 1)

theorem mem_foundIn_iff :
    f ∈ foundIn lines ↔ ∃ k line, lines[k]? = some line ∧
      f ∈ (Line.ofText line).findings (decide (OpenAt (lines.map Text.trim) k)) (k + 1) :=
  mem_flatMap_zipIdx_iff

/-- Lines can be trimmed before they are read. -/
theorem foundIn_eq_inLines (lines : List Text) :
    foundIn lines = inLines (fun opened t number => (Line.ofText t).findings opened number)
      (lines.map Text.trim) := by
  rw [foundIn, inLines, List.zipIdx_map, List.flatMap_map]
  refine List.flatMap_congr fun entry _ => ?_
  simp only [Prod.map_fst, Prod.map_snd, id_eq, Line.ofText_trim]

theorem foundIn_append_singleton (lines : List Text) (line : Text) :
    foundIn (lines ++ [line]) = foundIn lines ++
      (Line.ofText line).findings (decide (OpenAt (lines.map Text.trim) lines.length))
        (lines.length + 1) := by
  rw [foundIn_eq_inLines, List.map_append, List.map_singleton, inLines_append_singleton,
    ← foundIn_eq_inLines, List.length_map, Line.ofText_trim]

/-- The progress after some lines. -/
structure Progress.Follows (p : Progress) (lines : List Text) : Prop where
  number : p.number = lines.length + 1
  grouped : p.grouped = decide (OpenAt (lines.map Text.trim) lines.length)
  found : p.found.reverse = foundIn lines

/-- Reading one more line keeps the progress tied to the lines. -/
theorem Progress.Follows.next (h : p.Follows lines) (line : Text) :
    (p.next line).Follows (lines ++ [line]) := by
  refine ⟨?_, ?_, ?_⟩
  · rw [List.length_append, List.length_singleton, ← h.number]
    rfl
  · have grouped : p.grouped = true ↔ ∃ l ∈ lines, Line.Names .userAgent l.trim := by
      rw [h.grouped, decide_eq_true_iff, openAt_map_length_iff]
    rw [Bool.eq_iff_iff, decide_eq_true_iff, openAt_map_length_iff, Progress.next, Bool.or_eq_true,
      grouped, Line.opensGroup_ofText_iff]
    simp only [List.mem_append, List.mem_singleton, or_and_right, exists_or, exists_eq_left]
  · rw [foundIn_append_singleton, ← h.found, ← h.grouped]
    change (((Line.ofText line).findings p.grouped p.number).reverse ++ p.found).reverse = _
    rw [List.reverse_append, List.reverse_reverse, h.number]
    rfl

theorem follows_nil : Progress.Follows ⟨1, false, []⟩ [] := ⟨rfl, rfl, rfl⟩

/-- After any number of lines the progress is tied to them. -/
theorem readLines_follows (lines : List Text) : (readLines lines).Follows lines := by
  induction lines using List.reverseRecOn with
  | nil => exact follows_nil
  | append_singleton lines line ih =>
    rw [readLines, List.foldl_append]
    exact ih.next line

/-! ### The report -/

/-- The error about a document of blanks alone. -/
def emptyError : Finding := .error 0 "Robots.txt file is empty"

theorem check_of_isBlank (h : content.dropByteOrderMark.isBlank = true) :
    check content = ⟨[emptyError], []⟩ := if_pos h

theorem check_of_not_isBlank (h : content.dropByteOrderMark.isBlank = false) :
    check content = .ofFindings (findings content.dropByteOrderMark) :=
  if_neg (ne_true_of_eq_false h)

/-- The errors in trimmed lines. -/
def lineErrors (lines : List Text) : List Finding := inLines Line.errors lines

/-- The warnings in trimmed lines. -/
def lineWarnings (lines : List Text) : List Finding := inLines Line.warnings lines

/-- What is found in lines can be sorted by severity line by line. -/
theorem filter_foundIn {severity : Severity}
    (h : ∀ opened t number, ((Line.ofText t).findings opened number).filter
      (·.severity = severity) = look opened t.trim number) (lines : List Text) :
    (foundIn lines).filter (·.severity = severity) = inLines look (lines.map Text.trim) := by
  rw [foundIn, List.filter_flatMap, inLines, List.zipIdx_map, List.flatMap_map]
  exact List.flatMap_congr fun entry _ => h _ _ _

/-- What is found in the size and the encoding is a warning about the whole document. -/
theorem mem_wholeFindings {t : Text} (h : f ∈ sizeFindings t ++ encodingFindings t) :
    f.line = 0 ∧ f.severity = .warning := by
  rcases List.mem_append.1 h with h | h
  · unfold sizeFindings at h
    split at h
    · obtain rfl := List.mem_singleton.1 h
      exact ⟨rfl, rfl⟩
    · cases h
  · unfold encodingFindings at h
    split at h
    · cases h
    · obtain rfl := List.mem_singleton.1 h
      exact ⟨rfl, rfl⟩

/-- A missing user agent is an error about the whole document. -/
theorem mem_groupFindings {grouped : Bool} (h : f ∈ groupFindings grouped) :
    f.line = 0 ∧ f.severity = .error := by
  cases grouped with
  | true => cases h
  | false =>
    obtain rfl := List.mem_singleton.1 h
    exact ⟨rfl, rfl⟩

/-- The findings about a document that is not blank, without any state. -/
theorem findings_eq (t : Text) :
    findings t = sizeFindings t ++ encodingFindings t ++ foundIn t.lines ++
      groupFindings (decide (∃ line ∈ t.lines.map Text.trim, Line.Names .userAgent line)) := by
  have read := readLines_follows t.lines
  have grouped : (readLines t.lines).grouped =
      decide (∃ line ∈ t.lines.map Text.trim, Line.Names .userAgent line) := by
    rw [read.grouped, decide_eq_decide, openAt_map_length_iff]
    simp only [List.mem_map, exists_exists_and_eq_and]
  rw [findings, grouped, read.found]

/-- The report on a document that is not blank, without any state. -/
theorem check_eq (h : content.dropByteOrderMark.isBlank = false) :
    check content =
      ⟨lineErrors (trimmedLines content) ++ groupFindings
          (decide (∃ line ∈ trimmedLines content, Line.Names .userAgent line)),
        sizeFindings content.dropByteOrderMark ++ encodingFindings content.dropByteOrderMark ++
          lineWarnings (trimmedLines content)⟩ := by
  have warns : ∀ f ∈ sizeFindings content.dropByteOrderMark ++
      encodingFindings content.dropByteOrderMark, f.severity = .warning :=
    fun f hf => (mem_wholeFindings hf).2
  have fails (grouped : Bool) : ∀ f ∈ groupFindings grouped, f.severity = .error :=
    fun f hf => (mem_groupFindings hf).2
  have trimmed : content.dropByteOrderMark.lines.map Text.trim = trimmedLines content := rfl
  -- What is said about the whole document has one severity, and only the lines have to be sorted.
  rw [check_of_not_isBlank h, findings_eq, trimmed, Report.ofFindings]
  generalize sizeFindings content.dropByteOrderMark ++
    encodingFindings content.dropByteOrderMark = whole at *
  simp only [List.filter_append, Finding.filter_error_eq_nil warns,
    Finding.filter_warning_eq_self warns, Finding.filter_error_eq_self (fails _),
    Finding.filter_warning_eq_nil (fails _), filter_foundIn Line.filter_error_findings,
    filter_foundIn Line.filter_warning_findings, List.nil_append, List.append_nil, lineErrors,
    lineWarnings, trimmed]

/-- A finding is about the whole document, or it was made in the line that has its number. -/
theorem line_of_mem_check (h : f ∈ (check content).findings) :
    f.line = 0 ∨ ∃ (k : Nat) (line : Text), f.line = k + 1 ∧
      content.dropByteOrderMark.lines[k]? = some line ∧
      f ∈ (Line.ofText line).findings (decide (OpenAt (trimmedLines content) k)) (k + 1) := by
  by_cases blank : content.dropByteOrderMark.isBlank = true
  · rw [check_of_isBlank blank] at h
    obtain rfl := List.mem_singleton.1 h
    exact .inl rfl
  · rw [check_of_not_isBlank (eq_false_of_ne_true blank), Report.mem_findings_ofFindings_iff,
      findings_eq] at h
    rcases List.mem_append.1 h with h | h
    · rcases List.mem_append.1 h with h | h
      · exact .inl (mem_wholeFindings h).1
      · obtain ⟨k, line, hline, hf⟩ := mem_foundIn_iff.1 h
        exact .inr ⟨k, line, Line.line_eq_of_mem_findings hf, hline, hf⟩
    · exact .inl (mem_groupFindings h).1

/-- The report on a document that is not blank, told by its lines alone. The warnings are those
about its size and its encoding and then those of its lines; the errors are those of its lines and
then the one about a document without a user agent. -/
theorem check_eq_by_lines {content : Text} (h : content.dropByteOrderMark.isBlank = false) :
    (check content).warnings =
        (if 512000 < (content.dropByteOrderMark.map CodePoint.utf8Length).sum then
          [.warning 0
            "File exceeds 500 KiB - crawlers may stop parsing beyond this limit (RFC 9309)"]
        else [])
        ++ (if ∃ c ∈ content, c.isSurrogate = true then
          [.warning 0 "File should be UTF-8 encoded (RFC 9309)"]
        else [])
        ++ lineWarnings (trimmedLines content) ∧
      (check content).errors =
        lineErrors (trimmedLines content)
        ++ (if ∃ line ∈ trimmedLines content, Line.Names .userAgent line then []
        else [.error 0 "File must contain at least one user-agent directive (RFC 9309)"]) := by
  have size : sizeFindings content.dropByteOrderMark =
      if 512000 < (content.dropByteOrderMark.map CodePoint.utf8Length).sum then
        [.warning 0
          "File exceeds 500 KiB - crawlers may stop parsing beyond this limit (RFC 9309)"]
      else [] := by
    rw [sizeFindings, Text.length_utf8]
    rfl
  have encoding : encodingFindings content.dropByteOrderMark =
      if ∃ c ∈ content, c.isSurrogate = true then
        [.warning 0 "File should be UTF-8 encoded (RFC 9309)"]
      else [] := by
    rw [encodingFindings, Text.utf8?, Text.any_isSurrogate_dropByteOrderMark]
    by_cases surrogate : content.any CodePoint.isSurrogate = true
    · rw [if_pos surrogate, if_pos (List.any_eq_true.1 surrogate)]
      rfl
    · rw [if_neg surrogate, if_neg (mt List.any_eq_true.2 surrogate)]
      rfl
  rw [check_eq h, size, encoding, groupFindings]
  simp only [decide_eq_true_eq, and_self]

/-- Rules before and behind the only user agent, which has no value. -/
theorem check_eq_by_lines_orphan :
    let content : Text := "Disallow: /\nUser-Agent:\nallow: a"
    content.dropByteOrderMark.isBlank = false ∧
      (check content).warnings =
        [.warning 3 "Path should start with / for proper matching (RFC 9309)"] ∧
      (check content).errors = [
        .error 1 "'disallow' must follow a user-agent directive (RFC 9309 Section 2.2.1)",
        .error 2 "user-agent value cannot be empty"] := by
  intro content
  have h : content.dropByteOrderMark.isBlank = false := by decide
  obtain ⟨warnings, errors⟩ := check_eq_by_lines h
  exact ⟨h, warnings.trans (by decide +kernel), errors.trans (by decide +kernel)⟩

end RobotsExclusion.Document
