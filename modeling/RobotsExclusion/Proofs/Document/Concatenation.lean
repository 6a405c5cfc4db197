import RobotsExclusion.Proofs.Document.Scan
import RobotsExclusion.Proofs.Text.Lines

/-!
# Documents behind documents

What is found in the lines of two documents, one behind the other, is what is found in each of
them, and only one bit of the first one counts for the second: whether one of its lines names a
user agent. If none does, the second document is read as if it were alone. If one does, it is read
as if it stood behind a single line that names any user agent. How many lines do so, with which
values, and whether the first document is valid, is all the same.

## Main definitions

* `Document.HasAgent` — a line of the document names a user agent
* `Document.lineReport` — what is wrong with the lines, without any state

## Main results

* `Document.lineReport_append` — the report on lines behind others
* `Document.numbered_check` — what is said about single lines, whether or not the document is blank
* `Document.numbered_check_append` — the report on two documents, one behind the other
-/

namespace RobotsExclusion.Document

variable {lines more : List Text} {line content a b : Text} {f : Finding} {most : Nat}
  {look : Bool → Text → Int → List Finding}

/-- Some line of the document names a user agent, whether or not it has a value. -/
def HasAgent (content : Text) : Prop := ∃ line ∈ trimmedLines content, Line.Names .userAgent line

instance (content : Text) : Decidable (HasAgent content) :=
  inferInstanceAs (Decidable (∃ line ∈ _, _))

theorem openAt_length_iff (content : Text) :
    OpenAt (trimmedLines content) (trimmedLines content).length ↔ HasAgent content := by
  rw [OpenAt, List.take_length, HasAgent]

/-! ### Lines behind lines -/

/-- The report on trimmed lines, each looked at by itself. -/
def lineReport (lines : List Text) : Report := ⟨lineErrors lines, lineWarnings lines⟩

/-- What is found further down is found further down in the same lines. -/
theorem inLines_add_eq (h : ∀ opened t, Finds most (look opened t)) (count : Nat)
    (lines : List Text) :
    inLines (fun opened t number => look opened t (count + number)) lines =
      (inLines look lines).map (Finding.below count) := by
  rw [inLines, inLines, List.map_flatMap]
  refine List.flatMap_congr fun entry _ => ?_
  exact (h _ _).add_eq count _

/-- Lines behind others of which none names a user agent are looked at as if they were alone. -/
theorem inLines_append_of_closed (h : ∀ opened t, Finds most (look opened t))
    (closed : ¬ OpenAt lines lines.length) (more : List Text) :
    inLines look (lines ++ more) =
      inLines look lines ++ (inLines look more).map (Finding.below lines.length) := by
  rw [inLines_append, decide_eq_false closed]
  simp only [Bool.false_or]
  rw [inLines_add_eq h]

/-- Lines behind others of which one names a user agent are looked at as if each of them stood
behind one. -/
theorem inLines_append_of_opened (h : ∀ opened t, Finds most (look opened t))
    (opened : OpenAt lines lines.length) (more : List Text) :
    inLines look (lines ++ more) =
      inLines look lines ++
        (inLines (fun _ => look true) more).map (Finding.below lines.length) := by
  rw [inLines_append, decide_eq_true opened]
  simp only [Bool.true_or]
  rw [inLines_add_eq fun _ => h true]

/-- The line that names any user agent. -/
def wildcard : Text := "User-agent: *"

/-- Lines behind others of which one names a user agent are looked at as if they stood behind the
line that names any user agent. -/
theorem inLines_append_of_wildcard (h : ∀ opened t, Finds most (look opened t))
    (silent : inLines look [wildcard] = []) (opened : OpenAt lines lines.length)
    (more : List Text) :
    inLines look (lines ++ more) = inLines look lines ++
      (inLines look (wildcard :: more)).map (Finding.below (lines.length - 1)) := by
  have positive : 0 < lines.length := by
    obtain ⟨line, hline, -⟩ := opened
    exact List.length_pos_of_mem (List.mem_of_mem_take hline)
  have behind := inLines_append_of_opened h (by decide : OpenAt [wildcard] 1) more
  -- The line in front moves all others down by one, which has to be taken back.
  have moved : Finding.below (lines.length - 1) ∘ Finding.below 1 = Finding.below lines.length := by
    funext f
    rw [Function.comp_apply, Finding.below_below, Nat.add_sub_cancel' positive]
  rw [inLines_append_of_opened h opened, ← List.singleton_append, behind, silent, List.nil_append,
    List.map_map, List.length_singleton, moved]

/-- The report on lines behind others depends on these only in whether one of them names a user
agent. -/
theorem lineReport_append (lines more : List Text) :
    lineReport (lines ++ more) = lineReport lines ++
      if OpenAt lines lines.length then (lineReport (wildcard :: more)).below (lines.length - 1)
      else (lineReport more).below lines.length := by
  by_cases opened : OpenAt lines lines.length
  -- Nothing is found in the line that names any user agent, so only what is behind it is left.
  · rw [if_pos opened]
    have errors := inLines_append_of_wildcard Line.finds_errors (by decide +kernel) opened more
    have warnings := inLines_append_of_wildcard Line.finds_warnings (by decide +kernel) opened more
    exact congrArg₂ Report.mk errors warnings
  · rw [if_neg opened]
    have errors := inLines_append_of_closed Line.finds_errors opened more
    have warnings := inLines_append_of_closed Line.finds_warnings opened more
    exact congrArg₂ Report.mk errors warnings

/-! ### Documents behind documents -/

theorem dropByteOrderMark_of_head? (h : b.head? ≠ some CodePoint.byteOrderMark) :
    b.dropByteOrderMark = b := by
  cases b with
  | nil => rfl
  | cons c rest => exact if_neg fun mark => h (congrArg some mark)

/-- Only a byte-order mark at the start of the first document does not count. -/
theorem trimmedLines_append (a b : Text) :
    trimmedLines (a ++ CodePoint.ofChar '\n' :: b) = trimmedLines a ++ b.lines.map Text.trim := by
  have marked : (a ++ CodePoint.ofChar '\n' :: b).dropByteOrderMark =
      a.dropByteOrderMark ++ CodePoint.ofChar '\n' :: b := by
    cases a with
    | nil => rfl
    | cons c a =>
      rw [List.cons_append, Text.dropByteOrderMark, Text.dropByteOrderMark]
      split
      · rfl
      · rfl
  rw [trimmedLines, marked, Text.lines_append, List.map_append, trimmedLines]

/-- There is one line more than there are line feeds. -/
theorem length_trimmedLines (content : Text) :
    (trimmedLines content).length = content.count (CodePoint.ofChar '\n') + 1 := by
  rw [trimmedLines, List.length_map, Text.lines_dropByteOrderMark, List.length_modifyHead,
    Text.length_lines]

/-- What is found in lines is tied to the numbers from `1` on. -/
theorem filter_inLines (h : ∀ opened t, Finds most (look opened t)) (lines : List Text) :
    (inLines look lines).filter (1 ≤ ·.line) = inLines look lines := by
  refine List.filter_eq_self.2 fun f hf => decide_eq_true ?_
  obtain ⟨k, line, -, hfound⟩ := mem_inLines_iff.1 hf
  have := (h _ _).line_eq_of_mem hfound
  omega

/-- Nothing is found in a document of blanks. -/
theorem inLines_eq_nil_of_isBlank (h : ∀ opened number, look opened [] number = [])
    (blank : content.dropByteOrderMark.isBlank = true) :
    inLines look (trimmedLines content) = [] := by
  refine List.eq_nil_iff_forall_not_mem.2 fun f hf => ?_
  obtain ⟨k, line, hk, hfound⟩ := mem_inLines_iff.1 hf
  obtain ⟨untrimmed, hline, rfl⟩ := List.mem_map.1 (List.mem_of_getElem? hk)
  rw [Text.trim_eq_nil_iff.2 (Text.isBlank_iff_lines.1 blank untrimmed hline), h] at hfound
  cases hfound

/-- What is said about single lines is what is wrong with the lines, whether or not the document is
blank. -/
theorem numbered_check (content : Text) :
    (check content).numbered = lineReport (trimmedLines content) := by
  by_cases blank : content.dropByteOrderMark.isBlank = true
  · have noErrors : lineErrors (trimmedLines content) = [] :=
      inLines_eq_nil_of_isBlank (fun _ _ => rfl) blank
    have noWarnings : lineWarnings (trimmedLines content) = [] :=
      inLines_eq_nil_of_isBlank (fun _ _ => rfl) blank
    rw [check_of_isBlank blank, lineReport, noErrors, noWarnings]
    rfl
  -- What is said about the whole document has the number zero, and is left out.
  · have unnumbered {fs : List Finding} (h : ∀ f ∈ fs, f.line = 0) :
        fs.filter (1 ≤ ·.line) = [] := by
      refine List.filter_eq_nil_iff.2 fun f hf => ?_
      rw [h f hf]
      decide
    have errors : (lineErrors (trimmedLines content)).filter (1 ≤ ·.line) =
        lineErrors (trimmedLines content) := filter_inLines Line.finds_errors _
    have warnings : (lineWarnings (trimmedLines content)).filter (1 ≤ ·.line) =
        lineWarnings (trimmedLines content) := filter_inLines Line.finds_warnings _
    rw [check_eq (eq_false_of_ne_true blank), Report.numbered, List.filter_append, errors,
      unnumbered fun f hf => (mem_groupFindings hf).1, List.append_nil, List.filter_append,
      warnings, unnumbered fun f hf => (mem_wholeFindings hf).1, List.nil_append, lineReport]

/-- The report on two documents, one behind the other, as far as single lines are concerned. What is
found in the first one is found there as if it were alone. If one of its lines names a user agent,
what is found in the second one is what is found there behind the line that names any user agent;
otherwise it is what is found there if it is alone. Either of them may be blank. -/
theorem numbered_check_append (a b : Text) :
    let n := a.count (CodePoint.ofChar '\n') + 1
    (HasAgent a → (check (a ++ "\n" ++ b)).numbered =
      (check a).numbered ++ (check ("User-agent: *\n" ++ b)).numbered.below (n - 1)) ∧
    (¬ HasAgent a → b.head? ≠ some CodePoint.byteOrderMark →
      (check (a ++ "\n" ++ b)).numbered = (check a).numbered ++ (check b).numbered.below n) := by
  intro n
  have between : a ++ "\n" ++ b = a ++ CodePoint.ofChar '\n' :: b := List.append_assoc _ _ _
  have length : (trimmedLines a).length = n := length_trimmedLines a
  have whole : (check (a ++ "\n" ++ b)).numbered =
      lineReport (trimmedLines a ++ b.lines.map Text.trim) := by
    rw [numbered_check, between, trimmedLines_append]
  refine ⟨fun agent => ?_, fun noAgent unmarked => ?_⟩
  · have first : ("User-agent: *\n" : Text) = wildcard ++ [CodePoint.ofChar '\n'] := by
      decide +kernel
    have behind : trimmedLines ("User-agent: *\n" ++ b) = wildcard :: b.lines.map Text.trim := by
      have alone : trimmedLines wildcard = [wildcard] := by decide +kernel
      rw [first, List.append_assoc, List.singleton_append, trimmedLines_append, alone,
        List.singleton_append]
    rw [whole, lineReport_append, if_pos ((openAt_length_iff a).2 agent), length, numbered_check,
      numbered_check, behind]
  · have alone : trimmedLines b = b.lines.map Text.trim := by
      rw [trimmedLines, dropByteOrderMark_of_head? unmarked]
    rw [whole, lineReport_append, if_neg (mt (openAt_length_iff a).1 noAgent), length,
      numbered_check, numbered_check, alone]

/-- A path, once behind a user agent without a value and once behind an empty line. -/
theorem numbered_check_append_path :
    let path : Text := "Allow: a"
    HasAgent "User-Agent:" ∧ ¬ HasAgent "" ∧ path.head? ≠ some CodePoint.byteOrderMark ∧
      (check ("User-Agent:" ++ "\n" ++ path)).numbered =
        ⟨[.error 1 "user-agent value cannot be empty"],
          [.warning 2 "Path should start with / for proper matching (RFC 9309)"]⟩ ∧
      (check ("" ++ "\n" ++ path)).numbered =
        ⟨[.error 2 "'allow' must follow a user-agent directive (RFC 9309 Section 2.2.1)"], []⟩ := by
  intro path
  have agent : HasAgent "User-Agent:" := by decide +kernel
  have noAgent : ¬ HasAgent "" := by decide +kernel
  have unmarked : path.head? ≠ some CodePoint.byteOrderMark := by decide
  have behind := (numbered_check_append "User-Agent:" path).1 agent
  have alone := (numbered_check_append "" path).2 noAgent unmarked
  exact ⟨agent, noAgent, unmarked, behind.trans (by decide +kernel),
    alone.trans (by decide +kernel)⟩

end RobotsExclusion.Document
