import RobotsExclusion.CommandLine.Check
import Mathlib.Data.List.Induction
import Mathlib.Data.List.Nodup

/-!
# Reports under names

Each name is reported once: it keeps its first place, and the report is the one on its last
document. A file gives the same document whenever it is named. The standard input gives its document
only once, so that it is reported as if it were empty as soon as it is named again.

## Main definitions

* `Reports.lastDocument` — the last document under a name
* `CheckRequest.bytes` — the bytes that a name stands for
* `CheckRequest.lastInput` — what the last name of the standard input stands for
* `Reports.publish` — what is written of reports

## Main results

* `Reports.ofDocuments_eq` — the reports on documents, name by name
* `Reports.fails_map_iff` — when reports make a check fail
* `CheckRequest.ofDocuments_documents` — the reports on what names stand for
* `CheckRequest.ofDocuments_documents_eraseDups` — what naming something again changes
-/

namespace RobotsExclusion

/-! ### Names without repetitions -/

section Repetitions

variable {α : Type} [BEq α] [LawfulBEq α] {l : List α}

/-- A list grows by what is new alone. -/
theorem eraseDups_concat (l : List α) (a : α) :
    (l ++ [a]).eraseDups = if a ∈ l then l.eraseDups else l.eraseDups ++ [a] := by
  rw [List.eraseDups_append, List.removeAll]
  by_cases h : a ∈ l
  · simp [h]
  · simp [h, List.eraseDups_cons]

theorem nodup_eraseDups (l : List α) : l.eraseDups.Nodup := by
  induction l using List.reverseRecOn with
  | nil => exact List.nodup_nil
  | append_singleton l a ih =>
    rw [eraseDups_concat]
    by_cases h : a ∈ l
    · rwa [if_pos h]
    · rw [if_neg h]
      rw [← List.concat_eq_append]
      exact ih.concat fun known => h (List.mem_eraseDups.1 known)

theorem eraseDups_of_nodup (h : l.Nodup) : l.eraseDups = l := by
  induction l using List.reverseRecOn with
  | nil => rfl
  | append_singleton l a ih =>
    rw [← List.concat_eq_append, List.nodup_concat] at h
    rw [eraseDups_concat, if_neg h.1, ih h.2]

end Repetitions

/-! ### Reports under names -/

namespace Reports

variable {ds : List (Text × Text)} {names : List Text}

/-- A new report takes the place of the one that is there, or stands at the end. -/
theorem insert_map (names : List Text) (report : Text → Report) (name : Text) (r : Report) :
    insert (names.map fun n => (n, report n)) name r =
      (if name ∈ names then names else names ++ [name]).map fun n =>
        (n, if name = n then r else report n) := by
  have known : ((names.map fun n => (n, report n)).any fun entry => entry.1 = name) = true ↔
      name ∈ names := by simp
  rw [insert]
  by_cases h : name ∈ names
  · rw [if_pos (known.2 h), if_pos h, List.map_map]
    refine List.map_congr_left fun n _ => ?_
    by_cases same : name = n
    · simp [same]
    · simp [same, Ne.symm same]
  · rw [if_neg (mt known.1 h), if_neg h, List.map_append, List.map_singleton, if_pos rfl]
    refine congrArg (· ++ [(name, r)]) (List.map_congr_left fun n hn => ?_)
    have other : name ≠ n := fun same => h (same ▸ hn)
    rw [if_neg other]

/-- The last document under a name. -/
def lastDocument (ds : List (Text × Text)) (name : Text) : Text :=
  ((ds.reverse.find? fun d => d.1 = name).map (·.2)).getD []

theorem lastDocument_concat (ds : List (Text × Text)) (d : Text × Text) (name : Text) :
    lastDocument (ds ++ [d]) name = if d.1 = name then d.2 else lastDocument ds name := by
  rw [lastDocument, List.reverse_append, List.reverse_singleton, List.singleton_append,
    List.find?_cons]
  by_cases h : d.1 = name
  · simp [h]
  · simp [h, lastDocument]

theorem ofDocuments_concat (ds : List (Text × Text)) (d : Text × Text) :
    ofDocuments (ds ++ [d]) = (ofDocuments ds).insert d.1 (Document.check d.2) :=
  List.foldl_concat ..

/-- Each name is reported once, in its first place and with the report on its last document. -/
theorem ofDocuments_eq (ds : List (Text × Text)) :
    ofDocuments ds = (ds.map (·.1)).eraseDups.map fun name =>
      (name, Document.check (lastDocument ds name)) := by
  -- One document more puts its report in place of an earlier one of its name, or at the end.
  induction ds using List.reverseRecOn with
  | nil => rfl
  | append_singleton ds d ih =>
    rw [ofDocuments_concat, ih, insert_map, List.map_append, List.map_singleton, eraseDups_concat]
    simp only [List.mem_eraseDups, lastDocument_concat, apply_ite Document.check]

/-- A report fails with an error, or with a warning if warnings count. -/
theorem fails_map_iff {strict : Bool} {report : Text → Report} :
    fails strict (names.map fun name => (name, report name)) = true ↔
      ∃ name ∈ names, (report name).errors ≠ [] ∨ strict = true ∧ (report name).warnings ≠ [] := by
  simp [fails, Report.isValid]

/-- The order of the reports does not matter. -/
theorem fails_perm {rs rs' : Reports} (strict : Bool) (h : rs.Perm rs') :
    rs.fails strict = rs'.fails strict :=
  h.any_eq

theorem fails_cons (strict : Bool) (entry : Text × Report) (rs : Reports) :
    fails strict (entry :: rs) = (fails strict [entry] || fails strict rs) := by
  simp only [fails, List.any_cons, List.any_nil, Bool.or_false]

end Reports

/-! ### The documents that names stand for -/

namespace CheckRequest

variable {files : Files} {input : Bytes} {names : List Text} {name : Text}

theorem documents_append (files : Files) (input : Bytes) (names more : List Text) :
    documents files input (names ++ more) = documents files input names ++
      documents files (if standardInput ∈ names then [] else input) more := by
  induction names generalizing input with
  | nil => rfl
  | cons name names ih =>
    rw [List.cons_append, documents, documents]
    by_cases h : name = standardInput
    · simp [h, ih]
    · simp [h, Ne.symm h, ih]

theorem map_fst_documents (files : Files) (input : Bytes) (names : List Text) :
    (documents files input names).map (·.1) = names := by
  induction names generalizing input with
  | nil => rfl
  | cons name names ih =>
    rw [documents]
    by_cases h : name = standardInput
    · rw [if_pos h, List.map_cons, ih]
    · rw [if_neg h, List.map_cons, ih]

/-- The bytes that a name stands for. -/
def bytes (files : Files) (input : Bytes) (name : Text) : Bytes :=
  if name = standardInput then input else (files.read? name).getD []

/-- The standard input as it is found under the last of its names: it is gone if it is named
before. -/
def lastInput (input : Bytes) (names : List Text) : Bytes :=
  if names.count standardInput ≤ 1 then input else []

theorem documents_singleton (files : Files) (input : Bytes) (name : Text) :
    documents files input [name] = [(name, Utf8.readDocument (bytes files input name))] := by
  rw [documents, bytes]
  by_cases h : name = standardInput
  · rw [if_pos h, if_pos h, documents]
  · rw [if_neg h, if_neg h, documents]

/-- Files do not depend on the standard input. -/
theorem bytes_eq_of_ne (h : name ≠ standardInput) (input input' : Bytes) :
    bytes files input name = bytes files input' name := by
  rw [bytes, bytes, if_neg h, if_neg h]

theorem lastInput_concat_standardInput (input : Bytes) (names : List Text) :
    lastInput input (names ++ [standardInput]) = if standardInput ∈ names then [] else input := by
  rw [lastInput, List.count_append, List.count_singleton_self]
  by_cases h : standardInput ∈ names
  · have named := List.count_pos_iff.2 h
    rw [if_pos h, if_neg (by omega)]
  · have unnamed := List.count_eq_zero.2 h
    rw [if_neg h, if_pos (by omega)]

theorem lastInput_concat_of_ne (h : name ≠ standardInput) (input : Bytes) (names : List Text) :
    lastInput input (names ++ [name]) = lastInput input names := by
  rw [lastInput, lastInput, List.count_append, List.count_cons_of_ne h, List.count_nil,
    Nat.add_zero]

/-- The last document under a name is the one that the name stands for, but with the standard input
as it is found there. -/
theorem lastDocument_documents (h : name ∈ names) :
    Reports.lastDocument (documents files input names) name =
      Utf8.readDocument (bytes files (lastInput input names) name) := by
  induction names using List.reverseRecOn with
  | nil => cases h
  | append_singleton names last ih =>
    -- One name more decides over itself alone, and for another name it does not consume anything.
    rw [documents_append, documents_singleton, Reports.lastDocument_concat]
    by_cases same : last = name
    · obtain rfl := same
      rw [if_pos rfl]
      by_cases std : last = standardInput
      · rw [std, lastInput_concat_standardInput]
      · rw [bytes_eq_of_ne std]
    · have earlier : name ∈ names := by
        simpa [Ne.symm same] using h
      rw [if_neg same, ih earlier]
      by_cases std : name = standardInput
      · rw [lastInput_concat_of_ne (std ▸ same)]
      · rw [bytes_eq_of_ne std]

/-- The reports on what names stand for: each name once, with the report on its last document. -/
theorem ofDocuments_documents (files : Files) (input : Bytes) (names : List Text) :
    Reports.ofDocuments (documents files input names) = names.eraseDups.map fun name =>
      (name, Document.checkBytes (bytes files (lastInput input names) name)) := by
  rw [Reports.ofDocuments_eq, map_fst_documents]
  refine List.map_congr_left fun name hname => ?_
  rw [lastDocument_documents (List.mem_eraseDups.1 hname), Document.checkBytes]

/-- Without a name twice, nothing is lost. -/
theorem ofDocuments_documents_of_nodup (files : Files) (input : Bytes) (h : names.Nodup) :
    Reports.ofDocuments (documents files input names) = names.map fun name =>
      (name, Document.checkBytes (bytes files input name)) := by
  have once := List.nodup_iff_count_le_one.1 h standardInput
  rw [ofDocuments_documents, eraseDups_of_nodup h, lastInput, if_pos once]

/-- Naming a file again changes no report. -/
theorem ofDocuments_documents_eraseDups (files : Files) (input : Bytes) (names : List Text) :
    Reports.ofDocuments (documents files (lastInput input names) names.eraseDups) =
      Reports.ofDocuments (documents files input names) := by
  rw [ofDocuments_documents_of_nodup _ _ (nodup_eraseDups names), ofDocuments_documents]

end CheckRequest

/-! ### What is written -/

/-- What comes of these reports if nothing is logged. -/
def Reports.publish (rs : Reports) (format : OutputFormat) (strict : Bool) : Outcome :=
  .writing (rs.output format) (rs.messages format) (.status (if rs.fails strict then 1 else 0))

/-- A check that logs nothing shows nothing of the documents but the reports on them. -/
theorem CheckRequest.run_of_quiet {s : Settings} (quiet : s.verbose = false) (r : Run)
    (request : CheckRequest) :
    request.run r s = (Reports.ofDocuments (documents r.files r.input request.names)).publish
      (request.format?.getD s.format) (request.strict || s.strict) := by
  rw [run, quiet]
  rfl

end RobotsExclusion
