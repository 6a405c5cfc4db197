import RobotsExclusion.Proofs.CommandLine
import RobotsExclusion.Proofs.CommandLine.Output
import RobotsExclusion.Proofs.CommandLine.Reports

/-!
# Runs that check files

A run that asks for a check, has settings and finds all its files ends with the status 0 or 1, and
with 1 exactly if one of its reports fails. So neither the format nor the order of the files changes
the status, and it is the greatest that a file has on its own. The run breaks off instead where plain
text shows the names of several files and one of them cannot be written. Naming a file again changes
nothing at all, but the standard input that is named again is lost.

## Main definitions

* `Run.Checks` — a run that comes to check files
* `Run.IsStrict` — warnings count

## Main results

* `Run.Checks.outcome_eq` — it checks them
* `Run.ending_of_checks` — its status, and when it has none
* `Run.ending_of_checks_surrogate` — the heading of a file breaks a run off
* `Run.outcome_of_repetitions` — what names that are repeated change
* `Run.outcome_of_repeated_input` — naming the standard input again changes the status
-/

namespace RobotsExclusion

variable {files : Files} {name : Text} {names arguments : List Text}

/-- A name that a run can read: the standard input, or a file. -/
def Files.IsReadable (files : Files) (name : Text) : Prop :=
  name = standardInput ∨
    (∀ c ∈ name, c.toNat ≠ 0) ∧ ∃ contents, files.find? name = some (.file contents)

/-- Nothing else is read. -/
theorem Files.refusal?_eq_none_iff : files.refusal? name = none ↔ files.IsReadable name := by
  rw [refusal?, IsReadable]
  by_cases std : name = standardInput
  · simp [std]
  · by_cases null : (name.any fun c => c.toNat = 0) = true
    · have found : ∃ c ∈ name, c.toNat = 0 := by simpa using null
      rw [if_neg std, if_pos null]
      refine iff_of_false (Option.some_ne_none _) ?_
      rintro (h | ⟨plain, -⟩)
      · exact std h
      · obtain ⟨c, hc, zero⟩ := found
        exact plain c hc zero
    · have plain : ∀ c ∈ name, c.toNat ≠ 0 := by simpa using null
      rw [if_neg std, if_neg null]
      cases files.find? name with
      | none => simp [std]
      | some entry =>
        cases entry with
        | file contents => simpa [std] using plain
        | directory => simp [std]

/-! ### Reading the request -/

namespace Arguments

/-- Options and words that ask for the check of files. -/
structure AskFor (a : Arguments CheckOption) (request : CheckRequest) : Prop where
  noHelp : a.has .help = false
  format : a.value? .format = request.format?.map OutputFormat.name
  strict : a.has .strict = request.strict
  words : a.words = request.names

/-- Without options, all are words. -/
theorem read_words {α : Type} (switches : List (Switch α))
    (plain : ∀ word ∈ names, isOption word = false) :
    read switches true names = .ok ⟨[], names⟩ := by
  induction names with
  | nil => rfl
  | cons word names ih =>
    obtain ⟨hword, hnames⟩ := List.forall_mem_cons.1 plain
    have noEnd : word ≠ "--" := by
      rintro rfl
      cases hword
    rw [read, if_neg noEnd, if_neg (by simp [hword]), if_pos rfl, ih hnames]
    rfl

end Arguments

namespace CheckRequest

variable {request : CheckRequest} {a : Arguments CheckOption}

/-- Arguments of the program that ask for the check of files. -/
def IsAsked (request : CheckRequest) (verbose : Bool) (arguments : List Text) : Prop :=
  ∃ rest a, ProgramRequest.read arguments = .ok ⟨verbose, .check, rest⟩ ∧
    Arguments.read CheckOption.switches true rest = .ok a ∧ a.AskFor request

theorem isAsked_words (plain : ∀ name ∈ names, Arguments.isOption name = false) :
    IsAsked ⟨none, false, names⟩ false (Command.check.word :: names) :=
  ⟨names, ⟨[], names⟩, ProgramRequest.read_word_cons .check names,
    Arguments.read_words _ plain, ⟨rfl, rfl, rfl, rfl⟩⟩

theorem isAsked_format (format : OutputFormat)
    (plain : ∀ name ∈ names, Arguments.isOption name = false) :
    IsAsked ⟨some format, false, names⟩ false
      (Command.check.word :: "--format" :: format.name :: names) := by
  refine ⟨_, ⟨[(.format, format.name)], names⟩, ProgramRequest.read_word_cons .check _, ?_, rfl,
    rfl, rfl, rfl⟩
  have option : Arguments.readOption CheckOption.switches "--format" =
      .ok ⟨[], some (.format, "--format")⟩ := rfl
  rw [Arguments.read, if_neg (by decide), if_pos (by decide), option]
  dsimp only [bind, Except.bind]
  rw [Arguments.read_words _ plain]
  rfl

theorem readFormat_name (format? : Option OutputFormat) :
    readFormat (format?.map OutputFormat.name) = .ok format? := by
  cases format? with
  | none => rfl
  | some format => cases format <;> rfl

/-- A request is read if it names something, all of which can be read. -/
theorem ofArguments_eq_ok (ha : a.AskFor request) (named : request.names ≠ [])
    (readable : ∀ name ∈ request.names, files.IsReadable name) :
    ofArguments files a = .ok request := by
  have unrefused : request.names.findSome? files.refusal? = none :=
    List.findSome?_eq_none_iff.2 fun name hname => Files.refusal?_eq_none_iff.2 (readable name hname)
  have nonempty : ¬ request.names.isEmpty = true := mt List.isEmpty_iff.1 named
  rw [ofArguments, ha.format, readFormat_name, ha.words, ha.strict]
  dsimp only [bind, Except.bind]
  rw [unrefused]
  exact if_neg nonempty

end CheckRequest

/-! ### Runs -/

namespace Run

variable {r : Run} {s : Settings} {request : CheckRequest}

/-- The report on what a name stands for. -/
def report (r : Run) (name : Text) : Report :=
  Document.checkBytes (CheckRequest.bytes r.files r.input name)

/-- The status after the check of some files. -/
def status (r : Run) (strict : Bool) (names : List Text) : Nat :=
  if Reports.fails strict (names.map fun name => (name, r.report name)) then 1 else 0

theorem status_eq_zero_or_one (r : Run) (strict : Bool) (names : List Text) :
    r.status strict names = 0 ∨ r.status strict names = 1 := by
  rw [status]
  split
  · exact .inr rfl
  · exact .inl rfl

theorem status_eq_one_iff {strict : Bool} :
    r.status strict names = 1 ↔ ∃ name ∈ names, (r.report name).errors ≠ [] ∨
      strict = true ∧ (r.report name).warnings ≠ [] := by
  rw [status, ← Reports.fails_map_iff]
  split <;> simp [*]

/-- The order of the files does not matter. -/
theorem status_congr {r' : Run} {names' : List Text} {strict : Bool} (perm : names'.Perm names)
    (same : ∀ name ∈ names, r'.report name = r.report name) :
    r'.status strict names' = r.status strict names := by
  have reports : names'.map (fun name => (name, r'.report name)) =
      names'.map fun name => (name, r.report name) :=
    List.map_congr_left fun name hname => by rw [same name (perm.mem_iff.1 hname)]
  rw [status, reports, Reports.fails_perm strict (perm.map _), status]

/-- The status is the greatest that one of the files has alone. -/
theorem status_eq_foldr_max (r : Run) (strict : Bool) (names : List Text) :
    r.status strict names = (names.map fun name => r.status strict [name]).foldr max 0 := by
  induction names with
  | nil => rfl
  | cons name names ih =>
    rw [List.map_cons, List.foldr_cons, ← ih, status, List.map_cons, Reports.fails_cons, status,
      status, List.map_singleton]
    cases Reports.fails strict [(name, r.report name)] <;>
      cases Reports.fails strict (names.map fun name => (name, r.report name)) <;> rfl

/-- Reports on what names stand for come from documents. -/
theorem areOnDocuments_map (r : Run) (names : List Text) :
    Reports.AreOnDocuments (names.map fun name => (name, r.report name)) :=
  List.forall_mem_map.2 fun _ _ => ⟨_, rfl⟩

theorem map_fst_map (r : Run) (names : List Text) :
    (names.map fun name => (name, r.report name)).map (·.1) = names := by
  rw [List.map_map]
  exact List.map_id names

section Implementation

variable [Yaml.Implementation]

/-- Warnings count if an option, the environment or the file with settings says so. -/
def IsStrict (r : Run) (request : CheckRequest) : Prop :=
  request.strict = true ∨ Settings.DemandsStrictness r.environment r.files

/-- A run that comes to check files: it is asked to, it has settings, and there are files, which can
all be read. -/
structure Checks (r : Run) (s : Settings) (request : CheckRequest) : Prop where
  settled : ∃ verbose s₀, request.IsAsked verbose r.arguments ∧
    Settings.load r.environment r.files = .ok s₀ ∧ s = { s₀ with verbose := verbose || s₀.verbose }
  named : request.names ≠ []
  readable : ∀ name ∈ request.names, r.files.IsReadable name

namespace Checks

theorem outcome_eq (h : r.Checks s request) : r.outcome = request.run r s := by
  obtain ⟨⟨verbose, s₀, ⟨rest, a, hprogram, harguments, ha⟩, hload, rfl⟩, named, readable⟩ := h
  have read : CheckRequest.read r.files rest = .ok request := by
    rw [CheckRequest.read, harguments]
    refine Eq.trans ?_ (CheckRequest.ofArguments_eq_ok ha named readable)
    exact if_neg (by simp [ha.noHelp])
  rw [outcome_of_load hprogram hload, ProgramRequest.outcome, ProgramRequest.run, read]
  rfl

theorem strict_iff (h : r.Checks s request) :
    (request.strict || s.strict) = true ↔ r.IsStrict request := by
  obtain ⟨⟨verbose, s₀, -, hload, rfl⟩, -, -⟩ := h
  rw [Bool.or_eq_true, IsStrict, ← Settings.strict_of_load_iff hload]

/-- Of distinct files, each has the report that it has alone. -/
theorem exists_outcome_eq (h : r.Checks s request) (distinct : request.names.Nodup) :
    ∃ messages, r.outcome = .writing
      (Reports.output (request.names.map fun name => (name, r.report name))
        (request.format?.getD s.format))
      messages (.status (r.status (request.strict || s.strict) request.names)) := by
  rw [h.outcome_eq, CheckRequest.run, CheckRequest.ofDocuments_documents_of_nodup _ _ distinct]
  exact ⟨_, rfl⟩

/-- A check that can show its names ends with a status. -/
theorem ending_eq (h : r.Checks s request) (distinct : request.names.Nodup)
    (shown : (request.format?.getD s.format).CanShow request.names) :
    r.outcome.ending = .status (r.status (request.strict || s.strict) request.names) := by
  obtain ⟨messages, outcome⟩ := h.exists_outcome_eq distinct
  rw [← r.map_fst_map request.names] at shown
  have written := Reports.isEncodable_of_mem_output (r.areOnDocuments_map request.names) shown
  rw [outcome, Outcome.writing_of_isEncodable written]

/-- One that cannot breaks off at the heading of the first name that has surrogates. -/
theorem exists_ending_eq (h : r.Checks s request) (distinct : request.names.Nodup)
    (unshown : ¬ (request.format?.getD s.format).CanShow request.names) :
    ∃ before name after u, request.names = before ++ name :: after ∧
      (∀ n ∈ before, n.IsEncodable) ∧ Utf8.unencodable? (Reports.heading name) = some u ∧
      r.outcome.ending = .failure (.unencodable u) := by
  obtain ⟨messages, outcome⟩ := h.exists_outcome_eq distinct
  rw [← r.map_fst_map request.names] at unshown
  have refused := Reports.exists_ending_of_not_canShow (r.areOnDocuments_map request.names) unshown
    messages (.status (r.status (request.strict || s.strict) request.names))
  rwa [← outcome, r.map_fst_map request.names] at refused

end Checks

/-! ### Runs in a directory -/

/-- Where `Run.within` has its settings. -/
def settingsPlace : Path := (Path.ofText "xdg").join [Settings.directoryName]

theorem checks_within {entries : List (List Text × Entry)}
    (unset : (FileTree.mk entries).files.read? (Settings.file settingsPlace).toText = none)
    (asked : request.IsAsked false arguments) (named : request.names ≠ [])
    (readable : ∀ name ∈ request.names, (FileTree.mk entries).files.IsReadable name)
    (input : Bytes) :
    (within entries arguments input).Checks (Settings.default settingsPlace) request :=
  ⟨⟨false, Settings.default settingsPlace, asked, Settings.load_of_unset rfl unset rfl rfl rfl, rfl⟩,
    named, readable⟩

/-- A file with a group of rules. -/
def groupFile : List (List Text × Entry) := [(["a"], .file (Text.utf8 "User-agent: *\n"))]

theorem checks_groupFile (asked : request.IsAsked false arguments) (named : request.names ≠ [])
    (known : ∀ name ∈ request.names, name = "a" ∨ name = standardInput) (input : Bytes) :
    (within groupFile arguments input).Checks (Settings.default settingsPlace) request := by
  refine checks_within (by decide +kernel) asked named (fun name hname => ?_) input
  rcases known name hname with rfl | rfl
  · exact .inr ⟨by decide, _, rfl⟩
  · exact .inl rfl

theorem checks_groupFile_words (known : ∀ name ∈ names, name = "a" ∨ name = standardInput)
    (named : names ≠ []) (input : Bytes) :
    (within groupFile (Command.check.word :: names) input).Checks (Settings.default settingsPlace)
      ⟨none, false, names⟩ := by
  have plain : ∀ name ∈ names, Arguments.isOption name = false := by
    intro name hname
    rcases known name hname with rfl | rfl <;> rfl
  exact checks_groupFile (CheckRequest.isAsked_words plain) named known input

end Implementation

/-! ### The status -/

/-- A run that checks distinct files ends with a status if it can show their names. Otherwise it
breaks off at the heading of the first one that has surrogates. The status is 1 if there is an error
on one of the files, or a warning where warnings count, and 0 otherwise. Another run has the same
status if it checks the same files in any order and format, can show their names and is as strict;
and the status is the greatest that one of the files has alone. -/
theorem ending_of_checks [Yaml.Implementation] (h : r.Checks s request)
    (distinct : request.names.Nodup) :
    ∃ status, (status = 0 ∨ status = 1) ∧
      (status = 1 ↔ ∃ name ∈ request.names, (r.report name).errors ≠ [] ∨
        r.IsStrict request ∧ (r.report name).warnings ≠ []) ∧
      ((request.format?.getD s.format).CanShow request.names → r.outcome.ending = .status status) ∧
      (¬ (request.format?.getD s.format).CanShow request.names →
        ∃ before name after u, request.names = before ++ name :: after ∧
          (∀ n ∈ before, n.IsEncodable) ∧ Utf8.unencodable? (Reports.heading name) = some u ∧
          r.outcome.ending = .failure (.unencodable u)) ∧
      (∀ (r' : Run) (s' : Settings) (request' : CheckRequest), r'.Checks s' request' →
        request'.names.Perm request.names →
        (∀ name ∈ request.names, r'.report name = r.report name) →
        (r'.IsStrict request' ↔ r.IsStrict request) →
        (request'.format?.getD s'.format).CanShow request'.names →
        r'.outcome.ending = .status status) ∧
      ∀ alone : Text → List Text,
        (∀ name ∈ request.names,
          ∃ s', Checks { r with arguments := alone name } s' { request with names := [name] }) →
        ∃ statuses : Text → Nat,
          (∀ name ∈ request.names,
            (outcome { r with arguments := alone name }).ending = .status (statuses name)) ∧
          status = (request.names.map statuses).foldr max 0 := by
  refine ⟨r.status (request.strict || s.strict) request.names, status_eq_zero_or_one .., ?_,
    h.ending_eq distinct, h.exists_ending_eq distinct, ?_, ?_⟩
  · rw [status_eq_one_iff, h.strict_iff]
  · intro r' s' request' h' perm same strict shown
    -- Strictness may come from elsewhere in the other run, but it is all that counts of its settings.
    have agree : (request'.strict || s'.strict) = (request.strict || s.strict) := by
      rw [Bool.eq_iff_iff, h'.strict_iff, strict, h.strict_iff]
    rw [h'.ending_eq (perm.nodup_iff.2 distinct) shown, agree, status_congr perm same]
  · intro alone checks
    refine ⟨fun name => r.status (request.strict || s.strict) [name], fun name hname => ?_,
      status_eq_foldr_max ..⟩
    obtain ⟨s', h'⟩ := checks name hname
    have agree : (request.strict || s'.strict) = (request.strict || s.strict) := by
      rw [Bool.eq_iff_iff, h.strict_iff]
      exact h'.strict_iff
    -- A name that stands alone is not shown.
    rw [h'.ending_eq (List.nodup_singleton name) (OutputFormat.canShow_singleton _ name), agree]
    rfl

/-- There are rules in the file and none in the standard input, whichever comes first, in tables and
in plain text. -/
theorem ending_of_checks_empty_input :
    let r := within groupFile [Command.check.word, "a", standardInput] []
    let r' := within groupFile
      [Command.check.word, "--format", OutputFormat.text.name, standardInput, "a"] []
    r.Checks (Settings.default settingsPlace) ⟨none, false, ["a", standardInput]⟩ ∧
      r.outcome.ending = .status 1 ∧ r'.outcome.ending = .status 1 := by
  intro r r'
  have h : r.Checks _ ⟨none, false, ["a", standardInput]⟩ :=
    checks_groupFile_words (by decide) (by decide) []
  have h' : r'.Checks _ ⟨some .text, false, [standardInput, "a"]⟩ :=
    checks_groupFile (CheckRequest.isAsked_format .text (by decide)) (List.cons_ne_nil _ _)
      (by decide) []
  obtain ⟨status, -, fails, ending, -, same, -⟩ := ending_of_checks h (by decide)
  have error : (r.report standardInput).errors ≠ [] := by decide +kernel
  obtain rfl := fails.2 ⟨standardInput, by decide, .inl error⟩
  have shown : OutputFormat.text.CanShow [standardInput, "a"] := fun _ _ => by decide
  exact ⟨h, ending nofun, same r' _ _ h' (.swap ..) (fun _ _ => rfl) Iff.rfl shown⟩

/-- Two files on which there is nothing to say, and one has a byte in its name that cannot be read.
Its heading breaks the run off before anything is written. -/
theorem ending_of_checks_surrogate :
    let name := Utf8.decodeLossy [0xFF]
    let names := [name, "a"]
    let contents : Bytes := Text.utf8 "User-agent: *\n"
    let r := within [([name], .file contents), (["a"], .file contents)]
      (Command.check.word :: "--format" :: OutputFormat.text.name :: names) []
    r.Checks (Settings.default settingsPlace) ⟨some .text, false, names⟩ ∧ names.Nodup ∧
      (∀ n ∈ names, (r.report n).findings = []) ∧
      r.outcome = .broken (.unencodable ⟨Utf8.escapeByte 0xFF, 4, 1⟩) := by
  intro name names contents r
  have asked : CheckRequest.IsAsked ⟨some .text, false, names⟩ false _ :=
    CheckRequest.isAsked_format .text (by decide +kernel)
  have readable : ∀ n ∈ names, r.files.IsReadable n := by
    intro n hn
    rcases List.mem_pair.1 hn with rfl | rfl
    · exact .inr ⟨by decide +kernel, contents, by decide +kernel⟩
    · exact .inr ⟨by decide +kernel, contents, by decide +kernel⟩
  have h : r.Checks (Settings.default settingsPlace) ⟨some .text, false, names⟩ :=
    checks_within (by decide +kernel) asked (List.cons_ne_nil _ _) readable []
  exact ⟨h, by decide +kernel, by decide +kernel, by decide +kernel⟩

/-! ### Repetitions -/

/-- A run that names files repeatedly reports each of them once. Without the repetitions, it has the
same outcome if the standard input is not repeated. If it is, it is reported as an empty one. -/
theorem outcome_of_repetitions [Yaml.Implementation] (h : r.Checks s request)
    (quiet : s.verbose = false) :
    r.outcome = Reports.publish
      (request.names.eraseDups.map fun name => (name, Document.checkBytes
        (CheckRequest.bytes r.files (CheckRequest.lastInput r.input request.names) name)))
      (request.format?.getD s.format) (request.strict || s.strict) ∧
    ∀ arguments : List Text,
      Checks { r with arguments } s { request with names := request.names.eraseDups } →
      (request.names.count standardInput ≤ 1 → r.outcome = outcome { r with arguments }) ∧
      (1 < request.names.count standardInput →
        r.outcome = outcome { r with arguments, input := [] }) := by
  have once := h.outcome_eq.trans (CheckRequest.run_of_quiet quiet r request)
  refine ⟨?_, fun arguments h' => ?_⟩
  · rw [once, CheckRequest.ofDocuments_documents]
  · -- With the standard input as its last name finds it, the repetitions can be left out.
    rw [← CheckRequest.ofDocuments_documents_eraseDups, CheckRequest.lastInput] at once
    constructor
    · intro single
      rw [if_pos single] at once
      rw [once, h'.outcome_eq, CheckRequest.run_of_quiet quiet]
    · intro repeated
      have empty : Checks { r with arguments, input := [] } s
          { request with names := request.names.eraseDups } := ⟨h'.settled, h'.named, h'.readable⟩
      rw [if_neg (Nat.not_le.2 repeated)] at once
      rw [once, empty.outcome_eq, CheckRequest.run_of_quiet quiet]

/-- A file that is named again behind the standard input. -/
theorem outcome_of_repetitions_file :
    let input := Text.utf8 "Allow: /\n"
    let r := within groupFile [Command.check.word, "a", standardInput, "a"] input
    r.Checks (Settings.default settingsPlace) ⟨none, false, ["a", standardInput, "a"]⟩ ∧
      (Settings.default settingsPlace).verbose = false ∧
      r.outcome = outcome (within groupFile [Command.check.word, "a", standardInput] input) := by
  intro input r
  have h : r.Checks _ ⟨none, false, ["a", standardInput, "a"]⟩ :=
    checks_groupFile_words (by decide) (by decide) input
  have h' : (within groupFile [Command.check.word, "a", standardInput] input).Checks _
      ⟨none, false, ["a", standardInput]⟩ := checks_groupFile_words (by decide) (by decide) input
  obtain ⟨-, once⟩ := outcome_of_repetitions h rfl
  exact ⟨h, rfl, (once _ h').1 (by decide)⟩

/-- The standard input that is named again is reported as an empty one, and the status changes. -/
theorem outcome_of_repeated_input :
    let input := Text.utf8 "User-agent: *\n"
    let r := within groupFile [Command.check.word, standardInput, standardInput] input
    let r' := within groupFile [Command.check.word, standardInput] input
    r.Checks (Settings.default settingsPlace) ⟨none, false, [standardInput, standardInput]⟩ ∧
      r'.Checks (Settings.default settingsPlace) ⟨none, false, [standardInput]⟩ ∧
      (Settings.default settingsPlace).verbose = false ∧
      r.outcome.ending = .status 1 ∧ r'.outcome.ending = .status 0 := by
  intro input r r'
  refine ⟨checks_groupFile_words (by decide) (by decide) input,
    checks_groupFile_words (by decide) (by decide) input, rfl, ?_, ?_⟩
  · decide +kernel
  · decide +kernel

end Run

end RobotsExclusion
