import RobotsExclusion.CommandLine
import RobotsExclusion.Proofs.Settings
import RobotsExclusion.Proofs.Text.ControlSequence

/-!
# Runs that reach a command

A run that asks for a command loads the settings first. With settings it goes on to the command.
Without, it tells why and ends with status 1 if the reason is a value, and breaks off without a word
otherwise. Only the file with the settings can be wrong in a way that breaks a run off; a value of
the environment is always told. All this holds of every implementation of YAML.

## Main definitions

* `Outcome.IsAnswer` — what comes of arguments that are only answered
* `ProgramRequest.outcome` — what comes of a command
* `Run.within` — a run in a directory, with nothing else around it

## Main results

* `ProgramRequest.isPastSettings_outcome` — a command does not break off over settings
* `Run.outcome_of_request` — what comes of a run that asks for a command
* `Run.outcome_of_missing_port` — a port without a value breaks a run off
-/

namespace RobotsExclusion

/-! ### Commands -/

namespace Outcome

/-- A run does not break off over its settings. -/
def IsPastSettings (o : Outcome) : Prop := ∀ e, o.ending ≠ .failure (.settings e)

/-- What a run tells that is without settings because a value is wrong. -/
def invalidSettings (message : Text) : Outcome :=
  ⟨[], "Error: Invalid configuration: "
    ++ (Text.dropControlSequences (message ++ "\n")).escapeSurrogates, .status 1, none⟩

theorem unsettled_of_isAboutValue {e : Settings.Error} (h : e.isAboutValue = true) :
    ∃ message, e.message? = some message ∧ unsettled e = invalidSettings message := by
  obtain ⟨message, hmessage⟩ := Settings.exists_message h
  refine ⟨message, hmessage, ?_⟩
  have plain : Text.escapeCharacter ∉ ("Error: Invalid configuration: " : Text) := by decide
  rw [unsettled, if_pos h, hmessage, Option.getD_some, stopped, invalidSettings, List.append_assoc,
    Text.dropControlSequences_append plain, writing, Text.escapeSurrogates, List.flatMap_append]
  rfl

theorem isPastSettings_of_status {o : Outcome} {code : Nat} (h : o.ending = .status code) :
    o.IsPastSettings := by
  intro e he
  cases h.symm.trans he

/-- What breaks a run off that writes is a text. -/
theorem isPastSettings_writing (texts : List Text) (messages : Text) (code : Nat) :
    (writing texts messages (.status code)).IsPastSettings := by
  intro e he
  unfold writing at he
  cases h : texts.findSome? Utf8.unencodable? with
  | none =>
    rw [h] at he
    cases he
  | some u =>
    rw [h] at he
    cases he

/-- What comes of a run whose arguments are only answered: it tells or refuses something, writes the
help for want of arguments, or breaks off over the name of a file. -/
inductive IsAnswer : Outcome → Prop
  | told (t : Text) : IsAnswer (told t)
  | refused (topic : Topic) (e : UsageError) : IsAnswer (refused topic e)
  | help : IsAnswer ⟨[], Topic.help .program, .status 2, none⟩
  | nullCharacter : IsAnswer (broken .nullCharacter)

theorem IsAnswer.isPastSettings {o : Outcome} (h : o.IsAnswer) : o.IsPastSettings := by
  cases h with
  | told t => exact isPastSettings_writing [t] [] 0
  | refused | help => exact isPastSettings_of_status rfl
  | nullCharacter => rintro e ⟨⟩

/-- No service is started. -/
theorem IsAnswer.service?_eq_none {o : Outcome} (h : o.IsAnswer) : o.service? = none := by
  cases h <;> rfl

end Outcome

variable {r : Run} {s : Settings} {e : Settings.Error} {files : Files} {arguments : List Text}
  {o : Outcome}

namespace CheckRequest

theorem isAnswer_of_refusal? {name : Text} (h : files.refusal? name = some o) : o.IsAnswer := by
  unfold Files.refusal? at h
  split at h
  · cases h
  · split at h
    · obtain rfl := Option.some.inj h
      exact .nullCharacter
    · split at h
      · obtain rfl := Option.some.inj h
        exact .refused ..
      · obtain rfl := Option.some.inj h
        exact .refused ..
      · cases h

theorem isAnswer_of_read (h : read files arguments = .error o) : o.IsAnswer := by
  rcases bind_eq_error_iff.1 h with h | ⟨a, -, h⟩
  · obtain ⟨e, -, rfl⟩ := mapError_eq_error_iff.1 h
    exact .refused ..
  · split at h
    · obtain rfl := Except.error.inj h
      exact .told _
    · rcases bind_eq_error_iff.1 h with h | ⟨format?, -, h⟩
      · unfold readFormat at h
        split at h
        · cases h
        · split at h
          · cases h
          · obtain rfl := Except.error.inj h
            exact .refused ..
      · split at h
        case h_1 o' hrefusal =>
          obtain rfl := Except.error.inj h
          obtain ⟨name, -, hname⟩ := List.exists_of_findSome?_eq_some hrefusal
          exact isAnswer_of_refusal? hname
        case h_2 =>
          split at h
          · obtain rfl := Except.error.inj h
            exact .refused ..
          · cases h

theorem isPastSettings_run (r : Run) (s : Settings) (request : CheckRequest) :
    (request.run r s).IsPastSettings :=
  Outcome.isPastSettings_writing _ _ _

end CheckRequest

namespace ServerRequest

theorem isAnswer_of_read (h : read arguments = .error o) : o.IsAnswer := by
  rcases bind_eq_error_iff.1 h with h | ⟨a, -, h⟩
  · obtain ⟨e, -, rfl⟩ := mapError_eq_error_iff.1 h
    exact .refused ..
  · split at h
    · obtain rfl := Except.error.inj h
      exact .told _
    · obtain ⟨e, -, rfl⟩ := mapError_eq_error_iff.1 h
      exact .refused ..

theorem isPastSettings_run (r : Run) (s : Settings) (request : ServerRequest) :
    (request.run r s).IsPastSettings := by
  unfold run
  split
  · exact Outcome.isPastSettings_of_status rfl
  · dsimp only
    split
    · rintro e ⟨⟩
    · exact Outcome.isPastSettings_of_status rfl

end ServerRequest

namespace ProgramRequest

/-- The word for a command asks for it, with all that follows as its arguments. -/
theorem read_word_cons (command : Command) (rest : List Text) :
    read (command.word :: rest) = .ok ⟨false, command, rest⟩ := by
  have options : readOptions (command.word :: rest) = .ok ⟨[], command.word :: rest⟩ := by
    cases command <;>
    · rw [readOptions, Arguments.read, if_neg (by decide), if_neg (by decide)]
      rfl
  rw [read, options]
  cases command <;> rfl

theorem isAnswer_of_readOptions (h : readOptions arguments = .error o) : o.IsAnswer := by
  rcases bind_eq_error_iff.1 h with h | ⟨a, -, h⟩
  · obtain ⟨e, -, rfl⟩ := mapError_eq_error_iff.1 h
    exact .refused ..
  · split at h
    · obtain rfl := Except.error.inj h
      exact .told _
    · cases h

theorem isAnswer_unknownCommand (word : Text) (rest : List Text) :
    (unknownCommand word rest).IsAnswer := by
  rw [unknownCommand]
  split
  · cases hread : readOptions (word :: rest) with
    | error o => exact isAnswer_of_readOptions hread
    | ok a => exact .refused ..
  · exact .refused ..

theorem isAnswer_of_read (h : read arguments = .error o) : o.IsAnswer := by
  rcases ite_eq_iff.1 h with ⟨-, h⟩ | ⟨-, h⟩
  · obtain rfl := Except.error.inj h
    exact .help
  · rcases bind_eq_error_iff.1 h with h | ⟨a, -, h⟩
    · exact isAnswer_of_readOptions h
    · split at h
      · obtain rfl := Except.error.inj h
        exact .refused ..
      · split at h
        · cases h
        · obtain rfl := Except.error.inj h
          exact isAnswer_unknownCommand ..

/-- What comes of a command. -/
def outcome (request : ProgramRequest) (r : Run) (s : Settings) : Outcome :=
  match request.run r s with
  | .ok o => o
  | .error o => o

theorem outcome_check (verbose : Bool) (arguments : List Text) (r : Run) (s : Settings) :
    outcome ⟨verbose, .check, arguments⟩ r s =
      match CheckRequest.read r.files arguments with
      | .ok request => request.run r s
      | .error o => o := by
  rw [outcome, run]
  dsimp only
  cases CheckRequest.read r.files arguments <;> rfl

theorem outcome_server (verbose : Bool) (arguments : List Text) (r : Run) (s : Settings) :
    outcome ⟨verbose, .server, arguments⟩ r s =
      match ServerRequest.read arguments with
      | .ok request => request.run r s
      | .error o => o := by
  rw [outcome, run]
  dsimp only
  cases ServerRequest.read arguments <;> rfl

/-- A command does not break off over settings. -/
theorem isPastSettings_outcome (request : ProgramRequest) (r : Run) (s : Settings) :
    (request.outcome r s).IsPastSettings := by
  obtain ⟨verbose, command, arguments⟩ := request
  cases command with
  | check =>
    rw [outcome_check]
    cases h : CheckRequest.read r.files arguments with
    | error o => exact (CheckRequest.isAnswer_of_read h).isPastSettings
    | ok request => exact request.isPastSettings_run r s
  | server =>
    rw [outcome_server]
    cases h : ServerRequest.read arguments with
    | error o => exact (ServerRequest.isAnswer_of_read h).isPastSettings
    | ok request => exact request.isPastSettings_run r s

end ProgramRequest

/-! ### Runs -/

namespace Run

section Implementation

variable [Yaml.Implementation] {request : ProgramRequest}

/-- Arguments that ask for no command are answered. -/
theorem outcome_of_read_error (h : ProgramRequest.read r.arguments = .error o) : r.outcome = o := by
  rw [outcome, perform, h]
  rfl

/-- With settings, a run goes on to the command. -/
theorem outcome_of_load (hrequest : ProgramRequest.read r.arguments = .ok request)
    (hload : Settings.load r.environment r.files = .ok s) :
    r.outcome = request.outcome r { s with verbose := request.verbose || s.verbose } := by
  rw [outcome, perform, hrequest, hload]
  rfl

/-- Without settings, it ends before. -/
theorem outcome_of_load_error (hrequest : ProgramRequest.read r.arguments = .ok request)
    (hload : Settings.load r.environment r.files = .error e) :
    r.outcome = Outcome.unsettled e := by
  rw [outcome, perform, hrequest, hload]
  rfl

/-- A run that asks for a command goes on to it if it has settings. Otherwise it tells why and ends
with status 1, unless it breaks off over the settings; and that happens exactly if there is no place
for them, or a file with settings that is wrong in one of the ways that `Settings.Breaks` lists. -/
theorem outcome_of_request (hrequest : ProgramRequest.read r.arguments = .ok request) :
    (∀ s, Settings.load r.environment r.files = .ok s →
      r.outcome = request.outcome r { s with verbose := request.verbose || s.verbose }) ∧
    (∀ e, Settings.load r.environment r.files = .error e →
      (∃ message, e.message? = some message ∧ r.outcome = .invalidSettings message) ∨
        r.outcome = .broken (.settings e)) ∧
    ∀ e, r.outcome.ending = .failure (.settings e) ↔
      r.environment.directory = .error e ∨
        ∃ directory contents, r.environment.directory = .ok directory ∧
          r.files.read? (Settings.file directory).toText = some contents ∧
            Settings.Breaks directory contents e := by
  refine ⟨fun s hload => outcome_of_load hrequest hload, fun e hload => ?_, fun e => ?_⟩
  · rw [outcome_of_load_error hrequest hload]
    by_cases value : e.isAboutValue = true
    · exact .inl (Outcome.unsettled_of_isAboutValue value)
    · exact .inr (if_neg value)
  · rw [← Settings.load_breaks_iff]
    constructor
    · intro ending
      cases hload : Settings.load r.environment r.files with
      | ok s =>
        -- The command that is gone on to may break off too, but not over settings.
        rw [outcome_of_load hrequest hload] at ending
        exact absurd ending (request.isPastSettings_outcome r _ e)
      | error f =>
        rw [outcome_of_load_error hrequest hload] at ending
        by_cases value : f.isAboutValue = true
        · obtain ⟨message, -, stopped⟩ := Outcome.unsettled_of_isAboutValue value
          rw [stopped] at ending
          cases ending
        · rw [Outcome.unsettled, if_neg value] at ending
          obtain rfl : f = e := by
            injection ending with failure
            injection failure
          exact ⟨rfl, value⟩
    · rintro ⟨hload, breaking⟩
      rw [outcome_of_load_error hrequest hload, Outcome.unsettled, if_neg breaking]
      rfl

end Implementation

/-- A run in a directory with nothing set but the place of the settings. -/
def within (entries : List (List Text × Entry)) (arguments : List Text) (input : Bytes) : Run where
  arguments
  environment := ⟨some "xdg", some "home", none, none, none, none⟩
  files := (FileTree.mk entries).files
  input
  clock := "00:00:00"
  canServe := false

/-- The check of the standard input under a file with settings. -/
def underSettings (contents : Bytes) : Run :=
  within [(["xdg", "robotslint", "config.yaml"], .file contents)]
    [Command.check.word, standardInput] []

theorem outcome_of_request_infinite :
    let r := underSettings (Text.utf8 "web_port: .inf\n")
    ProgramRequest.read r.arguments = .ok ⟨false, .check, [standardInput]⟩ ∧
      (r.environment.directory = .error .infinitePort ∨
        ∃ directory contents, r.environment.directory = .ok directory ∧
          r.files.read? (Settings.file directory).toText = some contents ∧
            Settings.Breaks directory contents .infinitePort) := by
  have asked := ProgramRequest.read_word_cons .check [standardInput]
  exact ⟨asked, ((outcome_of_request asked).2.2 .infinitePort).1 (by decide +kernel)⟩

/-- A port without a value is neither read nor told about. -/
theorem outcome_of_missing_port :
    let r := underSettings (Text.utf8 "web_port: null\n")
    ProgramRequest.read r.arguments = .ok ⟨false, .check, [standardInput]⟩ ∧
      ¬ ((∃ s, Settings.load r.environment r.files = .ok s) ∨
        ∃ message, r.outcome = .invalidSettings message) := by
  intro r
  have broken : r.outcome = .broken (.settings (.portKind "NoneType")) := by decide +kernel
  have unread : (Settings.load r.environment r.files).toOption = none := by decide +kernel
  refine ⟨ProgramRequest.read_word_cons .check [standardInput], ?_⟩
  rintro (⟨s, loaded⟩ | ⟨message, told⟩)
  · rw [loaded] at unread
    cases unread
  · cases broken.symm.trans told

end Run

end RobotsExclusion
