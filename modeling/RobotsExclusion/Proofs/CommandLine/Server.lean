import RobotsExclusion.Proofs.CommandLine
import RobotsExclusion.Proofs.Settings.Source
import Mathlib.Data.List.Basic

/-!
# Runs that serve

No run serves at another address than the loopback one. The port is what the last option for it
says, or else what the settings say. Of files, a run looks at four entries of the one with the
settings and, if it is to check some, at those that its arguments name. Whatever else there is, it
comes to the same. All this holds of every implementation of YAML.

## Main definitions

* `ServerRequest.GivesPort` — the port that the options and the settings give
* `Run.AsksForPort` — the port that a run is to listen on
* `Run.outcomeUnder` — what comes of a run under certain entries of the file with the settings

## Main results

* `Run.asksForPort_of_service` — where a run serves
* `Run.outcomeUnder_congr`, `ProgramRequest.outcome_congr` — what a run does not look at does not
  matter
* `Run.serves_at_loopback` — no input moves the server elsewhere
-/

namespace RobotsExclusion

/-! ### Arguments -/

namespace Arguments

variable {α : Type} {switches : List (Switch α)} {mixed : Bool} {arguments : List Text}
  {a : Arguments α} {key : α} {t : Text}

/-- The words stand among the arguments. -/
theorem words_subset_of_read (h : read switches mixed arguments = .ok a) :
    a.words ⊆ arguments := by
  fun_induction read switches mixed arguments generalizing a with
  | case1 =>
    obtain rfl := Except.ok.inj h
    exact List.Subset.refl []
  | case2 rest =>
    obtain rfl := Except.ok.inj h
    exact List.subset_cons_self _ rest
  | case3 argument rest _ _ ih ihValue =>
    -- An option is no word, and neither is the argument that it takes as its value.
    obtain ⟨reading, -, h⟩ := bind_eq_ok_iff.1 h
    split at h
    · obtain ⟨later, hlater, h⟩ := bind_eq_ok_iff.1 h
      obtain rfl := Except.ok.inj h
      have words : later.words ⊆ rest := ih hlater
      exact List.subset_cons_of_subset _ words
    · split at h
      · cases h
      · obtain ⟨later, hlater, h⟩ := bind_eq_ok_iff.1 h
        obtain rfl := Except.ok.inj h
        have words : later.words ⊆ _ := ihValue hlater
        exact List.subset_cons_of_subset _ (List.subset_cons_of_subset _ words)
  | case4 argument rest _ _ _ ih =>
    obtain ⟨later, hlater, h⟩ := bind_eq_ok_iff.1 h
    obtain rfl := Except.ok.inj h
    exact List.cons_subset_cons argument (ih hlater)
  | case5 argument rest =>
    obtain rfl := Except.ok.inj h
    exact List.Subset.refl _

variable [DecidableEq α]

/-- The last value counts. -/
theorem value?_eq_some_iff : a.value? key = some t ↔
    ∃ before after, a.given = before ++ (key, t) :: after ∧ ∀ g ∈ after, g.1 ≠ key := by
  rw [value?, Option.map_eq_some_iff]
  constructor
  · rintro ⟨⟨k, u⟩, hfind, rfl⟩
    obtain ⟨same, after, before, hgiven, hafter⟩ := List.find?_eq_some_iff_append.1 hfind
    obtain rfl : k = key := of_decide_eq_true same
    refine ⟨before.reverse, after.reverse, ?_, fun g hg => ?_⟩
    · rw [← List.reverse_reverse a.given, hgiven]
      simp
    · simpa using hafter g (List.mem_reverse.1 hg)
  · rintro ⟨before, after, hgiven, hafter⟩
    refine ⟨(key, t), List.find?_eq_some_iff_append.2 ⟨decide_eq_true rfl, ?_⟩, rfl⟩
    refine ⟨after.reverse, before.reverse, by simp [hgiven], fun g hg => ?_⟩
    simpa using hafter g (List.mem_reverse.1 hg)

theorem value?_eq_none_iff : a.value? key = none ↔ ∀ g ∈ a.given, g.1 ≠ key := by
  simp [value?]

end Arguments

/-! ### The port that is asked for -/

namespace ServerRequest

variable {given : List (ServerOption × Text)} {env : Environment} {es : Yaml.Entries}
  {arguments : List Text} {request : ServerRequest} {r : Run} {s : Settings} {service : Service}

/-- The port that the last option for it gives, or that the settings give if there is no option. -/
inductive GivesPort (given : List (ServerOption × Text)) (env : Environment) (es : Yaml.Entries) :
    Int → Prop
  | option {before after : List (ServerOption × Text)} {t : Text} {port : Int} :
      given = before ++ (.port, t) :: after → (∀ g ∈ after, g.1 ≠ .port) →
      Integer.ofText 10 t = .ok port → GivesPort given env es port
  | settings {port : Int} : (∀ g ∈ given, g.1 ≠ .port) → Settings.GivesPort env es port →
      GivesPort given env es port

theorem readPort_eq_ok_iff {value? : Option Text} {port? : Option Int} :
    readPort value? = .ok port? ↔
      value? = none ∧ port? = none ∨
        ∃ t port, value? = some t ∧ port? = some port ∧ Integer.ofText 10 t = .ok port := by
  cases value? with
  | none => simp [readPort, eq_comm]
  | some t =>
    rw [readPort]
    cases h : Integer.ofText 10 t with
    | ok n => simp [eq_comm, h]
    | error e => simp [h]

theorem port?_of_read (h : read arguments = .ok request) :
    ∃ a, Arguments.read ServerOption.switches true arguments = .ok a ∧
      readPort (a.value? .port) = .ok request.port? := by
  obtain ⟨a, ha, h⟩ := bind_eq_ok_iff.1 h
  refine ⟨a, mapError_eq_ok_iff.1 ha, ?_⟩
  split at h
  · cases h
  · obtain ⟨port?, hport, h⟩ := bind_eq_ok_iff.1 (mapError_eq_ok_iff.1 h)
    rcases ite_eq_iff.1 h with ⟨-, h⟩ | ⟨-, h⟩
    · obtain rfl := Except.ok.inj h
      exact hport
    · cases h

/-- An option comes before the settings, even if it asks for port `0`. -/
theorem givesPort_of_read (h : read arguments = .ok request)
    (settings : Settings.GivesPort env es s.port) :
    ∃ a, Arguments.read ServerOption.switches true arguments = .ok a ∧
      GivesPort a.given env es (request.port?.getD s.port) := by
  obtain ⟨a, ha, hport⟩ := port?_of_read h
  refine ⟨a, ha, ?_⟩
  -- What counts is whether there is an option, and not which number it gives.
  rcases readPort_eq_ok_iff.1 hport with ⟨absent, hport?⟩ | ⟨t, port, last, hport?, ht⟩
  · rw [hport?, Option.getD_none]
    exact .settings (Arguments.value?_eq_none_iff.1 absent) settings
  · obtain ⟨before, after, hgiven, hafter⟩ := Arguments.value?_eq_some_iff.1 last
    rw [hport?, Option.getD_some]
    exact .option hgiven hafter ht

/-- The service that is started, if one is, listens on the address in the settings. -/
theorem eq_of_service (h : (request.run r s).service? = some service) :
    service = .listening s.host (request.port?.getD s.port) := by
  unfold run at h
  split at h
  · cases h
  · dsimp only at h
    split at h
    · cases h
    · exact (Option.some.inj h).symm

end ServerRequest

theorem CheckRequest.service?_run (r : Run) (s : Settings) (request : CheckRequest) :
    (request.run r s).service? = none :=
  rfl

/-- The server alone starts a service. -/
theorem ProgramRequest.exists_of_service {request : ProgramRequest} {r : Run} {s : Settings}
    {service : Service} (h : (request.outcome r s).service? = some service) :
    request.command = .server ∧
      ∃ serverRequest, ServerRequest.read request.arguments = .ok serverRequest ∧
        service = .listening s.host (serverRequest.port?.getD s.port) := by
  obtain ⟨verbose, command, arguments⟩ := request
  cases command with
  | check =>
    rw [outcome_check] at h
    cases hread : CheckRequest.read r.files arguments with
    | error o =>
      rw [hread] at h
      cases (CheckRequest.isAnswer_of_read hread).service?_eq_none.symm.trans h
    | ok request =>
      rw [hread] at h
      cases (request.service?_run r s).symm.trans h
  | server =>
    rw [outcome_server] at h
    cases hread : ServerRequest.read arguments with
    | error o =>
      rw [hread] at h
      cases (ServerRequest.isAnswer_of_read hread).service?_eq_none.symm.trans h
    | ok request =>
      rw [hread] at h
      exact ⟨rfl, request, rfl, ServerRequest.eq_of_service h⟩

theorem Outcome.service?_unsettled (e : Settings.Error) : (unsettled e).service? = none := by
  rw [unsettled]
  split <;> rfl

namespace Run

variable [Yaml.Implementation] {r : Run} {service : Service}

/-- The port that a run is to listen on: it is to serve, and its arguments, its environment and its
file with settings give the port. -/
def AsksForPort (r : Run) (port : Int) : Prop :=
  ∃ verbose arguments a directory es,
    ProgramRequest.read r.arguments = .ok ⟨verbose, .server, arguments⟩ ∧
    Arguments.read ServerOption.switches true arguments = .ok a ∧
    r.environment.directory = .ok directory ∧
    Settings.fileEntries r.files directory = .ok es ∧
    ServerRequest.GivesPort a.given r.environment es port

/-- A service listens on the loopback address, at the port that the run asks for. -/
theorem asksForPort_of_service (h : r.outcome.service? = some service) :
    service.host = Settings.loopback ∧ r.AsksForPort service.port := by
  cases hrequest : ProgramRequest.read r.arguments with
  | error o =>
    rw [outcome_of_read_error hrequest, (ProgramRequest.isAnswer_of_read hrequest).service?_eq_none]
      at h
    cases h
  | ok request =>
    cases hload : Settings.load r.environment r.files with
    | error e =>
      rw [outcome_of_load_error hrequest hload, Outcome.service?_unsettled] at h
      cases h
    | ok s =>
      -- The command may change what is logged, but not what the settings say about the server.
      rw [outcome_of_load hrequest hload] at h
      obtain ⟨server, serverRequest, hread, rfl⟩ := ProgramRequest.exists_of_service h
      obtain ⟨directory, es, hdirectory, hes, hport⟩ := Settings.givesPort_of_load hload
      obtain ⟨a, ha, port⟩ := ServerRequest.givesPort_of_read hread hport
      obtain ⟨verbose, command, arguments⟩ := request
      obtain rfl : command = .server := server
      exact ⟨Settings.host_of_load hload, verbose, arguments, a, directory, es, hrequest, ha,
        hdirectory, hes, port⟩

end Run

/-! ### What is looked at -/

section LookedAt

variable {files files' : Files} {arguments names : List Text} {request : ProgramRequest}
  {r : Run} {es es' : Yaml.Entries}

/-- The arguments of a command stand among those of the program. -/
theorem ProgramRequest.arguments_subset_of_read (h : read arguments = .ok request) :
    request.arguments ⊆ arguments := by
  rcases ite_eq_iff.1 h with ⟨-, h⟩ | ⟨-, h⟩
  · cases h
  · obtain ⟨a, ha, h⟩ := bind_eq_ok_iff.1 h
    obtain ⟨a', ha', ha⟩ := bind_eq_ok_iff.1 ha
    have words := Arguments.words_subset_of_read (mapError_eq_ok_iff.1 ha')
    split at ha
    · cases ha
    · obtain rfl := Except.ok.inj ha
      split at h
      · cases h
      case h_2 word rest hwords =>
        split at h
        · obtain rfl := Except.ok.inj h
          exact List.Subset.trans (List.subset_cons_self word rest) (hwords ▸ words)
        · cases h

namespace CheckRequest

/-- Only the files that are named are looked at. -/
theorem documents_congr (same : ∀ name ∈ names, files.find? name = files'.find? name)
    (input : Bytes) : documents files input names = documents files' input names := by
  induction names generalizing input with
  | nil => rfl
  | cons name names ih =>
    obtain ⟨hname, hnames⟩ := List.forall_mem_cons.1 same
    rw [documents, documents, ih hnames, ih hnames, Files.read?, hname, ← Files.read?]

theorem refusal?_congr {name : Text} (same : files.find? name = files'.find? name) :
    files.refusal? name = files'.refusal? name := by
  rw [Files.refusal?, same, ← Files.refusal?]

theorem ofArguments_congr {a : Arguments CheckOption}
    (same : ∀ name ∈ a.words, files.find? name = files'.find? name) :
    ofArguments files a = ofArguments files' a := by
  have refusals : a.words.findSome? files.refusal? = a.words.findSome? files'.refusal? := by
    rw [← List.head?_filterMap, ← List.head?_filterMap]
    exact congrArg List.head? <|
      List.filterMap_congr fun name hname => refusal?_congr (same name hname)
  rw [ofArguments, refusals, ← ofArguments]

theorem read_congr (same : ∀ name ∈ arguments, files.find? name = files'.find? name) :
    read files arguments = read files' arguments := by
  rw [read, read]
  cases h : Arguments.read CheckOption.switches true arguments with
  | error e => rfl
  | ok a =>
    have words := Arguments.words_subset_of_read h
    change (if a.has .help then _ else ofArguments files a) =
      if a.has .help then _ else ofArguments files' a
    rw [ofArguments_congr fun name hname => same name (words hname)]

theorem names_of_ofArguments {a : Arguments CheckOption} {request : CheckRequest}
    (h : ofArguments files a = .ok request) : request.names = a.words := by
  obtain ⟨format?, -, h⟩ := bind_eq_ok_iff.1 h
  split at h
  · cases h
  · rcases ite_eq_iff.1 h with ⟨-, h⟩ | ⟨-, h⟩
    · cases h
    · exact congrArg CheckRequest.names (Except.ok.inj h).symm

theorem names_subset_of_read {request : CheckRequest} (h : read files arguments = .ok request) :
    request.names ⊆ arguments := by
  obtain ⟨a, ha, h⟩ := bind_eq_ok_iff.1 h
  have words := Arguments.words_subset_of_read (mapError_eq_ok_iff.1 ha)
  rcases ite_eq_iff.1 h with ⟨-, h⟩ | ⟨-, h⟩
  · cases h
  · exact names_of_ofArguments h ▸ words

end CheckRequest

/-- Commands look at the files that their arguments name, and at no others. -/
theorem ProgramRequest.outcome_congr
    (same : ∀ name ∈ request.arguments, r.files.find? name = files'.find? name) (s : Settings) :
    request.outcome r s = request.outcome { r with files := files' } s := by
  obtain ⟨verbose, command, arguments⟩ := request
  cases command with
  | server => rw [outcome_server, outcome_server]; rfl
  | check =>
    rw [outcome_check, outcome_check, CheckRequest.read_congr same]
    cases h : CheckRequest.read files' arguments with
    | error o => rfl
    | ok request =>
      -- What is checked was named, and is read from the same place in both runs.
      have names := CheckRequest.names_subset_of_read h
      have documents := CheckRequest.documents_congr (fun name hname => same name (names hname))
        r.input
      dsimp only [CheckRequest.run]
      rw [documents]

namespace Run

section Implementation

variable [Yaml.Implementation]

/-- What comes of a run if the file with the settings has these entries. -/
def outcomeUnder (r : Run) (es : Yaml.Entries) : Outcome :=
  match ProgramRequest.read r.arguments with
  | .error o => o
  | .ok request =>
    match Settings.under r.environment es with
    | .error e => .unsettled e
    | .ok s => request.outcome r { s with verbose := request.verbose || s.verbose }

/-- A run whose file with the settings has these entries. -/
theorem outcome_of_holds (h : Settings.Holds r.environment r.files es) :
    r.outcome = r.outcomeUnder es := by
  have load := Settings.load_of_holds h
  rw [outcomeUnder]
  cases hrequest : ProgramRequest.read r.arguments with
  | error o => exact outcome_of_read_error hrequest
  | ok request =>
    cases hunder : Settings.under r.environment es with
    | error e => exact outcome_of_load_error hrequest (load.trans hunder)
    | ok s => exact outcome_of_load hrequest (load.trans hunder)

/-- Entries that are not looked at do not matter. -/
theorem outcomeUnder_congr (h : Settings.Agree es es') : r.outcomeUnder es = r.outcomeUnder es' := by
  rw [outcomeUnder, Settings.under_congr h, ← outcomeUnder]

/-- Neither do files that are not named. -/
theorem outcomeUnder_files (same : ∀ name ∈ r.arguments, r.files.find? name = files'.find? name) :
    r.outcomeUnder es = outcomeUnder { r with files := files' } es := by
  rw [outcomeUnder, outcomeUnder]
  cases h : ProgramRequest.read r.arguments with
  | error o => rfl
  | ok request =>
    have arguments := ProgramRequest.arguments_subset_of_read h
    cases Settings.under r.environment es with
    | error e => rfl
    | ok s => exact request.outcome_congr (fun name hname => same name (arguments hname)) _

/-- No input moves the server away from the loopback address. A run starts one service at most; it
listens there, and at the port that the last option for it gives, or else the environment, or else
the file, or else at 8471. What a run comes to under certain entries of the file with the settings
depends on those under the keys for the format, for strictness, for the port and for the log alone,
and so do the settings; and a run whose file has these entries comes to that. So other entries, in
another file with settings, change nothing about a run whose arguments do not name the file. -/
theorem serves_at_loopback (r : Run) :
    (∀ service, r.outcome.service? = some service →
      service.host = ("127.0.0.1" : Text) ∧ r.AsksForPort service.port) ∧
    (∀ es, Settings.Holds r.environment r.files es →
      Settings.load r.environment r.files = Settings.under r.environment es ∧
        r.outcome = r.outcomeUnder es) ∧
    (∀ es es', Settings.Agree es es' →
      Settings.under r.environment es = Settings.under r.environment es' ∧
        r.outcomeUnder es = r.outcomeUnder es') ∧
    ∀ es es' files', Settings.Agree es es' → Settings.Holds r.environment r.files es →
      Settings.Holds r.environment files' es' →
      Settings.load r.environment r.files = Settings.load r.environment files' ∧
        ((∀ name ∈ r.arguments, r.files.find? name = files'.find? name) →
          r.outcome = outcome { r with files := files' }) := by
  refine ⟨fun service h => asksForPort_of_service h, fun es h => ?_, fun es es' agree => ?_,
    fun es es' files' agree h h' => ⟨Settings.load_congr h h' agree, fun same => ?_⟩⟩
  · exact ⟨Settings.load_of_holds h, outcome_of_holds h⟩
  · exact ⟨Settings.under_congr agree, outcomeUnder_congr agree⟩
  · calc r.outcome
        = r.outcomeUnder es := outcome_of_holds h
      _ = r.outcomeUnder es' := outcomeUnder_congr agree
      _ = outcomeUnder { r with files := files' } es' := outcomeUnder_files same
      _ = outcome { r with files := files' } := (outcome_of_holds h').symm

end Implementation

/-- A file that asks for another address, and a run that asks for two ports, the last one being `0`.
The run would come to the same without the file. -/
theorem serves_at_loopback_zero :
    let contents : Bytes := Text.utf8 "web_host: 0.0.0.0\nconfig_dir: /\n"
    let r : Run :=
      { within [(["xdg", "robotslint", "config.yaml"], .file contents)]
          ["server", "--port", "1", "--port=0"] [] with canServe := true }
    r.outcome.service? = some (.listening "127.0.0.1" 0) ∧ r.AsksForPort 0 ∧
      r.outcome = outcome { r with files := (FileTree.mk []).files } := by
  intro contents r
  obtain ⟨serves, -, -, unseen⟩ := serves_at_loopback r
  have service : r.outcome.service? = some (.listening "127.0.0.1" 0) := by decide +kernel
  refine ⟨service, (serves _ service).2, ?_⟩
  let place : Path := (Path.ofText "xdg").join ["robotslint"]
  have directory : r.environment.directory = .ok place := rfl
  -- The file has entries, but none under a key that is looked at.
  obtain ⟨es, holds, unsaid⟩ :=
    Settings.exists_holds r.files
      (fun es => ∀ key ∈ Settings.keys, (es.get? key).isNone = true) directory (by decide +kernel)
  have without : Settings.Holds r.environment (FileTree.mk []).files [] := by
    intro directory' h
    obtain rfl := Except.ok.inj (directory.symm.trans h)
    rfl
  have agree : Settings.Agree es [] := fun key hkey =>
    Option.isNone_iff_eq_none.1 (unsaid key hkey)
  exact (unseen es [] _ agree holds without).2 (by decide +kernel)

end Run

end LookedAt

end RobotsExclusion
