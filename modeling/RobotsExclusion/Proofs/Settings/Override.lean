import RobotsExclusion.Proofs.Settings.Source

/-!
# Entries that the environment overrides

The format, strictness and the port are set by the file or, over its head, by the environment. The
settings of the file are made before the environment is looked at, and a file that does not give
settings by itself is an error, whatever the environment says. What the environment overrides has no
influence otherwise.

## Main definitions

* `Settings.Overridable` — what the environment can override
* `Settings.Overridable.Suits` — a value that gives settings
* `Settings.AgreeBut` — entries that are the same under all keys that are looked at but one

## Main results

* `Settings.override_congr` — what the environment sets does not matter in the settings before
* `Settings.suits_of_ofEntries` — the values of a file that gives settings
* `Settings.load_of_overridden` — an overridden value matters only if the file is wrong by itself
-/

namespace RobotsExclusion

namespace Settings

variable {env : Environment} {files files' : Files} {directory directory' : Path}
  {es es' : Yaml.Entries} {s s' : Settings} {e : Error} {t : Text}

/-! ### What can be overridden -/

/-- What the environment can override. -/
inductive Overridable where
  | format
  | strict
  | port
deriving DecidableEq

namespace Overridable

/-- The key in the file. -/
def key : Overridable → Text
  | format => "output_format"
  | strict => "strict"
  | port => "web_port"

/-- The variable of the environment. -/
def inEnvironment? : Overridable → Environment → Option Text
  | format => Environment.outputFormat
  | strict => Environment.strict
  | port => Environment.port

end Overridable

/-- The same entries under all keys that are looked at, with one exception. -/
def AgreeBut (key : Text) (es es' : Yaml.Entries) : Prop :=
  ∀ other ∈ keys, other ≠ key → es.get? other = es'.get? other

/-! ### The environment -/

theorem formatOfName_eq_ok_iff {f : OutputFormat} :
    formatOfName t = .ok f ↔ OutputFormat.ofName? t.lower = some f := by
  have looked : formatOfName t =
      (OutputFormat.ofName? t.lower).elim (.error (.unknownFormat t.lower)) .ok := by
    rw [formatOfName]
    cases OutputFormat.ofName? t.lower <;> rfl
  rw [looked, elim_eq_ok_iff]

/-- What the environment sets does not matter in the settings before. -/
theorem override_congr (hdirectory : s.directory = s'.directory) (hhost : s.host = s'.host)
    (hverbose : s.verbose = s'.verbose)
    (hformat : Environment.given env.outputFormat = none → s.format = s'.format)
    (hstrict : Environment.given env.strict = none → s.strict = s'.strict)
    (hport : Environment.given env.port = none → s.port = s'.port) :
    override env s = override env s' := by
  have format : ((Environment.given env.outputFormat).map formatOfName).getD (.ok s.format) =
      ((Environment.given env.outputFormat).map formatOfName).getD (.ok s'.format) := by
    cases hgiven : Environment.given env.outputFormat with
    | none => rw [hformat hgiven]
    | some t => rfl
  have strict : ((Environment.given env.strict).map fun t => trueWords.contains t.lower).getD
      s.strict = ((Environment.given env.strict).map fun t => trueWords.contains t.lower).getD
      s'.strict := by
    cases hgiven : Environment.given env.strict with
    | none => rw [hstrict hgiven]
    | some t => rfl
  have port : ((Environment.given env.port).map portOfText).getD (.ok s.port) =
      ((Environment.given env.port).map portOfText).getD (.ok s'.port) := by
    cases hgiven : Environment.given env.port with
    | none => rw [hport hgiven]
    | some t => rfl
  rw [override, format, strict, port, hdirectory, hhost, hverbose, override]

section Implementation

variable [Yaml.Implementation]

/-! ### The file by itself -/

/-- A value of the file that gives settings: the name of a format in any letter case, anything for
strictness, and what denotes an integer for the port. -/
def Overridable.Suits : Overridable → Yaml.Value → Prop
  | format, v => ∃ name, formatText v = .ok name ∧ ∃ f, OutputFormat.ofName? name.lower = some f
  | strict, _ => True
  | port, v => ∃ n, portOfValue v = .ok n

instance (k : Overridable) (v : Yaml.Value) : Decidable (k.Suits v) :=
  match k with
  | .format =>
    decidable_of_iff (∃ name ∈ (formatText v).toOption, (OutputFormat.ofName? name.lower).isSome = true)
      (by simp only [Overridable.Suits, Option.mem_def, toOption_eq_some_iff,
        Option.isSome_iff_exists])
  | .strict => .isTrue trivial
  | .port => decidable_of_iff ((portOfValue v).toOption.isSome = true) toOption_isSome_iff

/-- The values of a file that gives settings all suit. -/
theorem suits_of_ofEntries (h : ofEntries directory es = .ok s) (k : Overridable) :
    ∀ v ∈ es.get? k.key, k.Suits v := by
  obtain ⟨name, format, port, hname, hport, hformat, -⟩ := exists_of_ofEntries h
  intro v hv
  cases k with
  | format =>
    rw [show es.get? "output_format" = some v from hv] at hname
    exact ⟨name, hname, format, formatOfName_eq_ok_iff.1 hformat⟩
  | strict => trivial
  | port =>
    rw [show es.get? "web_port" = some v from hv] at hport
    exact ⟨port, hport⟩

/-- What is wrong with entries does not depend on the directory of the file. -/
theorem error_of_ofEntries (h : ofEntries directory es = .error e) (directory' : Path) :
    ofEntries directory' es = .error e := by
  -- The directory is only looked at when all steps have succeeded.
  rcases bind_eq_error_iff.1 h with h | ⟨name, hname, h⟩
  · exact bind_eq_error_iff.2 (.inl h)
  · refine bind_eq_error_iff.2 (.inr ⟨name, hname, ?_⟩)
    rcases bind_eq_error_iff.1 h with h | ⟨port, hport, h⟩
    · exact bind_eq_error_iff.2 (.inl h)
    · refine bind_eq_error_iff.2 (.inr ⟨port, hport, ?_⟩)
      rcases bind_eq_error_iff.1 h with h | ⟨format, -, h⟩
      · exact bind_eq_error_iff.2 (.inl h)
      · cases h

/-- A file that does not give settings by itself is an error, whatever the environment says. -/
theorem load_of_ofEntries_eq_error (h : ofEntries directory es = .error e)
    (hdirectory : env.directory = .ok directory') (holds : Holds env files es) :
    load env files = .error e := by
  rw [load_of_holds holds, under, hdirectory]
  change ofEntries directory' es >>= _ = _
  rw [error_of_ofEntries h directory']
  rfl

/-! ### The file under the environment -/

theorem exists_format_of_suits
    (h : ∀ v ∈ es.get? Overridable.format.key, Overridable.format.Suits v) :
    ∃ name f, ((es.get? "output_format").map formatText).getD (.ok OutputFormat.table.name) =
      .ok name ∧ formatOfName name = .ok f := by
  cases hv : es.get? "output_format" with
  | none => exact ⟨OutputFormat.table.name, .table, rfl, formatOfName_eq_ok_iff.2 (by decide)⟩
  | some v =>
    obtain ⟨name, hname, f, hf⟩ := h v hv
    exact ⟨name, f, hname, formatOfName_eq_ok_iff.2 hf⟩

theorem exists_port_of_suits (h : ∀ v ∈ es.get? Overridable.port.key, Overridable.port.Suits v) :
    ∃ port, ((es.get? "web_port").map portOfValue).getD (.ok defaultPort) = .ok port := by
  cases hv : es.get? "web_port" with
  | none => exact ⟨defaultPort, rfl⟩
  | some v => exact h v hv

/-- The entries one after another. -/
theorem ofEntries_eq (directory : Path) (es : Yaml.Entries) : ofEntries directory es =
    ((es.get? "output_format").map formatText).getD (.ok OutputFormat.table.name) >>= fun name =>
      ((es.get? "web_port").map portOfValue).getD (.ok defaultPort) >>= fun port =>
        formatOfName name >>= fun format => .ok { default directory with
          format
          port
          strict := ((es.get? "strict").map Yaml.Value.isTrue).getD false
          verbose := ((es.get? "verbose").map Yaml.Value.isTrue).getD false } := rfl

/-- Two values that suit come to the same where the environment overrides them. -/
theorem under_of_overridden {k : Overridable} (set : Environment.given (k.inEnvironment? env) ≠ none)
    (agree : AgreeBut k.key es es') (suits : ∀ v ∈ es.get? k.key, k.Suits v)
    (suits' : ∀ v ∈ es'.get? k.key, k.Suits v) : under env es = under env es' := by
  rw [under, under]
  refine bind_congr fun directory => ?_
  have verbose : es.get? "verbose" = es'.get? "verbose" :=
    agree "verbose" (by decide) (by cases k <;> decide)
  -- In each case the other entries are the same, and the two settings of the file differ in one field
  -- that the environment sets.
  cases k with
  | format =>
    have strict : es.get? "strict" = es'.get? "strict" := agree "strict" (by decide) (by decide)
    have port : es.get? "web_port" = es'.get? "web_port" := agree "web_port" (by decide) (by decide)
    obtain ⟨name, f, hname, hf⟩ := exists_format_of_suits suits
    obtain ⟨name', f', hname', hf'⟩ := exists_format_of_suits suits'
    rw [ofEntries_eq, ofEntries_eq, hname, hname', strict, port, verbose]
    simp only [bind_assoc, ok_bind, hf, hf']
    refine bind_congr fun port => ?_
    exact override_congr rfl rfl rfl (absurd · set) (fun _ => rfl) (fun _ => rfl)
  | strict =>
    have format : es.get? "output_format" = es'.get? "output_format" :=
      agree "output_format" (by decide) (by decide)
    have port : es.get? "web_port" = es'.get? "web_port" := agree "web_port" (by decide) (by decide)
    rw [ofEntries_eq, ofEntries_eq, format, port, verbose]
    simp only [bind_assoc, ok_bind]
    refine bind_congr fun name => bind_congr fun port => bind_congr fun format => ?_
    exact override_congr rfl rfl rfl (fun _ => rfl) (absurd · set) (fun _ => rfl)
  | port =>
    have format : es.get? "output_format" = es'.get? "output_format" :=
      agree "output_format" (by decide) (by decide)
    have strict : es.get? "strict" = es'.get? "strict" := agree "strict" (by decide) (by decide)
    obtain ⟨port, hport⟩ := exists_port_of_suits suits
    obtain ⟨port', hport'⟩ := exists_port_of_suits suits'
    rw [ofEntries_eq, ofEntries_eq, format, strict, verbose, hport, hport']
    simp only [bind_assoc, ok_bind]
    refine bind_congr fun name => bind_congr fun format => ?_
    exact override_congr rfl rfl rfl (fun _ => rfl) (fun _ => rfl) (absurd · set)

/-- What the environment overrides has no influence if it gives settings by itself: files that
differ in nothing else come to the same, be it settings or an error. A value that does not is an
error which the file alone decides, whatever the environment says. -/
theorem load_of_overridden (k : Overridable) :
    (∀ env files files' es es' t, Holds env files es → Holds env files' es' →
      k.inEnvironment? env = some t → t ≠ [] → AgreeBut k.key es es' →
      (∀ v ∈ es.get? k.key, k.Suits v) → (∀ v ∈ es'.get? k.key, k.Suits v) →
      load env files = load env files') ∧
    ∀ es, (∃ v ∈ es.get? k.key, ¬ k.Suits v) → ∃ e, ∀ env files directory,
      env.directory = .ok directory → Holds env files es → load env files = .error e := by
  refine ⟨fun env files files' es es' t h h' set nonempty agree suits suits' => ?_, ?_⟩
  · have given : Environment.given (k.inEnvironment? env) = some t :=
      Environment.given_eq_some_iff.2 ⟨set, nonempty⟩
    rw [load_of_holds h, load_of_holds h']
    exact under_of_overridden (by rw [given]; exact Option.some_ne_none t) agree suits suits'
  · rintro es ⟨v, hv, unsuited⟩
    cases hes : ofEntries (Path.ofText []) es with
    | ok s => exact absurd (suits_of_ofEntries hes k v hv) unsuited
    | error e =>
      exact ⟨e, fun env files directory hdirectory h =>
        load_of_ofEntries_eq_error hes hdirectory h⟩

end Implementation

/-! ### Files that say one thing -/

/-- A directory with a file with settings, and with nothing else. -/
def settingsAre (contents : Text) : Files :=
  (FileTree.mk [(["xdg", "robotslint", "config.yaml"], .file contents.utf8)]).files

/-- An environment that overrides one thing. -/
def Overridable.setTo (k : Overridable) (t : Text) : Environment where
  configHome := some "xdg"
  home := some "home"
  accountHome := none
  outputFormat := if k = format then some t else none
  strict := if k = strict then some t else none
  port := if k = port then some t else none

theorem directory_setTo (k : Overridable) (t : Text) :
    (k.setTo t).directory = .ok ((Path.ofText "xdg").join [directoryName]) := rfl

/-- Nothing is said under the other keys that are looked at. -/
def SaysOnly (key : Text) (es : Yaml.Entries) : Prop :=
  ∀ other ∈ keys, other ≠ key → es.get? other = none

instance (key : Text) (es : Yaml.Entries) : Decidable (SaysOnly key es) :=
  decidable_of_iff (∀ other ∈ keys, other ≠ key → (es.get? other).isNone = true)
    (by simp only [SaysOnly, Option.isNone_iff_eq_none])

theorem SaysOnly.agreeBut {key : Text} (h : SaysOnly key es) (h' : SaysOnly key es') :
    AgreeBut key es es' :=
  fun other mem ne => (h other mem ne).trans (h' other mem ne).symm

/-- Three ports of a file under a port of the environment. Two of them denote integers and have no
influence, and the third one is an error. -/
theorem load_of_overridden_port :
    let env := Overridable.port.setTo "8500"
    Overridable.port.inEnvironment? env = some "8500" ∧ ("8500" : Text) ≠ [] ∧
      load env (settingsAre "web_port: 9000\n") = load env (settingsAre "web_port: 3.7\n") ∧
      ∃ e, load env (settingsAre "web_port: many\n") = .error e := by
  intro env
  obtain ⟨same, wrong⟩ := load_of_overridden .port
  have directory := directory_setTo .port "8500"
  have nonempty : ("8500" : Text) ≠ [] := by decide
  let Valid (es : Yaml.Entries) : Prop := SaysOnly Overridable.port.key es ∧
    ∀ v ∈ es.get? Overridable.port.key, Overridable.port.Suits v
  obtain ⟨es, holds, only, suits⟩ :=
    exists_holds (settingsAre "web_port: 9000\n") Valid directory (by decide +kernel)
  obtain ⟨es', holds', only', suits'⟩ :=
    exists_holds (settingsAre "web_port: 3.7\n") Valid directory (by decide +kernel)
  obtain ⟨many, holdsMany, unsuited⟩ :=
    exists_holds (settingsAre "web_port: many\n")
      (fun es => ∃ v ∈ es.get? Overridable.port.key, ¬ Overridable.port.Suits v)
      directory (by decide +kernel)
  obtain ⟨e, fails⟩ := wrong many unsuited
  exact ⟨rfl, nonempty,
    same env _ _ es es' "8500" holds holds' rfl nonempty (only.agreeBut only') suits suits',
    e, fails env _ _ directory holdsMany⟩

/-- A file that names no format is an error although the environment names one, and a file that names
a format, and differs in nothing else, is not. -/
theorem load_of_overridden_unknown :
    let env := Overridable.format.setTo "json"
    let wrong := settingsAre "output_format: xml\n"
    let right := settingsAre "output_format: text\n"
    Overridable.format.inEnvironment? env = some "json" ∧ ("json" : Text) ≠ [] ∧
      (∃ es es', Holds env wrong es ∧ Holds env right es' ∧ AgreeBut "output_format" es es') ∧
      load env wrong ≠ load env right ∧
      (load env right).toOption.map Settings.format = some .json := by
  intro env wrong right
  have directory := directory_setTo .format "json"
  have loaded : (load env right).toOption.map Settings.format = some .json := by decide +kernel
  have failed : (load env wrong).toOption.map Settings.format = none := by decide +kernel
  obtain ⟨es, holds, only⟩ :=
    exists_holds wrong (SaysOnly "output_format") directory (by decide +kernel)
  obtain ⟨es', holds', only'⟩ :=
    exists_holds right (SaysOnly "output_format") directory (by decide +kernel)
  refine ⟨rfl, by decide, ⟨es, es', holds, holds', only.agreeBut only'⟩, fun same => ?_, loaded⟩
  rw [same, loaded] at failed
  cases failed

end Settings

end RobotsExclusion
