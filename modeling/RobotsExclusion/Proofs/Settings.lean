import RobotsExclusion.Proofs.Except
import RobotsExclusion.Settings
import Mathlib.Logic.Basic

/-!
# Where settings come from, and how they fail

Settings are loaded in three steps: the file gives entries, the entries give settings, and the
environment changes these. Most of what can be wrong is an error about a value, which is reported.
What is not is wrong in the file: its text breaks the rules of the format, its output format is
nested too deeply to be written, or its port is infinite or of a kind that has no integers. Nothing
in the environment has this effect. All this holds of every implementation of YAML.

## Main definitions

* `Settings.fileEntries` — the entries of the file with the settings
* `Settings.Breaks` — what is wrong in a file and is no error about a value
* `Settings.DemandsStrictness` — the environment or the file switches strictness on

## Main results

* `Settings.load_eq` — the three steps
* `Settings.load_breaks_iff` — when loading fails with an error that is not about a value
* `Settings.strict_of_load_iff` — when the settings are strict
-/

namespace RobotsExclusion

/-- The faults in a text that are about the value of a scalar, or about an escape that stands for no
code point, or that an implementation takes for such. -/
inductive Yaml.Error.IsOverValue : Yaml.Error → Prop
  | escape : IsOverValue .escapeOutOfRange
  | integer (e : Integer.Error) : IsOverValue (.integer e)
  | number (shown : Text) : IsOverValue (.number shown)
  | date (part : DatePart) : IsOverValue (.date part)
  | other (shown : Text) : IsOverValue (.other true shown)

/-- A value that integers are not made of: nothing at all, a point in time, or a collection. -/
def Yaml.Value.HasNoInteger : Yaml.Value → Prop
  | .scalar .null | .scalar (.time _) => True
  | .scalar _ => False
  | _ => True

namespace Settings

variable {env : Environment} {files : Files} {directory : Path} {contents : Bytes}
  {es : Yaml.Entries} {s s' : Settings} {e : Error} {t : Text} {v : Yaml.Value}

/-! ### Errors about a value -/

theorem isAboutValue_yaml_iff {e : Yaml.Error} :
    (Error.yaml e).isAboutValue = true ↔ e.IsOverValue := by
  cases e with
  | escapeOutOfRange => exact iff_of_true rfl .escape
  | integer e => exact iff_of_true rfl (.integer e)
  | number shown => exact iff_of_true rfl (.number shown)
  | date part => exact iff_of_true rfl (.date part)
  | other aboutValue shown =>
    cases aboutValue with
    | true => exact iff_of_true rfl (.other shown)
    | false =>
      refine iff_of_false Bool.noConfusion ?_
      rintro ⟨⟩
  | malformed | escapeTooLarge | emptyNumber | tooManyPlaces | truth | timestamp =>
    refine iff_of_false Bool.noConfusion ?_
    rintro ⟨⟩

/-- An error about a value is told in words. -/
theorem exists_message (h : e.isAboutValue = true) : ∃ message, e.message? = some message := by
  cases e with
  | noHome | deepFormat | infinitePort | portKind => cases h
  | yaml e =>
    cases e with
    | malformed | escapeTooLarge | emptyNumber | tooManyPlaces | truth | timestamp => cases h
    | escapeOutOfRange | integer | number | date | other => exact ⟨_, rfl⟩
  | undecodable | notMapping | unknownFormat | longFormat | port | undefinedPort => exact ⟨_, rfl⟩

theorem isAboutValue_of_portOfText (h : portOfText t = .error e) : e.isAboutValue = true := by
  obtain ⟨f, -, rfl⟩ := mapError_eq_error_iff.1 h
  rfl

theorem isAboutValue_of_formatOfName (h : formatOfName t = .error e) : e.isAboutValue = true := by
  rw [formatOfName] at h
  split at h
  · cases h
  · obtain rfl := Except.error.inj h
    rfl

theorem isAboutValue_of_entries {path : Path} (h : entries path v = .error e) :
    e.isAboutValue = true := by
  unfold entries at h
  split at h
  · cases h
  · split at h
    · cases h
    · obtain rfl := Except.error.inj h
      rfl

theorem portOfValue_of_hasNoInteger (h : v.HasNoInteger) :
    portOfValue v = .error (.portKind v.kind) := by
  cases v with
  | scalar s =>
    cases s with
    | null | time => rfl
    | bool | int | float | text | bytes => cases h
  | list | pairs | set | mapping | enclosing => rfl

/-- A port is wrong other than by its value if it is infinite or of a kind without integers. -/
theorem portOfValue_breaks (h : portOfValue v = .error e) (breaking : ¬ e.isAboutValue = true) :
    (∃ negative, v = .scalar (.float (.infinite negative)) ∧ e = .infinitePort) ∨
      v.HasNoInteger ∧ e = .portKind v.kind := by
  cases v with
  | scalar s =>
    cases s with
    | null | time => exact .inr ⟨trivial, (Except.error.inj h).symm⟩
    | bool | int => cases h
    | text t => exact absurd (isAboutValue_of_portOfText h) breaking
    | bytes bs =>
      obtain ⟨f, -, rfl⟩ := mapError_eq_error_iff.1 h
      exact absurd rfl breaking
    | float x =>
      cases x with
      | nan =>
        obtain rfl := Except.error.inj h
        exact absurd rfl breaking
      | infinite negative => exact .inl ⟨negative, rfl, (Except.error.inj h).symm⟩
      | finite => cases h
  | list | pairs | set | mapping | enclosing => exact .inr ⟨trivial, (Except.error.inj h).symm⟩

/-- Without a home, there is nothing to tell about a value. -/
theorem not_isAboutValue_of_directory (h : env.directory = .error e) :
    ¬ e.isAboutValue = true := by
  rw [Environment.directory] at h
  split at h
  · cases h
  · rcases bind_eq_error_iff.1 h with h | ⟨home, -, h⟩
    · rw [Environment.homeDirectory] at h
      split at h
      · obtain rfl := Except.error.inj h
        exact Bool.noConfusion
      · rcases ite_eq_iff.1 h with ⟨-, h⟩ | ⟨-, h⟩
        · obtain rfl := Except.error.inj h
          exact Bool.noConfusion
        · cases h
    · cases h

/-! ### The environment -/

/-- What the environment changes. -/
theorem exists_of_override (h : override env s = .ok s') : ∃ format port,
    ((Environment.given env.port).map portOfText).getD (.ok s.port) = .ok port ∧
    ((Environment.given env.outputFormat).map formatOfName).getD (.ok s.format) = .ok format ∧
    s' = { s with
      format
      port
      strict := ((Environment.given env.strict).map fun t => trueWords.contains t.lower).getD
        s.strict } := by
  obtain ⟨port, hport, h⟩ := bind_eq_ok_iff.1 h
  obtain ⟨format, hformat, h⟩ := bind_eq_ok_iff.1 h
  exact ⟨format, port, hport, hformat, (Except.ok.inj h).symm⟩

theorem strict_of_override (h : override env s = .ok s') :
    s'.strict = ((Environment.given env.strict).map fun t => trueWords.contains t.lower).getD
      s.strict := by
  obtain ⟨format, port, -, -, rfl⟩ := exists_of_override h
  rfl

/-- Nothing in the environment is wrong other than a value. -/
theorem isAboutValue_of_override (h : override env s = .error e) : e.isAboutValue = true := by
  rw [override] at h
  rcases bind_eq_error_iff.1 h with h | ⟨port, -, h⟩
  · obtain ⟨t, -, h⟩ := getD_map_eq_error_iff.1 h
    exact isAboutValue_of_portOfText h
  · rcases bind_eq_error_iff.1 h with h | ⟨format, -, h⟩
    · obtain ⟨t, -, h⟩ := getD_map_eq_error_iff.1 h
      exact isAboutValue_of_formatOfName h
    · cases h

variable [Yaml.Implementation]

/-! ### The steps of loading -/

/-- The entries that the bytes of a file hold. -/
def entriesOf (directory : Path) (contents : Bytes) : Except Error Yaml.Entries := do
  let text ← (Utf8.decode contents).mapError .undecodable
  let value ← (Yaml.Implementation.read (normalizeLineEnds text)).mapError .yaml
  entries (file directory) value

/-- The entries of the file with the settings. There are none without a file. -/
def fileEntries (files : Files) (directory : Path) : Except Error Yaml.Entries :=
  ((files.read? (file directory).toText).map (entriesOf directory)).getD (.ok [])

theorem ofBytes_eq (directory : Path) (contents : Bytes) :
    ofBytes directory contents = entriesOf directory contents >>= ofEntries directory := by
  simp only [ofBytes, entriesOf, bind_assoc]

/-- The file gives entries, the entries give settings, and the environment changes these. -/
theorem load_eq (env : Environment) (files : Files) :
    load env files = env.directory >>= fun directory => fileEntries files directory >>= fun es =>
      ofEntries directory es >>= override env := by
  rw [load]
  refine congrArg (env.directory >>= ·) (funext fun directory => ?_)
  rw [fileEntries]
  cases files.read? (file directory).toText with
  | none =>
    -- Without entries, nothing is said.
    rfl
  | some contents =>
    rw [Option.map_some, Option.map_some, Option.getD_some, Option.getD_some, ofBytes_eq, bind_assoc]

/-- Where nothing is set, the settings are those if nothing is said. -/
theorem load_of_unset (hdirectory : env.directory = .ok directory)
    (hfile : files.read? (file directory).toText = none) (hformat : env.outputFormat = none)
    (hstrict : env.strict = none) (hport : env.port = none) :
    load env files = .ok (default directory) := by
  rw [load_eq, hdirectory]
  change fileEntries files directory >>= _ = _
  rw [fileEntries, hfile]
  change override env (default directory) = _
  rw [override, hformat, hstrict, hport]
  rfl

/-- What entries give, each by its key. -/
theorem exists_of_ofEntries (h : ofEntries directory es = .ok s) : ∃ name format port,
    ((es.get? "output_format").map formatText).getD (.ok OutputFormat.table.name) = .ok name ∧
    ((es.get? "web_port").map portOfValue).getD (.ok defaultPort) = .ok port ∧
    formatOfName name = .ok format ∧
    s = { default directory with
      format
      port
      strict := ((es.get? "strict").map Yaml.Value.isTrue).getD false
      verbose := ((es.get? "verbose").map Yaml.Value.isTrue).getD false } := by
  obtain ⟨name, hname, h⟩ := bind_eq_ok_iff.1 h
  obtain ⟨port, hport, h⟩ := bind_eq_ok_iff.1 h
  obtain ⟨format, hformat, h⟩ := bind_eq_ok_iff.1 h
  exact ⟨name, format, port, hname, hport, hformat, (Except.ok.inj h).symm⟩

/-! ### Errors that are not about a value -/

/-- What is wrong in a file and is no error about a value. The output format is made a text before
the port is looked at. -/
inductive Breaks (directory : Path) (contents : Bytes) : Error → Prop
  | malformed {text : Text} {e : Yaml.Error} : Utf8.decode contents = .ok text →
      Yaml.Implementation.read (normalizeLineEnds text) = .error e → ¬ e.IsOverValue →
      Breaks directory contents (.yaml e)
  | deepFormat {es : Yaml.Entries} {v : Yaml.Value} : entriesOf directory contents = .ok es →
      es.get? "output_format" = some v → Yaml.Implementation.canWrite v = false →
      Breaks directory contents .deepFormat
  | infinitePort {es : Yaml.Entries} {negative : Bool} : entriesOf directory contents = .ok es →
      (∀ v ∈ es.get? "output_format", ∃ name, formatText v = .ok name) →
      es.get? "web_port" = some (.scalar (.float (.infinite negative))) →
      Breaks directory contents .infinitePort
  | portKind {es : Yaml.Entries} {v : Yaml.Value} : entriesOf directory contents = .ok es →
      (∀ v ∈ es.get? "output_format", ∃ name, formatText v = .ok name) →
      es.get? "web_port" = some v → v.HasNoInteger → Breaks directory contents (.portKind v.kind)

/-- The text of a value is wrong other than by the value if this is nested too deeply. -/
theorem formatText_breaks_iff : formatText v = .error e ∧ ¬ e.isAboutValue = true ↔
    Yaml.Implementation.canWrite v = false ∧ e = .deepFormat := by
  cases writable : Yaml.Implementation.canWrite v with
  | true =>
    rw [formatText, if_pos writable]
    refine iff_of_false ?_ (Bool.noConfusion ·.1)
    rintro ⟨h, breaking⟩
    cases htext : v.toText? with
    | none =>
      rw [htext] at h
      obtain rfl := Except.error.inj h
      exact breaking rfl
    | some text =>
      rw [htext] at h
      cases h
  | false =>
    have unwritten : formatText v = .error .deepFormat := if_neg (Bool.eq_false_iff.1 writable)
    rw [unwritten]
    constructor
    · rintro ⟨h, -⟩
      exact ⟨rfl, (Except.error.inj h).symm⟩
    · rintro ⟨-, rfl⟩
      exact ⟨rfl, Bool.noConfusion⟩

/-- Of the entries of a file, the format and the port alone are wrong other than by their values. -/
theorem ofEntries_breaks (h : ofEntries directory es = .error e)
    (breaking : ¬ e.isAboutValue = true) :
    (∃ v, es.get? "output_format" = some v ∧ formatText v = .error e) ∨
      (∀ v ∈ es.get? "output_format", ∃ name, formatText v = .ok name) ∧
        ∃ v, es.get? "web_port" = some v ∧ portOfValue v = .error e := by
  rw [ofEntries] at h
  rcases bind_eq_error_iff.1 h with h | ⟨name, hname, h⟩
  · exact .inl (getD_map_eq_error_iff.1 h)
  · refine .inr ⟨fun v hv => ?_, ?_⟩
    · rw [Option.mem_def.1 hv, Option.map_some, Option.getD_some] at hname
      exact ⟨name, hname⟩
    · rcases bind_eq_error_iff.1 h with h | ⟨port, -, h⟩
      · exact getD_map_eq_error_iff.1 h
      · -- The name of the format is looked up behind the port, and can only be an unknown one.
        rcases bind_eq_error_iff.1 h with h | ⟨format, -, h⟩
        · exact absurd (isAboutValue_of_formatOfName h) breaking
        · cases h

theorem ofEntries_of_format (hformat : es.get? "output_format" = some v)
    (h : formatText v = .error e) : ofEntries directory es = .error e := by
  rw [ofEntries, hformat, Option.map_some, Option.getD_some, h]
  rfl

theorem ofEntries_of_port (hformat : ∀ v ∈ es.get? "output_format", ∃ name, formatText v = .ok name)
    (hport : es.get? "web_port" = some v) (h : portOfValue v = .error e) :
    ofEntries directory es = .error e := by
  rw [ofEntries, hport]
  cases hname : es.get? "output_format" with
  | none => rw [Option.map_some, Option.getD_some, h]; rfl
  | some w =>
    obtain ⟨name, named⟩ := hformat w hname
    rw [Option.map_some, Option.getD_some, named, Option.map_some, Option.getD_some, h]
    rfl

/-- A file is wrong other than by a value exactly in the ways that `Breaks` lists. -/
theorem ofBytes_breaks_iff :
    ofBytes directory contents = .error e ∧ ¬ e.isAboutValue = true ↔
      Breaks directory contents e := by
  rw [ofBytes_eq]
  constructor
  · rintro ⟨h, breaking⟩
    rcases bind_eq_error_iff.1 h with h | ⟨es, hes, h⟩
    · rw [entriesOf] at h
      rcases bind_eq_error_iff.1 h with h | ⟨text, htext, h⟩
      · obtain ⟨f, -, rfl⟩ := mapError_eq_error_iff.1 h
        exact absurd rfl breaking
      · rcases bind_eq_error_iff.1 h with h | ⟨value, -, h⟩
        · obtain ⟨f, hvalue, rfl⟩ := mapError_eq_error_iff.1 h
          exact .malformed (mapError_eq_ok_iff.1 htext) hvalue (mt isAboutValue_yaml_iff.2 breaking)
        · exact absurd (isAboutValue_of_entries h) breaking
    · rcases ofEntries_breaks h breaking with ⟨v, hformat, herror⟩ | ⟨hformat, v, hport, herror⟩
      · obtain ⟨deep, rfl⟩ := formatText_breaks_iff.1 ⟨herror, breaking⟩
        exact .deepFormat hes hformat deep
      · rcases portOfValue_breaks herror breaking with ⟨negative, rfl, rfl⟩ | ⟨kind, rfl⟩
        · exact .infinitePort hes hformat hport
        · exact .portKind hes hformat hport kind
  · intro h
    cases h with
    | malformed htext hvalue fault =>
      refine ⟨bind_eq_error_iff.2 (.inl ?_), mt isAboutValue_yaml_iff.1 fault⟩
      rw [entriesOf, htext]
      refine bind_eq_error_iff.2 (.inr ⟨_, rfl, bind_eq_error_iff.2 (.inl ?_)⟩)
      exact mapError_eq_error_iff.2 ⟨_, hvalue, rfl⟩
    | deepFormat hes hformat deep =>
      obtain ⟨herror, breaking⟩ := formatText_breaks_iff.2 ⟨deep, rfl⟩
      exact ⟨bind_eq_error_iff.2 (.inr ⟨_, hes, ofEntries_of_format hformat herror⟩), breaking⟩
    | infinitePort hes hformat hport =>
      exact ⟨bind_eq_error_iff.2 (.inr ⟨_, hes, ofEntries_of_port hformat hport rfl⟩),
        Bool.noConfusion⟩
    | portKind hes hformat hport kind =>
      have herror := portOfValue_of_hasNoInteger kind
      exact ⟨bind_eq_error_iff.2 (.inr ⟨_, hes, ofEntries_of_port hformat hport herror⟩),
        Bool.noConfusion⟩

/-- Loading fails with an error that is not about a value exactly if there is no place for a file,
or there is a file that is wrong in one of the ways that `Breaks` lists. -/
theorem load_breaks_iff :
    load env files = .error e ∧ ¬ e.isAboutValue = true ↔
      env.directory = .error e ∨
        ∃ directory contents, env.directory = .ok directory ∧
          files.read? (file directory).toText = some contents ∧ Breaks directory contents e := by
  constructor
  · rintro ⟨h, breaking⟩
    rcases bind_eq_error_iff.1 h with h | ⟨directory, hdirectory, h⟩
    · exact .inl h
    · refine .inr ⟨directory, ?_⟩
      rcases bind_eq_error_iff.1 h with h | ⟨s, -, h⟩
      · obtain ⟨contents, hfile, h⟩ := getD_map_eq_error_iff.1 h
        exact ⟨contents, hdirectory, hfile, ofBytes_breaks_iff.1 ⟨h, breaking⟩⟩
      · exact absurd (isAboutValue_of_override h) breaking
  · rintro (h | ⟨directory, contents, hdirectory, hfile, h⟩)
    · exact ⟨bind_eq_error_iff.2 (.inl h), not_isAboutValue_of_directory h⟩
    · obtain ⟨herror, breaking⟩ := ofBytes_breaks_iff.2 h
      refine ⟨bind_eq_error_iff.2 (.inr ⟨directory, hdirectory, ?_⟩), breaking⟩
      exact bind_eq_error_iff.2 (.inl (getD_map_eq_error_iff.2 ⟨contents, hfile, herror⟩))

/-! ### Strictness -/

/-- Strictness is switched on by the environment or, if the environment does not say anything, by
the file. -/
def DemandsStrictness (env : Environment) (files : Files) : Prop :=
  (∃ t, env.strict = some t ∧ t ≠ [] ∧ t.lower ∈ trueWords) ∨
    (env.strict = none ∨ env.strict = some []) ∧
      ∃ directory es v, env.directory = .ok directory ∧ fileEntries files directory = .ok es ∧
        es.get? "strict" = some v ∧ v.isTrue = true

theorem strict_of_ofEntries (h : ofEntries directory es = .ok s) :
    s.strict = true ↔ ∃ v, es.get? "strict" = some v ∧ v.isTrue = true := by
  obtain ⟨name, format, port, -, -, -, rfl⟩ := exists_of_ofEntries h
  cases es.get? "strict" with
  | none => simp
  | some v => simp

/-- The settings are strict if the environment or the file switches strictness on. -/
theorem strict_of_load_iff (h : load env files = .ok s) :
    s.strict = true ↔ DemandsStrictness env files := by
  rw [load_eq] at h
  obtain ⟨directory, hdirectory, h⟩ := bind_eq_ok_iff.1 h
  obtain ⟨es, hes, h⟩ := bind_eq_ok_iff.1 h
  obtain ⟨s₀, hs₀, h⟩ := bind_eq_ok_iff.1 h
  have fromFile : s₀.strict = true ↔ ∃ directory es v, env.directory = .ok directory ∧
      fileEntries files directory = .ok es ∧ es.get? "strict" = some v ∧ v.isTrue = true := by
    rw [strict_of_ofEntries hs₀]
    constructor
    · rintro ⟨v, hv, htrue⟩
      exact ⟨directory, es, v, hdirectory, hes, hv, htrue⟩
    · rintro ⟨directory', es', v, hdirectory', hes', hv, htrue⟩
      obtain rfl := Except.ok.inj (hdirectory.symm.trans hdirectory')
      obtain rfl := Except.ok.inj (hes.symm.trans hes')
      exact ⟨v, hv, htrue⟩
  rw [strict_of_override h, DemandsStrictness, ← fromFile]
  cases hstrict : env.strict with
  | none => simp [Environment.given]
  | some t =>
    cases t with
    | nil => simp [Environment.given, Option.filter]
    | cons c t => simp [Environment.given, Option.filter]

end Settings

end RobotsExclusion
