import RobotsExclusion.Proofs.Settings

/-!
# Where the address and the port come from

The server listens on the loopback address, whatever the file and the environment say. Its port comes
from the environment, or else from the file. Of the file, the entries under four keys are looked at,
and no others: files that agree on these give the same settings.

## Main definitions

* `Settings.GivesPort` — the port that the environment and the file give
* `Settings.Agree` — entries that are the same under the keys that are looked at
* `Settings.Holds` — the file with the settings has certain entries

## Main results

* `Settings.host_of_load`, `Settings.givesPort_of_load` — the address and the port
* `Settings.under_congr`, `Settings.load_congr` — entries under other keys do not matter
-/

namespace RobotsExclusion

/-! ### Variables that count -/

namespace Environment

variable {setting : Option Text} {t : Text}

theorem given_eq_some_iff : given setting = some t ↔ setting = some t ∧ t ≠ [] := by
  rw [given, Option.filter_eq_some_iff]
  simp

theorem given_eq_none_iff : given setting = none ↔ setting = none ∨ setting = some [] := by
  rw [given]
  cases setting with
  | none => simp
  | some t => simp [Option.filter_eq_none_iff]

end Environment

namespace Settings

variable {env : Environment} {files files' : Files} {directory : Path} {es es' : Yaml.Entries}
  {s s' : Settings}

/-! ### What counts of the file and of the environment -/

/-- The port that the environment gives if it says anything, or else the file. -/
inductive GivesPort (env : Environment) (es : Yaml.Entries) : Int → Prop
  | environment {t : Text} {port : Int} : env.port = some t → t ≠ [] →
      Integer.ofText 10 t = .ok port → GivesPort env es port
  | file {v : Yaml.Value} {port : Int} : env.port = none ∨ env.port = some [] →
      es.get? "web_port" = some v → portOfValue v = .ok port → GivesPort env es port
  | standard : env.port = none ∨ env.port = some [] → es.get? "web_port" = none →
      GivesPort env es 8471

/-- The keys whose entries are looked at. -/
def keys : List Text := ["output_format", "strict", "web_port", "verbose"]

/-- The same entries under the keys that are looked at. Under all others there may be anything. -/
def Agree (es es' : Yaml.Entries) : Prop := ∀ key ∈ keys, es.get? key = es'.get? key

theorem host_of_override (h : override env s = .ok s') : s'.host = s.host := by
  obtain ⟨format, port, -, -, rfl⟩ := exists_of_override h
  rfl

theorem port_of_override (h : override env s = .ok s') :
    ((Environment.given env.port).map portOfText).getD (.ok s.port) = .ok s'.port := by
  obtain ⟨format, port, hport, -, rfl⟩ := exists_of_override h
  exact hport

variable [Yaml.Implementation]

/-! ### The address -/

/-- Neither the entries of a file nor the environment move the server to another address. -/
theorem host_of_ofEntries (h : ofEntries directory es = .ok s) : s.host = loopback := by
  obtain ⟨name, format, port, -, -, -, rfl⟩ := exists_of_ofEntries h
  rfl

/-- The server listens on the loopback address. -/
theorem host_of_load (h : load env files = .ok s) : s.host = loopback := by
  rw [load_eq] at h
  obtain ⟨directory, -, h⟩ := bind_eq_ok_iff.1 h
  obtain ⟨es, -, h⟩ := bind_eq_ok_iff.1 h
  obtain ⟨s₀, hs₀, h⟩ := bind_eq_ok_iff.1 h
  rw [host_of_override h, host_of_ofEntries hs₀]

/-! ### The port -/

theorem port_of_ofEntries (h : ofEntries directory es = .ok s) :
    ((es.get? "web_port").map portOfValue).getD (.ok defaultPort) = .ok s.port := by
  obtain ⟨name, format, port, -, hport, -, rfl⟩ := exists_of_ofEntries h
  exact hport

/-- The environment comes before the file, and the file before the port if nothing is said. -/
theorem givesPort_of_load (h : load env files = .ok s) :
    ∃ directory es, env.directory = .ok directory ∧ fileEntries files directory = .ok es ∧
      GivesPort env es s.port := by
  rw [load_eq] at h
  obtain ⟨directory, hdirectory, h⟩ := bind_eq_ok_iff.1 h
  obtain ⟨es, hes, h⟩ := bind_eq_ok_iff.1 h
  obtain ⟨s₀, hs₀, h⟩ := bind_eq_ok_iff.1 h
  refine ⟨directory, es, hdirectory, hes, ?_⟩
  -- The port of the file is converted even where the environment overrides it.
  have fromFile := port_of_ofEntries hs₀
  have fromEnvironment := port_of_override h
  cases hgiven : Environment.given env.port with
  | some t =>
    rw [hgiven] at fromEnvironment
    obtain ⟨set, nonempty⟩ := Environment.given_eq_some_iff.1 hgiven
    exact .environment set nonempty (mapError_eq_ok_iff.1 fromEnvironment)
  | none =>
    rw [hgiven] at fromEnvironment
    obtain same : s₀.port = s.port := Except.ok.inj fromEnvironment
    have unset := Environment.given_eq_none_iff.1 hgiven
    rw [same] at fromFile
    cases hv : es.get? "web_port" with
    | some v =>
      rw [hv] at fromFile
      exact .file unset hv fromFile
    | none =>
      rw [hv] at fromFile
      obtain standard : defaultPort = s.port := Except.ok.inj fromFile
      exact standard ▸ .standard unset hv

/-! ### Entries that are not looked at -/

/-- The settings that the environment gives together with the entries of a file. -/
def under (env : Environment) (es : Yaml.Entries) : Except Error Settings := do
  let directory ← env.directory
  let s ← ofEntries directory es
  override env s

/-- The file with the settings has these entries, wherever the environment places it. -/
def Holds (env : Environment) (files : Files) (es : Yaml.Entries) : Prop :=
  ∀ directory, env.directory = .ok directory → fileEntries files directory = .ok es

theorem ofEntries_congr (h : Agree es es') : ofEntries directory es = ofEntries directory es' := by
  have format := h "output_format" (by decide)
  have strict := h "strict" (by decide)
  have port := h "web_port" (by decide)
  have verbose := h "verbose" (by decide)
  rw [ofEntries, format, strict, port, verbose, ofEntries]

/-- Entries under other keys do not matter. -/
theorem under_congr (h : Agree es es') : under env es = under env es' := by
  simp only [under, ofEntries_congr h]

theorem load_of_holds (h : Holds env files es) : load env files = under env es := by
  rw [load_eq, under]
  cases hdirectory : env.directory with
  | error e => rfl
  | ok directory =>
    change fileEntries files directory >>= _ = _
    rw [h directory hdirectory]
    rfl

/-- What can be computed from the entries of a file is true of the entries that it has. -/
theorem exists_holds (files : Files) (p : Yaml.Entries → Prop) [DecidablePred p]
    (hdirectory : env.directory = .ok directory)
    (h : (fileEntries files directory).toOption.map (fun es => decide (p es)) = some true) :
    ∃ es, Holds env files es ∧ p es := by
  cases hes : fileEntries files directory with
  | error e =>
    rw [hes] at h
    cases h
  | ok es =>
    rw [hes] at h
    refine ⟨es, fun directory' hdirectory' => ?_, of_decide_eq_true (Option.some.inj h)⟩
    obtain rfl := Except.ok.inj (hdirectory.symm.trans hdirectory')
    exact hes

/-- Files that agree on what is looked at give the same settings. -/
theorem load_congr (h : Holds env files es) (h' : Holds env files' es') (agree : Agree es es') :
    load env files = load env files' := by
  rw [load_of_holds h, under_congr agree, load_of_holds h']

end Settings

end RobotsExclusion
