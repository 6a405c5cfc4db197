import RobotsExclusion.Report
import Mathlib.Data.List.Basic

/-!
# Findings sorted by severity

A report holds what was found, errors and warnings apart. Sorting loses nothing and adds nothing.
Findings can be moved to other lines, which changes nothing but the number that they carry.

## Main definitions

* `Finding.onLine`, `Finding.below` — a finding moved to a line, or down by a number of lines
* `Finds` — a search in a line that finds so much at most and only passes the number of the line on
* `Report.numbered` — what a report says about single lines

## Main results

* `Report.count_findings_ofFindings` — every finding is reported as often as it was found
* `Report.mem_findings_ofFindings_iff` — and so those that are reported are those that were found
-/

namespace RobotsExclusion

namespace Finding

variable {fs : List Finding}

@[simp] theorem severity_error (line : Int) (message : Text) :
    (error line message).severity = .error := rfl

@[simp] theorem severity_warning (line : Int) (message : Text) :
    (warning line message).severity = .warning := rfl

theorem filter_error_eq_nil (h : ∀ f ∈ fs, f.severity = .warning) :
    fs.filter (·.severity = .error) = [] := by
  refine List.filter_eq_nil_iff.2 fun f hf => ?_
  simp [h f hf]

theorem filter_error_eq_self (h : ∀ f ∈ fs, f.severity = .error) :
    fs.filter (·.severity = .error) = fs :=
  List.filter_eq_self.2 fun f hf => decide_eq_true (h f hf)

theorem filter_warning_eq_nil (h : ∀ f ∈ fs, f.severity = .error) :
    fs.filter (·.severity = .warning) = [] := by
  refine List.filter_eq_nil_iff.2 fun f hf => ?_
  simp [h f hf]

theorem filter_warning_eq_self (h : ∀ f ∈ fs, f.severity = .warning) :
    fs.filter (·.severity = .warning) = fs :=
  List.filter_eq_self.2 fun f hf => decide_eq_true (h f hf)

/-! ### Moving findings -/

/-- The same finding about the line with a number. -/
def onLine (number : Int) (f : Finding) : Finding := { f with line := number }

/-- The same finding so many lines further down. -/
def below (count : Nat) (f : Finding) : Finding := { f with line := f.line + count }

theorem below_onLine (count : Nat) (number : Int) (f : Finding) :
    (f.onLine number).below count = f.onLine (count + number) :=
  congrArg (f.onLine ·) (Int.add_comm _ _)

theorem below_below (count more : Nat) (f : Finding) :
    (f.below count).below more = f.below (count + more) := by
  have sum : f.line + count + more = f.line + (count + more : Nat) := by omega
  exact congrArg (fun line => { f with line := line }) sum

end Finding

/-! ### Searches in a line -/

/-- A search in a line finds so much at most, and the number of the line is only passed on to what
it finds. -/
structure Finds (most : Nat) (search : Int → List Finding) : Prop where
  eq_map : ∀ number, search number = (search 0).map (Finding.onLine number)
  length_le : ∀ number, (search number).length ≤ most

namespace Finds

variable {most more : Nat} {search other : Int → List Finding} {number : Int} {f : Finding}

theorem nil : Finds most fun _ => [] := ⟨fun _ => rfl, fun _ => Nat.zero_le most⟩

theorem error (message : Text) : Finds 1 fun number => [.error number message] :=
  ⟨fun _ => rfl, fun _ => Nat.le_refl 1⟩

theorem warning (message : Text) : Finds 1 fun number => [.warning number message] :=
  ⟨fun _ => rfl, fun _ => Nat.le_refl 1⟩

theorem ite {p : Prop} [Decidable p] (h : Finds most search) (h' : Finds most other) :
    Finds most fun number => if p then search number else other number := by
  by_cases hp : p
  · simpa only [if_pos hp] using h
  · simpa only [if_neg hp] using h'

theorem append (h : Finds most search) (h' : Finds more other) :
    Finds (most + more) fun number => search number ++ other number := by
  refine ⟨fun number => ?_, fun number => ?_⟩
  · rw [List.map_append, ← h.eq_map, ← h'.eq_map]
  · rw [List.length_append]
    exact Nat.add_le_add (h.length_le number) (h'.length_le number)

theorem filter (h : Finds most search) (severity : Severity) :
    Finds most fun number => (search number).filter (·.severity = severity) := by
  refine ⟨fun number => ?_, fun number => ?_⟩
  · -- The severity of a finding stays when it is moved.
    rw [h.eq_map number, List.filter_map]
    rfl
  · exact Nat.le_trans (List.length_filter_le _ _) (h.length_le number)

theorem mono (h : Finds most search) (hle : most ≤ more) : Finds more search :=
  ⟨h.eq_map, fun number => Nat.le_trans (h.length_le number) hle⟩

/-- Whatever is found carries the number of the line. -/
theorem line_eq_of_mem (h : Finds most search) (hf : f ∈ search number) : f.line = number := by
  rw [h.eq_map number] at hf
  obtain ⟨g, -, rfl⟩ := List.mem_map.1 hf
  rfl

/-- Searching further down finds the same further down. -/
theorem add_eq (h : Finds most search) (count : Nat) (number : Int) :
    search (count + number) = (search number).map (Finding.below count) := by
  rw [h.eq_map (count + number), h.eq_map number, List.map_map]
  exact List.map_congr_left fun f _ => (Finding.below_onLine count number f).symm

end Finds

namespace Report

/-- What is said about single lines, and not about the document as a whole. -/
def numbered (r : Report) : Report :=
  ⟨r.errors.filter (1 ≤ ·.line), r.warnings.filter (1 ≤ ·.line)⟩

/-- The same report so many lines further down. -/
def below (count : Nat) (r : Report) : Report :=
  ⟨r.errors.map (Finding.below count), r.warnings.map (Finding.below count)⟩

/-- One report after another. -/
instance : Append Report := ⟨fun r s => ⟨r.errors ++ s.errors, r.warnings ++ s.warnings⟩⟩

/-- Every finding is reported as often as it was found. -/
theorem count_findings_ofFindings (fs : List Finding) (f : Finding) :
    (ofFindings fs).findings.count f = fs.count f := by
  cases hf : f.severity with
  | error =>
    have kept : (fs.filter (·.severity = .error)).count f = fs.count f :=
      List.count_filter (by simp [hf])
    have absent : f ∉ fs.filter (·.severity = .warning) := by simp [hf]
    simp only [findings, ofFindings, List.count_append, kept, List.count_eq_zero.2 absent,
      Nat.add_zero]
  | warning =>
    have kept : (fs.filter (·.severity = .warning)).count f = fs.count f :=
      List.count_filter (by simp [hf])
    have absent : f ∉ fs.filter (·.severity = .error) := by simp [hf]
    simp only [findings, ofFindings, List.count_append, kept, List.count_eq_zero.2 absent,
      Nat.zero_add]

/-- The findings of a report are those that were found. -/
theorem mem_findings_ofFindings_iff {fs : List Finding} {f : Finding} :
    f ∈ (ofFindings fs).findings ↔ f ∈ fs := by
  rw [← List.count_pos_iff, count_findings_ofFindings, List.count_pos_iff]

end Report

end RobotsExclusion
