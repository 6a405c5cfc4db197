import RobotsExclusion.Check
import RobotsExclusion.Proofs.Report
import Mathlib.Tactic.SplitIfs

/-!
# What the checks of values say

Every finding of a check is about the line that the check is told. Paths and delays are never
errors, a user agent is one exactly if it is missing, and a sitemap unless it is an absolute URL of
a web scheme.

## Main definitions

* `Directive.checked` — what the check of a directive says about a value

## Main results

* `Directive.finds_checked` — how much is found in a value, all of it about the line of the value
* `Directive.filter_error_checked_eq_nil_iff` — the values without an error
* `Directive.filter_error_checked_eq_nil_or` — an error is found alone
-/

namespace RobotsExclusion

namespace Check

variable {value : Text} {number : Int} {f : Finding}

theorem severity_of_mem_userAgent (h : f ∈ userAgent value number) :
    f.severity = .error ↔ value = [] := by
  unfold userAgent at h
  split at h
  case isTrue hempty =>
    obtain rfl := List.mem_singleton.1 h
    exact iff_of_true rfl (List.isEmpty_iff.1 hempty)
  case isFalse hempty =>
    split at h
    case isTrue => cases h
    case isFalse =>
      obtain rfl := List.mem_singleton.1 h
      exact iff_of_false Severity.noConfusion fun hnil => hempty (List.isEmpty_iff.2 hnil)

theorem severity_of_mem_path (h : f ∈ path value number) : f.severity = .warning := by
  unfold path at h
  split at h
  case isTrue => cases h
  case isFalse =>
    rcases List.mem_append.1 h with h | h
    · rcases List.mem_append.1 h with h | h
      · split at h
        · cases h
        · obtain rfl := List.mem_singleton.1 h
          rfl
      · split at h
        · cases h
        · obtain rfl := List.mem_singleton.1 h
          rfl
    · split at h
      · obtain rfl := List.mem_singleton.1 h
        rfl
      · cases h

theorem severity_of_mem_sitemap (h : f ∈ sitemap value number) : f.severity = .error := by
  unfold sitemap at h
  split at h
  · obtain rfl := List.mem_singleton.1 h
    rfl
  · split at h
    · obtain rfl := List.mem_singleton.1 h
      rfl
    · split at h
      · cases h
      · obtain rfl := List.mem_singleton.1 h
        rfl

theorem severity_of_mem_crawlDelay (h : f ∈ crawlDelay value number) :
    f.severity = .warning := by
  unfold crawlDelay at h
  split at h
  · obtain rfl := List.mem_singleton.1 h
    rfl
  · split at h
    · obtain rfl := List.mem_singleton.1 h
      rfl
    · cases h

theorem filter_error_path (value : Text) (number : Int) :
    (path value number).filter (·.severity = .error) = [] :=
  Finding.filter_error_eq_nil fun _ hf => severity_of_mem_path hf

theorem filter_error_crawlDelay (value : Text) (number : Int) :
    (crawlDelay value number).filter (·.severity = .error) = [] :=
  Finding.filter_error_eq_nil fun _ hf => severity_of_mem_crawlDelay hf

/-! ### How much is found -/

theorem finds_userAgent (value : Text) : Finds 1 (userAgent value) := by
  unfold userAgent
  exact .ite (.error _) (.ite .nil (.warning _))

theorem finds_path (value : Text) : Finds 3 (path value) := by
  -- One finding for each of the three conditions on a path.
  have three : 3 = 1 + 1 + 1 := rfl
  unfold path
  rw [three]
  refine .ite .nil (.append (.append ?_ ?_) ?_)
  · exact .ite .nil (.warning _)
  · exact .ite .nil (.warning _)
  · exact .ite (.warning _) .nil

theorem finds_sitemap (value : Text) : Finds 1 (sitemap value) := by
  unfold sitemap
  refine .ite (.error _) ?_
  cases Url.absoluteScheme? value with
  | none => exact .error _
  | some scheme => exact .ite .nil (.error _)

theorem finds_crawlDelay (value : Text) : Finds 1 (crawlDelay value) := by
  unfold crawlDelay
  cases delay? value with
  | none => exact .warning _
  | some delay => exact .ite (.warning _) .nil

/-- An empty text is no URL, so it is enough to ask for the scheme. -/
theorem sitemap_eq_nil_iff (value : Text) (number : Int) :
    sitemap value number = [] ↔
      Url.absoluteScheme? value = some ("http" : Text) ∨
        Url.absoluteScheme? value = some ("https" : Text) := by
  unfold sitemap
  cases value with
  | nil => exact iff_of_false (by simp) (by decide)
  | cons c rest =>
    rw [if_neg (by simp)]
    cases Url.absoluteScheme? (c :: rest) with
    | none => simp
    | some scheme => simp [Url.webSchemes, or_iff_not_imp_left]

end Check

namespace Directive

variable {d : Directive} {value : Text} {number : Int} {f : Finding}

/-- What the check of a directive says about a value; a directive without a check says nothing. -/
def checked (d : Directive) (value : Text) (number : Int) : List Finding :=
  (d.check?.map fun check => check value number).getD []

/-- Behind the names that the standard does not define there is one finding at most. -/
theorem finds_checked (d : Directive) (value : Text) :
    Finds (if d.category = .standard then 3 else 1) (d.checked value) := by
  cases d with
  | userAgent => exact (Check.finds_userAgent value).mono (by decide)
  | disallow | allow => exact Check.finds_path value
  | sitemap => exact (Check.finds_sitemap value).mono (by decide)
  | crawlDelay => exact Check.finds_crawlDelay value
  | requestRate | visitTime | host | cleanParam => exact .nil

/-- The values in which no error is found. -/
theorem filter_error_checked_eq_nil_iff :
    (d.checked value number).filter (·.severity = .error) = [] ↔
      (d = .userAgent → value ≠ []) ∧ (d = .sitemap →
        Url.absoluteScheme? value = some ("http" : Text) ∨
          Url.absoluteScheme? value = some ("https" : Text)) := by
  cases d with
  | userAgent =>
    simp only [forall_const, reduceCtorEq, false_imp_iff, and_true]
    cases value with
    | nil => exact iff_of_false (by simp [checked, check?, Check.userAgent]) (by simp)
    | cons c rest =>
      refine iff_of_true (List.filter_eq_nil_iff.2 fun f hf => ?_) (by simp)
      have hsevere : f.severity = .error ↔ c :: rest = [] := Check.severity_of_mem_userAgent hf
      simp [hsevere]
  | disallow | allow => exact iff_of_true (Check.filter_error_path value number) (by simp)
  | sitemap =>
    have hsitemap : (Check.sitemap value number).filter (·.severity = .error) =
        Check.sitemap value number :=
      Finding.filter_error_eq_self fun f hf => Check.severity_of_mem_sitemap hf
    simp only [forall_const, reduceCtorEq, false_imp_iff, true_and]
    rw [← Check.sitemap_eq_nil_iff value number]
    exact hsitemap ▸ Iff.rfl
  | crawlDelay => exact iff_of_true (Check.filter_error_crawlDelay value number) (by simp)
  | requestRate | visitTime | host | cleanParam => simp [checked, check?]

/-- An error in a value is the only finding there, and stands behind a name that the standard
defines. -/
theorem filter_error_checked_eq_nil_or (d : Directive) (value : Text) :
    (∀ number, (d.checked value number).filter (·.severity = .error) = []) ∨
      d.category = .standard ∧ Finds 1 (d.checked value) := by
  cases d with
  | userAgent => exact .inr ⟨rfl, Check.finds_userAgent value⟩
  | sitemap => exact .inr ⟨rfl, Check.finds_sitemap value⟩
  | disallow | allow => exact .inl (Check.filter_error_path value)
  | crawlDelay => exact .inl (Check.filter_error_crawlDelay value)
  | requestRate | visitTime | host | cleanParam => exact .inl fun number => rfl

end Directive

end RobotsExclusion
