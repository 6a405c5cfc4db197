import RobotsExclusion.Proofs.Check
import RobotsExclusion.Proofs.Check.Delay

/-!
# The verdict on a delay

A delay is judged by the longest numeral at its start. Without one it is no number at all, and
otherwise the exact value of the numeral decides: what is rounded to zero passes, even with a minus.

## Main results

* `Check.crawlDelay_of_unreadable`, `Check.crawlDelay_of_isLongest` — the verdict on values without
  and with a numeral at their start
* `Check.crawlDelay_classes` — the values of each verdict
-/

namespace RobotsExclusion.Check

open Numeral

variable {value p : Text} {number : Int}

/-- The warning about a delay that is no number. -/
def numberWarning (line : Int) : Finding := .warning line "crawl-delay value should be a number"

/-- The warning about a delay below zero. -/
def signWarning (line : Int) : Finding := .warning line "crawl-delay should not be negative"

theorem numberWarning_ne_signWarning : numberWarning number ≠ signWarning number := by
  intro same
  have texts : ("crawl-delay value should be a number" : Text) =
      "crawl-delay should not be negative" := congrArg Finding.message same
  exact absurd texts (by decide)

theorem crawlDelay_of_unreadable (h : ∀ p, IsLiteral p → ¬ p <+: value.trimLeft) :
    crawlDelay value number = [numberWarning number] := by
  rw [crawlDelay, delay?_eq_none_iff.2 h]
  rfl

/-- The sign that counts is that of the rounded number. -/
theorem crawlDelay_of_isLongest (h : IsLongest value.trimLeft p) (number : Int) :
    (IsBelowZero p → crawlDelay value number = [signWarning number]) ∧
      (¬ IsBelowZero p → crawlDelay value number = []) := by
  obtain ⟨n, hn⟩ := Option.isSome_iff_exists.1 (isSome_ofText?_of_isLiteral h.literal)
  have read : delay? value = some n.toBinary64 := by
    rw [delay?_of_isLongest h, hn, Option.map_some]
  rw [crawlDelay, read, ← isNegative_toBinary64_iff h.literal hn]
  exact ⟨fun below => if_pos below, fun above => if_neg above⟩

/-- There are three verdicts on a delay. It is no number if no numeral stands at its start; it is
negative if the longest one there has a minus and is infinite or denotes a number further from zero
than `2 ^ -1075`; and it passes with any other numeral. No delay is an error. -/
theorem crawlDelay_classes (value : Text) (number : Int) :
    (crawlDelay value number = [numberWarning number] ↔
      ∀ p, IsLiteral p → ¬ p <+: value.trimLeft) ∧
    (crawlDelay value number = [signWarning number] ↔
      ∃ p, IsLongest value.trimLeft p ∧ IsBelowZero p) ∧
    (crawlDelay value number = [] ↔ ∃ p, IsLongest value.trimLeft p ∧ ¬ IsBelowZero p) ∧
    crawlDelay value number ∈ [[numberWarning number], [signWarning number], []] ∧
    ∀ f ∈ crawlDelay value number, f.severity = .warning := by
  have apart : [numberWarning number] ≠ [signWarning number] := fun same =>
    numberWarning_ne_signWarning (List.cons.inj same).1
  have warned (f : Finding) : [f] ≠ [] := List.cons_ne_nil f []
  have harmless : ∀ f ∈ crawlDelay value number, f.severity = .warning :=
    fun _ => severity_of_mem_crawlDelay
  -- Either no numeral is read, or the longest one, and of that there is no other.
  cases hread : leading? value.trimLeft with
  | none =>
    have unreadable := leading?_eq_none_iff.1 hread
    have nothing {q : Text} : ¬ IsLongest value.trimLeft q := fun hq =>
      unreadable q hq.literal hq.starts
    rw [crawlDelay_of_unreadable unreadable] at harmless ⊢
    refine ⟨iff_of_true rfl unreadable, iff_of_false apart ?_, iff_of_false (warned _) ?_,
      by simp, harmless⟩
    · exact fun ⟨q, hq, _⟩ => nothing hq
    · exact fun ⟨q, hq, _⟩ => nothing hq
  | some p =>
    have longest := leading?_eq_some_iff.1 hread
    have readable : ¬ ∀ q, IsLiteral q → ¬ q <+: value.trimLeft := fun none =>
      none p longest.literal longest.starts
    obtain ⟨negative, positive⟩ := crawlDelay_of_isLongest longest number
    by_cases below : IsBelowZero p
    · rw [negative below] at harmless ⊢
      refine ⟨iff_of_false apart.symm readable, iff_of_true rfl ⟨p, longest, below⟩,
        iff_of_false (warned _) ?_, by simp, harmless⟩
      rintro ⟨q, hq, above⟩
      exact above (longest.unique hq ▸ below)
    · rw [positive below] at harmless ⊢
      refine ⟨iff_of_false (warned _).symm readable, iff_of_false (warned _).symm ?_,
        iff_of_true rfl ⟨p, longest, below⟩, by simp, harmless⟩
      rintro ⟨q, hq, above⟩
      exact below (longest.unique hq ▸ above)

/-- The verdict changes halfway between zero and the least negative number of the format. -/
example : crawlDelay " -2.4703282292062327e-324s" 1 = [] ∧
    crawlDelay " -2.4703282292062328e-324s" 1 = [signWarning 1] := by decide +kernel

end RobotsExclusion.Check
