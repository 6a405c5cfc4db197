import RobotsExclusion.Check
import RobotsExclusion.Proofs.Numeral.End
import RobotsExclusion.Proofs.Numeral.Value
import RobotsExclusion.Proofs.Text.Blank

/-!
# The number at the start of a delay

A delay is read as the longest numeral that stands behind its first blanks, rounded to the nearest
number of the format. Blanks in front of a numeral and a text behind it in which it does not go on
change nothing.

## Main results

* `Check.delay?_of_isLongest` — the longest numeral decides
* `Check.delay?_eq_none_iff`, `Check.delay?_eq_some_iff` — the delays without and with a number
* `Check.delay?_append` — what stands around a numeral does not matter
* `Check.delay?_reads_longest` — all of this, and what is ignored behind a numeral
-/

namespace RobotsExclusion

namespace Numeral

/-- No numeral starts with a blank. -/
theorem IsLiteral.exists_head {n : Text} (h : IsLiteral n) :
    ∃ c rest, n = c :: rest ∧ c.isBlank = false := by
  cases h with
  | infinity hs => cases hs <;> exact ⟨_, _, rfl, by decide⟩
  | @decimal s m e hs hm he =>
    cases hs with
    | none =>
      obtain ⟨c, rest, rfl, digit | rfl⟩ := hm.exists_head
      · exact ⟨c, rest ++ e, rfl, CodePoint.isBlank_of_isDigit digit⟩
      · exact ⟨_, rest ++ e, rfl, by decide⟩
    | plus => exact ⟨_, m ++ e, rfl, by decide⟩
    | minus => exact ⟨_, m ++ e, rfl, by decide⟩

theorem IsLiteral.trimLeft_append {n : Text} (h : IsLiteral n) (u : Text) :
    (n ++ u).trimLeft = n ++ u := by
  obtain ⟨c, rest, rfl, visible⟩ := h.exists_head
  exact List.dropWhile_cons_of_neg (Bool.eq_false_iff.1 visible)

end Numeral

namespace Check

open Numeral

variable {value w n u p : Text} {x : Binary64}

/-- The longest numeral behind the blanks decides. -/
theorem delay?_of_isLongest (h : IsLongest value.trimLeft p) :
    delay? value = (ofText? p).map toBinary64 := by
  rw [delay?, leading?_eq_some_iff.2 h, Option.map_eq_bind]
  rfl

/-- A delay has no number exactly where no numeral stands behind its blanks. -/
theorem delay?_eq_none_iff :
    delay? value = none ↔ ∀ p, IsLiteral p → ¬ p <+: value.trimLeft := by
  rw [← leading?_eq_none_iff]
  cases read : leading? value.trimLeft with
  | none =>
    rw [delay?, read]
    exact iff_of_true rfl rfl
  | some p =>
    have longest := leading?_eq_some_iff.1 read
    obtain ⟨number, hnumber⟩ := exists_roundsTo longest.literal
    rw [delay?_of_isLongest longest, hnumber.map_ofText?]
    exact iff_of_false (Option.some_ne_none number) (Option.some_ne_none p)

/-- A delay has the number that the longest numeral behind its blanks is rounded to. -/
theorem delay?_eq_some_iff :
    delay? value = some x ↔ ∃ p, IsLongest value.trimLeft p ∧ RoundsTo p x := by
  constructor
  · intro number
    have readable : ¬ ∀ p, IsLiteral p → ¬ p <+: value.trimLeft := by
      rw [← delay?_eq_none_iff, number]
      exact Option.some_ne_none x
    obtain ⟨p, read⟩ := Option.ne_none_iff_exists'.1 (mt leading?_eq_none_iff.1 readable)
    have longest := leading?_eq_some_iff.1 read
    rw [delay?_of_isLongest longest, map_ofText?_eq_some_iff longest.literal] at number
    exact ⟨p, longest, number⟩
  · rintro ⟨p, longest, rounds⟩
    rw [delay?_of_isLongest longest, rounds.map_ofText?]

/-- Blanks in front of a numeral and a text behind it that no longer numeral reaches into do not
matter. -/
theorem delay?_append (hw : w.isBlank = true) (h : IsLongest (n ++ u) n) :
    delay? (w ++ n ++ u) = delay? n := by
  have behind : IsLongest (w ++ n ++ u).trimLeft n := by
    rwa [List.append_assoc, Text.trimLeft_append_of_isBlank hw, h.literal.trimLeft_append]
  have alone : IsLongest n.trimLeft n := by
    have untrimmed := h.literal.trimLeft_append []
    rw [List.append_nil] at untrimmed
    rw [untrimmed]
    exact ⟨h.literal, List.prefix_rfl, fun _ _ starts => starts.length_le⟩
  rw [delay?_of_isLongest behind, delay?_of_isLongest alone]

/-- A delay has no number if it starts with no numeral behind its blanks, and otherwise the number
that the longest one is rounded to. So the number of a numeral does not change with blanks in front
of it and with a text behind it, as long as no longer numeral reaches into that text; and none
reaches into an exponent without digits, a second point or a unit. -/
theorem delay?_reads_longest :
    (∀ value : Text,
      (delay? value = none ↔ ∀ p, IsLiteral p → ¬ p <+: value.trimLeft) ∧
      ∀ x, delay? value = some x ↔ ∃ p, IsLongest value.trimLeft p ∧ RoundsTo p x) ∧
    (∀ w n u : Text, w.isBlank = true → IsLiteral n →
      (∀ p, IsLiteral p → p <+: n ++ u → p.length ≤ n.length) →
      delay? (w ++ n ++ u) = delay? n) ∧
    ∀ w n u : Text, w.isBlank = true → IsLiteral n → IsIgnored n u →
      delay? (w ++ n ++ u) = delay? n := by
  refine ⟨fun value => ⟨delay?_eq_none_iff, fun x => delay?_eq_some_iff⟩, ?_, ?_⟩
  · intro w n u hw hn longest
    exact delay?_append hw ⟨hn, List.prefix_append n u, longest⟩
  · intro w n u hw hn ignored
    exact delay?_append hw (isLongest_append_iff.2 (ignored.ends hn))

/-- The start of an exponent, a second point and a unit are ignored, and the last one also where it
starts like an exponent. -/
theorem delay?_reads_longest_unfinished :
    delay? ("\t " ++ "1" ++ "e+") = delay? "1" ∧ delay? ("" ++ "1.5" ++ ".2") = delay? "1.5" ∧
    delay? (" " ++ "-3e2" ++ "s") = delay? "-3e2" ∧ delay? ("" ++ "7" ++ "em") = delay? "7" ∧
    delay? "1" = some (.finite false (2 ^ 52) (-52)) := by
  have numeral {t : Text} (h : leading? t = some t) : IsLiteral t := isLiteral_of_leading? h
  have start {c : CodePoint} {n u : Text} (letter : c = CodePoint.ofChar 'e')
      (h : exponent (c :: u) = []) : IsIgnored n (c :: u) :=
    .exponent (.inl letter) (exponent_eq_nil_iff.1 h)
  refine ⟨?_, ?_, ?_, ?_, by decide +kernel⟩
  · exact delay?_reads_longest.2.2 "\t " "1" "e+" (by decide) (numeral (by decide))
      (start rfl (by decide))
  · exact delay?_reads_longest.2.2 "" "1.5" ".2" (by decide) (numeral (by decide))
      (.point (by decide))
  · exact delay?_reads_longest.2.2 " " "-3e2" "s" (by decide) (numeral (by decide))
      (.unit (by decide) (by decide))
  · have longest : IsLongest ("7" ++ "em" : Text) "7" := isLongest_of_leading? (by decide)
    exact delay?_reads_longest.2.1 "" "7" "em" (by decide) longest.literal longest.length_le

end Check

end RobotsExclusion
