import RobotsExclusion.Text.LowerCase
import Mathlib.Data.List.Basic

/-!
# Lower-casing twice

Lower-casing a text a second time changes nothing. The table is looked at once: no run of mappings
leads to a character that some run maps further, nor to the two characters with a rule of their own.

## Main definitions

* `LowerCase.Run.Avoids` — what one run leads to is not mapped by another
* `CodePoint.IsLower` — a character that lower-casing leaves alone wherever it stands
* `LowerCase.spread` — the lower-case form of a text behind other characters

## Main results

* `CodePoint.simpleLower_simpleLower` — the mapping of single characters is idempotent
* `Text.isLower_of_mem_lower` — a lower-case form consists of lower-case characters
* `Text.lower_lower` — lower-casing is idempotent
-/

namespace RobotsExclusion

namespace LowerCase

variable {r s : Run} {c d : CodePoint} {cased : Bool} {t following : Text}

/-- What `r` leads to is not mapped by `s`: it lies outside of `s`, or always between two of the
characters of `s`. Only comparisons that evaluate fast are used, as all pairs of runs are
checked. -/
def Run.avoids (r s : Run) : Bool :=
  (r.target + (r.last - r.first)).blt s.first || s.last.blt r.target ||
    (s.stride.beq 2 && (r.stride.beq 2 || r.first.beq r.last) && ((r.target + s.first) % 2).beq 1)

theorem Run.avoids_iff : r.avoids s = true ↔
    (r.target + (r.last - r.first) < s.first ∨ s.last < r.target) ∨
      (s.stride = 2 ∧ (r.stride = 2 ∨ r.first = r.last)) ∧ (r.target + s.first) % 2 = 1 := by
  simp [Run.avoids, Nat.blt_eq, Nat.beq_eq]

theorem ofNat?_eq_some_iff {n : Nat} : CodePoint.ofNat? n = some d ↔ d.toNat = n := by
  unfold CodePoint.ofNat?
  constructor
  · intro h
    split at h
    · obtain rfl := Option.some.inj h
      rfl
    · cases h
  · rintro rfl
    rw [dif_pos d.isLt]

theorem Run.image?_eq_some_iff :
    r.image? c = some d ↔ (r.first ≤ c.toNat ∧ c.toNat ≤ r.last ∧
      (c.toNat - r.first) % r.stride = 0) ∧ d.toNat = r.target + (c.toNat - r.first) := by
  unfold Run.image?
  split
  case isTrue h => rw [ofNat?_eq_some_iff]; exact (and_iff_right h).symm
  case isFalse h => simp only [reduceCtorEq, h, false_and]

theorem Run.image?_eq_none_of_avoids (h : r.avoids s = true) (hc : r.image? c = some d) :
    s.image? d = none := by
  obtain ⟨⟨low, high, step⟩, hd⟩ := Run.image?_eq_some_iff.1 hc
  rw [Run.image?, if_neg]
  rintro ⟨low', high', step'⟩
  rcases Run.avoids_iff.1 h with (below | above) | ⟨⟨stride, apart⟩, odd⟩
  -- In the last case `s` takes every other number, and `r` leads to the numbers between.
  · omega
  · omega
  · rw [stride] at step'
    rcases apart with stride' | single
    · rw [stride'] at step
      omega
    · omega

theorem runs_all_avoid : (runs.all fun r => runs.all r.avoids) = true := by decide +kernel

theorem exists_run_of_image? (h : image? runs c = some d) : ∃ r ∈ runs, r.image? c = some d :=
  List.exists_of_findSome?_eq_some h

/-- What a character is mapped to is not mapped any further. -/
theorem image?_of_image? (h : image? runs c = some d) : image? runs d = none := by
  obtain ⟨r, hr, hc⟩ := exists_run_of_image? h
  refine List.findSome?_eq_none_iff.2 fun s hs => Run.image?_eq_none_of_avoids ?_ hc
  exact List.all_eq_true.1 (List.all_eq_true.1 runs_all_avoid r hr) s hs

/-- ASCII has one run, the first one. -/
theorem runs_tail_above : ∀ r ∈ runs.tail, 0x80 ≤ r.first := by decide +kernel

theorem image?_of_isAscii (h : c.isAscii = true) :
    image? runs c = (Run.mk 0x41 0x5A 1 0x61).image? c := by
  have others : image? runs.tail c = none := by
    refine List.findSome?_eq_none_iff.2 fun r hr => ?_
    have := runs_tail_above r hr
    have : c.toNat < 0x80 := of_decide_eq_true h
    rw [Run.image?, if_neg (by omega)]
  change List.findSome? _ (⟨0x41, 0x5A, 1, 0x61⟩ :: runs.tail) = _
  rw [List.findSome?_cons]
  cases (Run.mk 0x41 0x5A 1 0x61).image? c with
  | some d => rfl
  | none => exact others

end LowerCase

namespace CodePoint

open LowerCase

variable {c : CodePoint}

/-- The table agrees with the answer that ASCII is given without it. -/
theorem simpleLower_eq (c : CodePoint) : c.simpleLower = (image? runs c).getD c := by
  unfold simpleLower
  split
  case isFalse => rfl
  case isTrue h =>
    rw [image?_of_isAscii h]
    by_cases letter : 0x41 ≤ c.toNat ∧ c.toNat ≤ 0x5A
    · have hlower : c.asciiLower.toNat = 0x61 + (c.toNat - 0x41) := by
        rw [asciiLower, dif_pos letter]
        change c.toNat + 0x20 = _
        omega
      have himage : (Run.mk 0x41 0x5A 1 0x61).image? c = some c.asciiLower :=
        Run.image?_eq_some_iff.2 ⟨⟨letter.1, letter.2, Nat.mod_one _⟩, hlower⟩
      rw [himage, Option.getD_some]
    · have himage : (Run.mk 0x41 0x5A 1 0x61).image? c = none :=
        if_neg fun h => letter ⟨h.1, h.2.1⟩
      rw [himage, asciiLower, dif_neg letter, Option.getD_none]

/-- Mapping a character a second time changes nothing. -/
theorem simpleLower_simpleLower (c : CodePoint) : c.simpleLower.simpleLower = c.simpleLower := by
  rw [simpleLower_eq c]
  cases h : image? runs c with
  | none => rw [Option.getD_none, simpleLower_eq, h, Option.getD_none]
  | some d => rw [Option.getD_some, simpleLower_eq, image?_of_image? h, Option.getD_none]

/-- Lower-casing leaves the character alone wherever it stands. -/
structure IsLower (c : CodePoint) : Prop where
  simpleLower : c.simpleLower = c
  ne_capitalDottedI : c ≠ capitalDottedI
  ne_capitalSigma : c ≠ capitalSigma

instance (c : CodePoint) : Decidable c.IsLower :=
  decidable_of_iff (c.simpleLower = c ∧ c ≠ capitalDottedI ∧ c ≠ capitalSigma)
    ⟨fun ⟨h, h', h''⟩ => ⟨h, h', h''⟩, fun ⟨h, h', h''⟩ => ⟨h, h', h''⟩⟩

/-- No run leads to the dotted capital. -/
theorem runs_all_avoid_capitalDottedI :
    (runs.all fun r => r.avoids ⟨0x130, 0x130, 1, 0⟩) = true := by decide +kernel

theorem isLower_simpleLower (h : c ≠ capitalDottedI) : c.simpleLower.IsLower := by
  refine ⟨simpleLower_simpleLower c, ?_, ?_⟩
  · rw [simpleLower_eq]
    cases hc : image? runs c with
    | none => exact h
    | some d =>
      rintro rfl
      obtain ⟨r, hr, hd⟩ := exists_run_of_image? hc
      have avoided := List.all_eq_true.1 runs_all_avoid_capitalDottedI r hr
      have mapped : ((Run.mk 0x130 0x130 1 0).image? capitalDottedI).isSome = true := by decide
      rw [Run.image?_eq_none_of_avoids avoided hd] at mapped
      cases mapped
  -- The capital sigma is mapped by the table, so nothing is mapped to it.
  · intro hsigma
    have fixed := simpleLower_simpleLower c
    rw [hsigma] at fixed
    revert fixed
    decide +kernel

end CodePoint

namespace LowerCase

variable {c : CodePoint} {cased : Bool} {t following : Text}

/-- The lower-case form of a text behind other characters. -/
def spread (cased : Bool) : Text → Text
  | [] => []
  | c :: following => letter cased c following ++ spread (casedAfter cased c) following

theorem onto_eq (done : Text) (cased : Bool) (t : Text) :
    onto done cased t = (spread cased t).reverse ++ done := by
  induction t generalizing done cased with
  | nil => rfl
  | cons c t ih => simp only [onto, ih, spread, List.reverse_append, List.append_assoc]

theorem isLower_of_mem_letter {x : CodePoint} (hx : x ∈ letter cased c following) : x.IsLower := by
  unfold letter at hx
  split at hx
  · rcases List.mem_pair.1 hx with rfl | rfl
    · decide +kernel
    · decide +kernel
  · split at hx
    · obtain rfl := List.mem_singleton.1 hx
      decide +kernel
    · obtain rfl := List.mem_singleton.1 hx
      exact CodePoint.isLower_simpleLower ‹_›

theorem isLower_of_mem_spread {x : CodePoint} (hx : x ∈ spread cased t) : x.IsLower := by
  induction t generalizing cased with
  | nil => cases hx
  | cons c t ih =>
    rcases List.mem_append.1 hx with hx | hx
    · exact isLower_of_mem_letter hx
    · exact ih hx

theorem letter_of_isLower (h : c.IsLower) : letter cased c following = [c] := by
  rw [letter, if_neg h.ne_capitalDottedI, if_neg fun sigma => h.ne_capitalSigma sigma.1,
    h.simpleLower]

theorem spread_of_isLower (h : ∀ x ∈ t, x.IsLower) : spread cased t = t := by
  induction t generalizing cased with
  | nil => rfl
  | cons c t ih =>
    obtain ⟨hc, ht⟩ := List.forall_mem_cons.1 h
    rw [spread, letter_of_isLower hc, ih ht, List.singleton_append]

end LowerCase

namespace Text

open LowerCase

theorem lower_eq (t : Text) : t.lower = spread false t := by
  rw [lower, onto_eq, List.append_nil, List.reverse_reverse]

/-- A lower-case form consists of lower-case characters. -/
theorem isLower_of_mem_lower {t : Text} {x : CodePoint} (hx : x ∈ t.lower) : x.IsLower :=
  isLower_of_mem_spread (lower_eq t ▸ hx)

/-- Lower-casing a text a second time changes nothing. -/
theorem lower_lower (t : Text) : t.lower.lower = t.lower := by
  rw [lower_eq t.lower]
  exact spread_of_isLower fun _ hx => isLower_of_mem_lower hx

/-- A lower-case character at the start stays where it is. -/
theorem head?_lower_of_isLower {c : CodePoint} (h : c.IsLower) (t : Text) :
    (lower (c :: t)).head? = some c := by
  rw [lower_eq, spread, letter_of_isLower h]
  rfl

end Text

end RobotsExclusion
