import RobotsExclusion.Proofs.Text.LowerCase

/-!
# Lower-casing to ASCII

Of the characters beyond ASCII, the Kelvin sign alone is mapped to ASCII, to a small `k`. The dotted
capital `İ` leads to an `i`, but also to a combining dot. So what lower-casing makes of a text is
plain ASCII without a `k` only if the text is plain ASCII, and of such a text it maps the letters `A`
to `Z` one by one and nothing else.

## Main results

* `LowerCase.eq_smallK_of_image?` — nothing but the Kelvin sign is mapped to ASCII from beyond it
* `Text.lower_of_isAscii` — lower-casing of ASCII goes letter by letter
* `Text.lower_eq_iff_of_isAscii` — what is lower-cased to a text of ASCII without a `k`
-/

namespace RobotsExclusion

namespace CodePoint

variable {c : CodePoint}

/-- The small letter `k`. -/
def smallK : CodePoint := ofChar 'k'

theorem isAscii_asciiLower (c : CodePoint) : c.asciiLower.isAscii = c.isAscii := by
  rw [asciiLower]
  split
  case isTrue letter =>
    have upper : c.toNat < 0x80 := by omega
    have lower : c.toNat + 0x20 < 0x80 := by omega
    simp only [isAscii, upper, lower]
  case isFalse => rfl

theorem toNat_ge_of_not_isAscii (h : c.isAscii = false) : 0x80 ≤ c.toNat :=
  Nat.le_of_not_lt (of_decide_eq_false h)

end CodePoint

namespace LowerCase

variable {c d : CodePoint} {cased : Bool} {t following : Text}

/-- Behind the letters of ASCII, one run leads to ASCII: that of the Kelvin sign. -/
theorem runs_tail_targets :
    ∀ r ∈ runs.tail, 0x80 ≤ r.target ∨ r.first = r.last ∧ r.target = 0x6B := by
  decide +kernel

/-- Nothing but a small `k` is mapped to within ASCII from beyond it. -/
theorem eq_smallK_of_image? (h : image? runs c = some d) (beyond : c.isAscii = false)
    (within : d.isAscii = true) : d = CodePoint.smallK := by
  have beyond := CodePoint.toNat_ge_of_not_isAscii beyond
  have within : d.toNat < 0x80 := of_decide_eq_true within
  obtain ⟨r, hr, hd⟩ := exists_run_of_image? h
  obtain ⟨⟨low, high, -⟩, target⟩ := Run.image?_eq_some_iff.1 hd
  change r ∈ ⟨0x41, 0x5A, 1, 0x61⟩ :: runs.tail at hr
  rcases List.mem_cons.1 hr with rfl | hr
  · dsimp only at high
    omega
  · rcases runs_tail_targets r hr with above | ⟨single, small⟩
    · omega
    · have same : d.toNat = CodePoint.smallK.toNat := by
        rw [target, small]
        change _ = 0x6B
        omega
      cases d
      cases same
      rfl

theorem letter_of_isAscii (h : c.isAscii = true) : letter cased c following = [c.asciiLower] := by
  have below : c.toNat < 0x80 := of_decide_eq_true h
  have noDottedI : c ≠ CodePoint.capitalDottedI := by
    rintro rfl
    cases h
  have noSigma : c ≠ CodePoint.capitalSigma := by
    rintro rfl
    cases h
  rw [letter, if_neg noDottedI, if_neg fun sigma => noSigma sigma.1, CodePoint.simpleLower, if_pos h]

/-- A character beyond ASCII leads to one that is beyond ASCII too, or to a small `k`. -/
theorem exists_mem_letter (h : c.isAscii = false) (cased : Bool) (following : Text) :
    ∃ x ∈ letter cased c following, x.isAscii = false ∨ x = CodePoint.smallK := by
  rw [letter]
  split_ifs
  -- The dotted capital keeps its dot.
  · exact ⟨CodePoint.dotAbove, by simp, .inl rfl⟩
  · exact ⟨CodePoint.finalSigma, by simp, .inl rfl⟩
  · refine ⟨c.simpleLower, List.mem_singleton_self _, ?_⟩
    rw [CodePoint.simpleLower_eq]
    cases himage : image? runs c with
    | none => exact .inl h
    | some d =>
      cases hd : d.isAscii with
      | false => exact .inl hd
      | true => exact .inr (eq_smallK_of_image? himage h hd)

theorem spread_of_isAscii (h : ∀ c ∈ t, c.isAscii = true) (cased : Bool) :
    spread cased t = t.map CodePoint.asciiLower := by
  induction t generalizing cased with
  | nil => rfl
  | cons c t ih =>
    obtain ⟨hc, ht⟩ := List.forall_mem_cons.1 h
    rw [spread, letter_of_isAscii hc, ih ht, List.map_cons, List.singleton_append]

theorem isAscii_of_spread
    (h : ∀ x ∈ spread cased t, x.isAscii = true ∧ x ≠ CodePoint.smallK) :
    ∀ c ∈ t, c.isAscii = true := by
  -- What a letter becomes depends on what surrounds it, but it leaves a trace beyond ASCII or a `k`.
  induction t generalizing cased with
  | nil => exact fun c hc => nomatch hc
  | cons c t ih =>
    rw [spread, List.forall_mem_append] at h
    refine List.forall_mem_cons.2 ⟨?_, ih h.2⟩
    by_contra beyond
    obtain ⟨x, hx, beyond | same⟩ := exists_mem_letter (eq_false_of_ne_true beyond) cased t
    · exact Bool.false_ne_true (beyond.symm.trans (h.1 x hx).1)
    · exact (h.1 x hx).2 same

end LowerCase

namespace Text

variable {t u : Text}

/-- Lower-casing of ASCII goes letter by letter. -/
theorem lower_of_isAscii (h : ∀ c ∈ t, c.isAscii = true) :
    t.lower = t.map CodePoint.asciiLower := by
  rw [lower_eq, LowerCase.spread_of_isAscii h]

/-- A text is lower-cased to ASCII without a `k` exactly if its letters `A` to `Z` are. -/
theorem lower_eq_iff_of_isAscii (h : ∀ x ∈ u, x.isAscii = true ∧ x ≠ CodePoint.smallK) :
    t.lower = u ↔ t.map CodePoint.asciiLower = u := by
  constructor
  · rintro rfl
    rw [lower_eq] at h
    exact (lower_of_isAscii (LowerCase.isAscii_of_spread h)).symm
  · rintro rfl
    refine lower_of_isAscii fun c hc => ?_
    rw [← CodePoint.isAscii_asciiLower]
    exact (h _ (List.mem_map_of_mem hc)).1

end Text

end RobotsExclusion
