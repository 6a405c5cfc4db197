import RobotsExclusion.Text.ControlSequence
import Mathlib.Data.List.Basic

/-!
# Dropping control sequences

A control sequence is ASCII alone. So dropping them takes nothing from a text that is not ASCII, and
nothing at all from one without the character that starts them.

## Main results

* `Text.dropControlSequences_append` — what holds no control characters is kept
* `Text.mem_dropControlSequences_iff` — and so is what is not ASCII
-/

namespace RobotsExclusion.Text

variable {c : CodePoint} {plain done t : Text} {n : Nat}

theorem dropSequencesOnto_append (done more t : Text) :
    dropSequencesOnto (done ++ more) t = more.reverse ++ dropSequencesOnto done t := by
  fun_induction dropSequencesOnto done t with
  | case1 done => rw [dropSequencesOnto, List.reverse_append]
  | case2 done rest n hn ih =>
    rw [dropSequencesOnto, if_pos rfl, hn]
    exact ih
  | case3 done rest hn ih =>
    rw [dropSequencesOnto, if_pos rfl, hn]
    exact ih
  | case4 done c rest hc ih =>
    rw [dropSequencesOnto, if_neg hc]
    exact ih

/-- What holds no control characters is kept. -/
theorem dropControlSequences_append (h : escapeCharacter ∉ plain) (t : Text) :
    dropControlSequences (plain ++ t) = plain ++ dropControlSequences t := by
  induction plain with
  | nil => rfl
  | cons c plain ih =>
    obtain ⟨hc, hplain⟩ := not_or.1 (fun hmem => h (List.mem_cons.2 hmem))
    have behind := dropSequencesOnto_append [] [c] (plain ++ t)
    rw [dropControlSequences, List.cons_append, dropSequencesOnto, if_neg (Ne.symm hc)]
    exact behind.trans (congrArg (c :: ·) (ih hplain))

theorem isAscii_of_isParameter (h : isParameter c = true) : c.isAscii = true := by
  simp only [isParameter, Bool.or_eq_true, decide_eq_true_eq] at h
  rcases h with (digit | rfl) | rfl
  · simp only [CodePoint.isAsciiDigit, Bool.and_eq_true, decide_eq_true_eq] at digit
    exact decide_eq_true (by omega)
  · rfl
  · rfl

theorem isAscii_of_isAsciiLetter (h : c.isAsciiLetter = true) : c.isAscii = true := by
  simp only [CodePoint.isAsciiLetter, Bool.or_eq_true, Bool.and_eq_true, decide_eq_true_eq] at h
  exact decide_eq_true (by omega)

/-- A control sequence is ASCII alone: a bracket, parameters and a letter. -/
theorem isAscii_of_sequenceLength? (h : sequenceLength? t = some n) (hc : c ∈ t.take n) :
    c.isAscii = true := by
  rcases ite_eq_iff.1 h with ⟨opening, h⟩ | ⟨-, h⟩
  · obtain ⟨rest, rfl⟩ := List.head?_eq_some_iff.1 opening
    rcases ite_eq_iff.1 h with ⟨closing, h⟩ | ⟨-, h⟩
    · obtain rfl := Option.some.inj h
      rw [Nat.add_comm 1, List.getElem?_cons_succ, List.drop_succ_cons, List.drop_zero] at closing
      rw [Nat.add_comm 1, List.take_succ_cons, List.drop_succ_cons, List.drop_zero, List.take_add_one,
        ← List.prefix_iff_eq_take.1 (List.takeWhile_prefix _)] at hc
      rcases List.mem_cons.1 hc with rfl | hc
      · rfl
      · rcases List.mem_append.1 hc with parameter | letter
        · exact isAscii_of_isParameter (List.all_eq_true.1 List.all_takeWhile _ parameter)
        · rw [Option.mem_toList.1 letter] at closing
          exact isAscii_of_isAsciiLetter closing
    · cases h
  · cases h

/-- What is not ASCII is kept, and nothing is brought in. -/
theorem mem_dropSequencesOnto_iff (h : c.isAscii = false) :
    c ∈ dropSequencesOnto done t ↔ c ∈ done ∨ c ∈ t := by
  fun_induction dropSequencesOnto done t with
  | case1 done => simp
  | case2 done rest n hn ih =>
    have other : c ≠ escapeCharacter := by
      rintro rfl
      cases h
    have outside : c ∉ rest.take n := fun hc => by
      rw [isAscii_of_sequenceLength? hn hc] at h
      cases h
    calc c ∈ dropSequencesOnto done (rest.drop n)
      _ ↔ c ∈ done ∨ c ∈ rest.drop n := ih
      _ ↔ c ∈ done ∨ c ∈ rest.take n ++ rest.drop n := by
        rw [List.mem_append, or_iff_right outside]
      _ ↔ c ∈ done ∨ c ∈ escapeCharacter :: rest := by
        rw [List.take_append_drop, List.mem_cons, or_iff_right other]
  | case3 done rest hn ih => rw [ih, List.mem_cons, List.mem_cons, or_assoc, or_left_comm]
  | case4 done d rest hd ih => rw [ih, List.mem_cons, List.mem_cons, or_assoc, or_left_comm]

theorem mem_dropControlSequences_iff (h : c.isAscii = false) :
    c ∈ dropControlSequences t ↔ c ∈ t := by
  rw [dropControlSequences, mem_dropSequencesOnto_iff h]
  simp

end RobotsExclusion.Text
