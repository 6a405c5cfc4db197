import RobotsExclusion.Proofs.Utf8

/-!
# The length of a text that was read from bytes

Encoded again, a text takes as many bytes as it was read from, if these are well-formed. A byte that
belongs to no well-formed sequence is read as a surrogate, though, and that takes three.

## Main definitions

* `Utf8.undecodable` — the number of bytes that are read as surrogates

## Main results

* `Utf8.length_utf8_decodeLossy` — how many bytes a text takes that was read from bytes
* `Utf8.undecodable_eq_zero_iff` — well-formed bytes are all decodable
* `Utf8.dropByteOrderMark_decodeLossy` — marks at the start of the bytes and of the text
-/

namespace RobotsExclusion.Utf8

variable {bytes rest : Bytes}

/-- The number of bytes that belong to no well-formed sequence. Each is read as one surrogate, and
nothing else is. -/
def undecodable (bytes : Bytes) : Nat := (decodeLossy bytes).countP CodePoint.isSurrogate

theorem undecodable_eq_zero_iff : undecodable bytes = 0 ↔ WellFormed bytes := by
  rw [undecodable, List.countP_eq_zero, ← forall_decodeLossy_iff]
  simp

theorem undecodable_of_sequence? {p : CodePoint} (h : sequence? bytes = some (p, rest)) :
    undecodable bytes = undecodable rest := by
  rw [undecodable, decodeLossy_of_sequence? h, List.countP_cons_of_neg]
  · rfl
  · rw [(sequence?_eq_some h).1]
    exact Bool.false_ne_true

theorem undecodable_of_none {b : UInt8} (h : sequence? (b :: rest) = none) :
    undecodable (b :: rest) = undecodable rest + 1 := by
  rw [undecodable, decodeLossy_of_none h, List.countP_cons_of_pos (isSurrogate_escapeByte b)]
  rfl

theorem length_utf8_escapeByte (b : UInt8) : (escapeByte b).utf8.length = 3 := by
  obtain ⟨first, second, third, encoded, -⟩ := exists_utf8_of_isSurrogate (isSurrogate_escapeByte b)
  rw [encoded]
  rfl

/-- A text that was read from bytes takes them all, and two more for each that is undecodable. -/
theorem length_utf8_decodeLossy (bytes : Bytes) :
    (decodeLossy bytes).utf8.length = bytes.length + 2 * undecodable bytes := by
  induction bytes using reading_induction with
  | nil =>
    rw [undecodable, decodeLossy_nil]
    rfl
  | sequence bytes p rest hread ih =>
    -- The sequence is the encoding of what it is read as.
    have taken := congrArg List.length (sequence?_eq_some hread).2
    rw [List.length_append] at taken
    rw [decodeLossy_of_sequence? hread, Text.utf8, List.flatMap_cons, List.length_append, ← Text.utf8,
      ih, undecodable_of_sequence? hread]
    omega
  | single b rest hread ih =>
    rw [decodeLossy_of_none hread, Text.utf8, List.flatMap_cons, List.length_append, ← Text.utf8, ih,
      length_utf8_escapeByte, undecodable_of_none hread, List.length_cons]
    omega

/-! ### Byte-order marks -/

/-- The encoded byte-order mark. -/
def mark : Bytes := [0xEF, 0xBB, 0xBF]

theorem dropByteOrderMark_mark_append (rest : Bytes) : dropByteOrderMark (mark ++ rest) = rest := rfl

theorem dropByteOrderMark_of_not_starts (h : ¬ mark <+: bytes) : dropByteOrderMark bytes = bytes := by
  unfold dropByteOrderMark
  split
  case h_1 rest => exact absurd (List.prefix_append mark rest) h
  case h_2 => rfl

/-- Without two marks at the start, taking one away leaves none behind. -/
theorem dropByteOrderMark_of_not_twice (h : ¬ mark ++ mark <+: bytes) :
    dropByteOrderMark (dropByteOrderMark bytes) = dropByteOrderMark bytes := by
  by_cases once : mark <+: bytes
  · obtain ⟨rest, rfl⟩ := once
    rw [dropByteOrderMark_mark_append]
    exact dropByteOrderMark_of_not_starts fun again => h ((List.prefix_append_right_inj mark).2 again)
  · rw [dropByteOrderMark_of_not_starts once, dropByteOrderMark_of_not_starts once]

/-- The text starts with a mark exactly if the bytes do. -/
theorem dropByteOrderMark_decodeLossy (bytes : Bytes) :
    (decodeLossy bytes).dropByteOrderMark = decodeLossy (dropByteOrderMark bytes) := by
  by_cases marked : mark <+: bytes
  · obtain ⟨rest, rfl⟩ := marked
    have first : sequence? (mark ++ rest) = some (CodePoint.byteOrderMark, rest) :=
      sequence?_utf8_append (p := CodePoint.byteOrderMark) rfl rest
    rw [decodeLossy_of_sequence? first, dropByteOrderMark_mark_append, Text.dropByteOrderMark,
      if_pos rfl]
  · rw [dropByteOrderMark_of_not_starts marked]
    cases hread : sequence? bytes with
    | some pair =>
      obtain ⟨p, rest⟩ := pair
      -- Reading takes an encoding off the bytes, and that of the mark is not there.
      have other : p ≠ CodePoint.byteOrderMark := by
        rintro rfl
        exact marked ⟨rest, (sequence?_eq_some hread).2.symm⟩
      rw [decodeLossy_of_sequence? hread]
      exact if_neg other
    | none =>
      cases bytes with
      | nil =>
        rw [decodeLossy_nil]
        rfl
      | cons b rest =>
        have other : escapeByte b ≠ CodePoint.byteOrderMark := fun same =>
          absurd (same ▸ isSurrogate_escapeByte b) (by decide)
        rw [decodeLossy_of_none hread]
        exact if_neg other

end RobotsExclusion.Utf8
