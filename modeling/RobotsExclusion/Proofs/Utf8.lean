import RobotsExclusion.Utf8
import Mathlib.Algebra.GroupWithZero.Nat
import Mathlib.Data.List.Basic
import Mathlib.Tactic.SplitIfs

/-!
# Well-formed UTF-8

The byte sequences of the Unicode standard that encode a code point, as a grammar, and what the
reader makes of them: it reads exactly these, each as the code point whose encoding it is. So the
text read from any bytes holds a surrogate if and only if the bytes are ill-formed.

## Main definitions

* `Utf8.Within` — a byte between two bounds
* `Utf8.IsSequence` — the well-formed sequences of one to four bytes
* `Utf8.WellFormed` — bytes made up of such sequences

## Main results

* `Utf8.IsSequence.exists_codePoint` — a well-formed sequence encodes one code point, which is no
  surrogate and is read back whatever follows
* `Utf8.exists_isSequence` — nothing else is read as a sequence
* `Utf8.wellFormed_append_iff` — a sequence in front does not change whether bytes are well-formed
* `Utf8.forall_decodeLossy_iff` — reading gives no surrogate exactly on well-formed bytes
* `Utf8.wellFormed_utf8_iff` — the encoding of a text is well-formed if it has no surrogate
* `Utf8.decodeLossy_utf8`, `Utf8.decode_utf8`, `Utf8.readDocument_utf8` — an encoded text is read
  back, but for one byte-order mark at the start of a document
-/

namespace RobotsExclusion.Utf8

/-- The byte lies between two bounds, which count. -/
def Within (low high : Nat) (b : UInt8) : Prop := low ≤ b.toNat ∧ b.toNat ≤ high

/-- The well-formed sequences, by their length. The conditions on the second byte leave out what
has a shorter form (behind `E0` and `F0`), surrogates (behind `ED`), and numbers above `U+10FFFF`
(behind `F4`). -/
inductive IsSequence : Bytes → Prop
  | one {a : UInt8} : Within 0x00 0x7F a → IsSequence [a]
  | two {a b : UInt8} : Within 0xC2 0xDF a → Within 0x80 0xBF b → IsSequence [a, b]
  | three {a b c : UInt8} : Within 0xE0 0xEF a → Within 0x80 0xBF b → Within 0x80 0xBF c →
      (a.toNat = 0xE0 → 0xA0 ≤ b.toNat) → (a.toNat = 0xED → b.toNat ≤ 0x9F) →
      IsSequence [a, b, c]
  | four {a b c d : UInt8} : Within 0xF0 0xF4 a → Within 0x80 0xBF b → Within 0x80 0xBF c →
      Within 0x80 0xBF d → (a.toNat = 0xF0 → 0x90 ≤ b.toNat) → (a.toNat = 0xF4 → b.toNat ≤ 0x8F) →
      IsSequence [a, b, c, d]

/-- Bytes that are well-formed sequences one after another. -/
inductive WellFormed : Bytes → Prop
  | nil : WellFormed []
  | append {s rest : Bytes} : IsSequence s → WellFormed rest → WellFormed (s ++ rest)

variable {a b c d : UInt8} {bytes rest s : Bytes}

/-! ### Bytes as numbers -/

theorem isContinuation_iff : isContinuation b = true ↔ Within 0x80 0xBF b := by
  simp [isContinuation, Within, UInt8.le_iff_toNat_le]

theorem Lead.admits_cons_iff (lead : Lead) :
    lead.admits (b :: rest) = true ↔ Within lead.low.toNat lead.high.toNat b := by
  simp [Lead.admits, Within, UInt8.le_iff_toNat_le]

/-- The leading bytes by their numbers. -/
theorem lead?_eq (b : UInt8) :
    lead? b =
      if b.toNat < 0x80 then some ⟨b.toNat, 0, 0x00, 0xFF⟩
      else if b.toNat < 0xC2 then none
      else if b.toNat < 0xE0 then some ⟨b.toNat % 0x20, 1, 0x80, 0xBF⟩
      else if b.toNat = 0xE0 then some ⟨b.toNat % 0x10, 2, 0xA0, 0xBF⟩
      else if b.toNat = 0xED then some ⟨b.toNat % 0x10, 2, 0x80, 0x9F⟩
      else if b.toNat < 0xF0 then some ⟨b.toNat % 0x10, 2, 0x80, 0xBF⟩
      else if b.toNat = 0xF0 then some ⟨b.toNat % 0x08, 3, 0x90, 0xBF⟩
      else if b.toNat < 0xF4 then some ⟨b.toNat % 0x08, 3, 0x80, 0xBF⟩
      else if b.toNat = 0xF4 then some ⟨b.toNat % 0x08, 3, 0x80, 0x8F⟩
      else none := by
  simp only [lead?, UInt8.lt_iff_toNat_lt, ← UInt8.toNat_inj]
  rfl

theorem eq_ofNat_iff {n : Nat} (h : n < 0x100) : UInt8.ofNat n = b ↔ n = b.toNat := by
  rw [← UInt8.toNat_inj, UInt8.toNat_ofNat', Nat.mod_eq_of_lt h]

/-! ### Continuation bytes -/

/-- The number that continuation bytes make with the bits before them. -/
def codeNumber (bits : Nat) (tail : Bytes) : Nat :=
  tail.foldl (fun n b => n * 0x40 + b.toNat % 0x40) bits

theorem continue?_append {tail : Bytes} (h : ∀ b ∈ tail, Within 0x80 0xBF b) (bits : Nat)
    (rest : Bytes) :
    continue? bits tail.length (tail ++ rest) = some (codeNumber bits tail, rest) := by
  induction tail generalizing bits with
  | nil => rfl
  | cons b tail ih =>
    obtain ⟨hb, htail⟩ := List.forall_mem_cons.1 h
    rw [List.length_cons, List.cons_append, continue?, if_pos (isContinuation_iff.2 hb)]
    exact ih htail _

theorem exists_tail_of_continue? {bits k n : Nat} (h : continue? bits k bytes = some (n, rest)) :
    ∃ tail, tail.length = k ∧ (∀ b ∈ tail, Within 0x80 0xBF b) ∧ bytes = tail ++ rest := by
  fun_induction continue? bits k bytes with
  | case1 bits bytes =>
    obtain ⟨-, rfl⟩ := Prod.mk.inj (Option.some.inj h)
    exact ⟨[], rfl, by simp, rfl⟩
  | case2 => simp at h
  | case3 bits k b bytes hb ih =>
    obtain ⟨tail, rfl, htail, rfl⟩ := ih h
    exact ⟨b :: tail, rfl, List.forall_mem_cons.2 ⟨isContinuation_iff.1 hb, htail⟩, rfl⟩
  | case4 => simp at h

/-! ### Sequences -/

/-- A leading byte and as many continuation bytes as it asks for are read as one code point. -/
theorem sequence?_of_lead? {lead : Lead} {p : CodePoint} (tail : Bytes)
    (hlead : lead? a = some lead) (hlength : tail.length = lead.following)
    (htail : ∀ b ∈ tail, Within 0x80 0xBF b) (hadmits : lead.admits (tail ++ rest) = true)
    (hp : p.toNat = codeNumber lead.bits tail) :
    sequence? (a :: tail ++ rest) = some (p, rest) := by
  rw [List.cons_append, sequence?, hlead]
  simp only [hadmits, if_true, ← hlength, continue?_append htail, ← hp, CodePoint.ofNat?, p.isLt,
    dif_pos, Option.map_some]

/-- What a leading byte says, by the length of its sequence. -/
theorem lead?_one (ha : Within 0x00 0x7F a) : lead? a = some ⟨a.toNat, 0, 0x00, 0xFF⟩ := by
  unfold Within at ha
  rw [lead?_eq, if_pos (by omega)]

theorem lead?_two (ha : Within 0xC2 0xDF a) :
    lead? a = some ⟨a.toNat % 0x20, 1, 0x80, 0xBF⟩ := by
  unfold Within at ha
  rw [lead?_eq, if_neg (by omega), if_neg (by omega), if_pos (by omega)]

theorem lead?_three (ha : Within 0xE0 0xEF a) :
    lead? a = some ⟨a.toNat % 0x10, 2, if a.toNat = 0xE0 then 0xA0 else 0x80,
      if a.toNat = 0xED then 0x9F else 0xBF⟩ := by
  unfold Within at ha
  rw [lead?_eq, if_neg (by omega), if_neg (by omega), if_neg (by omega)]
  split_ifs <;> first | rfl | omega

theorem lead?_four (ha : Within 0xF0 0xF4 a) :
    lead? a = some ⟨a.toNat % 0x08, 3, if a.toNat = 0xF0 then 0x90 else 0x80,
      if a.toNat = 0xF4 then 0x8F else 0xBF⟩ := by
  unfold Within at ha
  rw [lead?_eq, if_neg (by omega), if_neg (by omega), if_neg (by omega), if_neg (by omega),
    if_neg (by omega), if_neg (by omega)]
  split_ifs <;> first | rfl | omega

/-- A byte that leads a sequence is of one of these kinds. -/
theorem within_of_lead? {lead : Lead} (h : lead? a = some lead) :
    Within 0x00 0x7F a ∨ Within 0xC2 0xDF a ∨ Within 0xE0 0xEF a ∨ Within 0xF0 0xF4 a := by
  have := a.toNat_lt
  unfold Within
  rw [lead?_eq] at h
  by_cases tail : 0x80 ≤ a.toNat ∧ a.toNat < 0xC2
  · rw [if_neg (by omega), if_pos tail.2] at h
    cases h
  · by_cases high : 0xF4 < a.toNat
    · rw [if_neg (by omega), if_neg (by omega), if_neg (by omega), if_neg (by omega),
        if_neg (by omega), if_neg (by omega), if_neg (by omega), if_neg (by omega),
        if_neg (by omega)] at h
      cases h
    · omega

/-- Where the bounds on the second byte are narrower for one leading byte only. -/
theorem admits_narrowed_iff {bits k : Nat} {low high : UInt8} {p q : Prop} [Decidable p]
    [Decidable q] (hlow : 0x80 ≤ low.toNat) (hhigh : high.toNat ≤ 0xBF) :
    Lead.admits ⟨bits, k, if p then low else 0x80, if q then high else 0xBF⟩ (b :: rest) = true ↔
      Within 0x80 0xBF b ∧ (p → low.toNat ≤ b.toNat) ∧ (q → b.toNat ≤ high.toNat) := by
  have least : (0x80 : UInt8).toNat = 0x80 := rfl
  have greatest : (0xBF : UInt8).toNat = 0xBF := rfl
  rw [Lead.admits_cons_iff]
  unfold Within
  by_cases hp : p <;> by_cases hq : q <;>
    simp only [hp, hq, if_true, if_false, forall_const, false_imp_iff, true_and, and_true, least,
      greatest] <;>
    omega

/-- A well-formed sequence encodes one code point, which is no surrogate, and is read as that one
whatever follows. -/
theorem IsSequence.exists_codePoint (h : IsSequence s) :
    ∃ p : CodePoint, p.isSurrogate = false ∧ p.utf8 = s ∧
      ∀ rest, sequence? (s ++ rest) = some (p, rest) := by
  -- The code point is put together from the bits of the bytes; the bounds on the bytes keep it out
  -- of the surrogates and among those that take as many bytes.
  cases h with
  | @one a ha =>
    unfold Within at ha
    refine ⟨⟨a.toNat, by omega⟩, ?_, ?_, fun rest => ?_⟩
    · simp only [CodePoint.isSurrogate, Bool.and_eq_false_iff, decide_eq_false_iff_not]
      omega
    · simp only [CodePoint.utf8]
      rw [if_pos (by omega), (eq_ofNat_iff (b := a) (by omega)).2 rfl]
    · refine sequence?_of_lead? [] (lead?_one ha) rfl (by simp) ?_ rfl
      cases rest with
      | nil => rfl
      | cons b rest =>
        have := b.toNat_lt
        exact (Lead.admits_cons_iff _).2 ⟨Nat.zero_le _, Nat.le_of_lt_succ this⟩
  | @two a b ha hb =>
    have hlead := lead?_two ha
    have htail : ∀ x ∈ [b], Within 0x80 0xBF x := by simpa using hb
    have hadmits (rest : Bytes) :
        Lead.admits ⟨a.toNat % 0x20, 1, 0x80, 0xBF⟩ (b :: rest) = true :=
      (Lead.admits_cons_iff _).2 hb
    unfold Within at ha hb
    refine ⟨⟨a.toNat % 0x20 * 0x40 + b.toNat % 0x40, by omega⟩, ?_, ?_, fun rest => ?_⟩
    · simp only [CodePoint.isSurrogate, Bool.and_eq_false_iff, decide_eq_false_iff_not]
      omega
    · simp only [CodePoint.utf8]
      rw [if_neg (by omega), if_pos (by omega), (eq_ofNat_iff (b := a) (by omega)).2 (by omega),
        (eq_ofNat_iff (b := b) (by omega)).2 (by omega)]
    · exact sequence?_of_lead? [b] hlead rfl htail (hadmits rest) rfl
  | @three a b c ha hb hc low high =>
    have hlead := lead?_three ha
    have htail : ∀ x ∈ [b, c], Within 0x80 0xBF x := by simpa using ⟨hb, hc⟩
    have hadmits (rest : Bytes) : Lead.admits ⟨a.toNat % 0x10, 2,
        if a.toNat = 0xE0 then 0xA0 else 0x80, if a.toNat = 0xED then 0x9F else 0xBF⟩
        (b :: rest) = true :=
      (admits_narrowed_iff (by decide) (by decide)).2 ⟨hb, low, high⟩
    unfold Within at ha hb hc
    refine ⟨⟨(a.toNat % 0x10 * 0x40 + b.toNat % 0x40) * 0x40 + c.toNat % 0x40, by omega⟩, ?_, ?_,
      fun rest => ?_⟩
    · simp only [CodePoint.isSurrogate, Bool.and_eq_false_iff, decide_eq_false_iff_not]
      omega
    · simp only [CodePoint.utf8]
      rw [if_neg (by omega), if_neg (by omega), if_pos (by omega),
        (eq_ofNat_iff (b := a) (by omega)).2 (by omega),
        (eq_ofNat_iff (b := b) (by omega)).2 (by omega),
        (eq_ofNat_iff (b := c) (by omega)).2 (by omega)]
    · exact sequence?_of_lead? [b, c] hlead rfl htail (hadmits rest) rfl
  | @four a b c d ha hb hc hd low high =>
    have hlead := lead?_four ha
    have htail : ∀ x ∈ [b, c, d], Within 0x80 0xBF x := by simpa using ⟨hb, hc, hd⟩
    have hadmits (rest : Bytes) : Lead.admits ⟨a.toNat % 0x08, 3,
        if a.toNat = 0xF0 then 0x90 else 0x80, if a.toNat = 0xF4 then 0x8F else 0xBF⟩
        (b :: rest) = true :=
      (admits_narrowed_iff (by decide) (by decide)).2 ⟨hb, low, high⟩
    unfold Within at ha hb hc hd
    refine ⟨⟨((a.toNat % 0x08 * 0x40 + b.toNat % 0x40) * 0x40 + c.toNat % 0x40) * 0x40
      + d.toNat % 0x40, by omega⟩, ?_, ?_, fun rest => ?_⟩
    · simp only [CodePoint.isSurrogate, Bool.and_eq_false_iff, decide_eq_false_iff_not]
      omega
    · simp only [CodePoint.utf8]
      rw [if_neg (by omega), if_neg (by omega), if_neg (by omega),
        (eq_ofNat_iff (b := a) (by omega)).2 (by omega),
        (eq_ofNat_iff (b := b) (by omega)).2 (by omega),
        (eq_ofNat_iff (b := c) (by omega)).2 (by omega),
        (eq_ofNat_iff (b := d) (by omega)).2 (by omega)]
    · exact sequence?_of_lead? [b, c, d] hlead rfl htail (hadmits rest) rfl

/-- Whatever is read as a sequence is a well-formed one. -/
theorem exists_isSequence {p : CodePoint} (h : sequence? bytes = some (p, rest)) :
    ∃ s, IsSequence s ∧ bytes = s ++ rest := by
  cases bytes with
  | nil => simp [sequence?] at h
  | cons a bytes =>
    rw [sequence?] at h
    cases hlead : lead? a with
    | none => simp [hlead] at h
    | some lead =>
      simp only [hlead] at h
      split at h
      case isFalse => cases h
      case isTrue hadmits =>
      split at h
      case h_1 => cases h
      case h_2 n following hread =>
      obtain ⟨_, -, hpair⟩ := Option.map_eq_some_iff.1 h
      obtain ⟨-, rfl⟩ := Prod.mk.inj hpair
      obtain ⟨tail, hlength, htail, rfl⟩ := exists_tail_of_continue? hread
      refine ⟨a :: tail, ?_, rfl⟩
      -- The kind of the leading byte tells how many bytes have been read behind it.
      rcases within_of_lead? hlead with ha | ha | ha | ha
      · obtain rfl := Option.some.inj ((lead?_one ha).symm.trans hlead)
        obtain rfl := List.eq_nil_of_length_eq_zero hlength
        exact .one ha
      · obtain rfl := Option.some.inj ((lead?_two ha).symm.trans hlead)
        obtain ⟨b, rfl⟩ := List.length_eq_one_iff.1 hlength
        exact .two ha (htail b (by simp))
      · obtain rfl := Option.some.inj ((lead?_three ha).symm.trans hlead)
        obtain ⟨b, c, rfl⟩ := List.length_eq_two.1 hlength
        obtain ⟨hb, low, high⟩ := (admits_narrowed_iff (by decide) (by decide)).1 hadmits
        exact .three ha hb (htail c (by simp)) low high
      · obtain rfl := Option.some.inj ((lead?_four ha).symm.trans hlead)
        obtain ⟨b, c, d, rfl⟩ := List.length_eq_three.1 hlength
        obtain ⟨hb, low, high⟩ := (admits_narrowed_iff (by decide) (by decide)).1 hadmits
        exact .four ha hb (htail c (by simp)) (htail d (by simp)) low high

/-- Reading takes exactly one encoding off the bytes. -/
theorem sequence?_eq_some {p : CodePoint} (h : sequence? bytes = some (p, rest)) :
    p.isSurrogate = false ∧ bytes = p.utf8 ++ rest := by
  obtain ⟨s, hs, rfl⟩ := exists_isSequence h
  obtain ⟨q, plain, encodes, reads⟩ := hs.exists_codePoint
  obtain ⟨rfl, -⟩ := Prod.mk.inj (Option.some.inj ((reads rest).symm.trans h))
  exact ⟨plain, by rw [encodes]⟩

/-! ### Whole texts -/

/-- A sequence in front does not change whether bytes are well-formed. -/
theorem wellFormed_append_iff (h : IsSequence s) : WellFormed (s ++ rest) ↔ WellFormed rest := by
  constructor
  · intro whole
    obtain ⟨p, -, -, reads⟩ := h.exists_codePoint
    generalize hbytes : s ++ rest = bytes at whole
    cases whole with
    | nil =>
      have := reads rest
      simp [hbytes, sequence?] at this
    | @append s' rest' hs' hrest' =>
      -- Both splits read the same first sequence, so they leave the same bytes behind it.
      obtain ⟨p', -, -, reads'⟩ := hs'.exists_codePoint
      have same := (reads rest).symm.trans (hbytes ▸ reads' rest')
      obtain ⟨-, rfl⟩ := Prod.mk.inj (Option.some.inj same)
      exact hrest'
  · exact .append h

theorem decodeLossyOnto_of_sequence? {done : Text} {p : CodePoint}
    (h : sequence? bytes = some (p, rest)) :
    decodeLossyOnto done bytes = decodeLossyOnto (p :: done) rest := by
  rw [decodeLossyOnto]
  split
  case h_1 q rest' h' =>
    obtain ⟨rfl, rfl⟩ := Prod.mk.inj (Option.some.inj (h.symm.trans h'))
    rfl
  case h_2 h' => cases h.symm.trans h'

theorem decodeLossyOnto_of_none {done : Text} (h : sequence? (b :: rest) = none) :
    decodeLossyOnto done (b :: rest) = decodeLossyOnto (escapeByte b :: done) rest := by
  rw [decodeLossyOnto]
  split
  case h_1 h' => cases h.symm.trans h'
  case h_2 => rfl

theorem decodeLossyOnto_nil (done : Text) : decodeLossyOnto done [] = done := by
  rw [decodeLossyOnto]
  rfl

theorem decodeLossyOnto_append (done more : Text) (bytes : Bytes) :
    decodeLossyOnto (done ++ more) bytes = decodeLossyOnto done bytes ++ more := by
  fun_induction decodeLossyOnto done bytes with
  | case1 done bytes p rest h ih => rw [decodeLossyOnto_of_sequence? h, ← ih, List.cons_append]
  | case2 done => rw [decodeLossyOnto_nil]
  | case3 done b rest h ih => rw [decodeLossyOnto_of_none h, ← ih, List.cons_append]

@[simp] theorem decodeLossy_nil : decodeLossy [] = [] := by
  rw [decodeLossy, decodeLossyOnto_nil, List.reverse_nil]

/-- A sequence becomes its code point. -/
theorem decodeLossy_of_sequence? {p : CodePoint} (h : sequence? bytes = some (p, rest)) :
    decodeLossy bytes = p :: decodeLossy rest := by
  have behind := decodeLossyOnto_append [] [p] rest
  rw [decodeLossy, decodeLossyOnto_of_sequence? h, decodeLossy]
  simpa using congrArg List.reverse behind

/-- A byte that starts no sequence becomes a surrogate by itself. -/
theorem decodeLossy_of_none (h : sequence? (b :: rest) = none) :
    decodeLossy (b :: rest) = escapeByte b :: decodeLossy rest := by
  have behind := decodeLossyOnto_append [] [escapeByte b] rest
  rw [decodeLossy, decodeLossyOnto_of_none h, decodeLossy]
  simpa using congrArg List.reverse behind

theorem isSurrogate_escapeByte (b : UInt8) : (escapeByte b).isSurrogate = true := by
  have := b.toNat_lt
  have low : 0xD800 ≤ 0xDC00 + b.toNat := by omega
  have high : 0xDC00 + b.toNat ≤ 0xDFFF := by omega
  simp only [CodePoint.isSurrogate, escapeByte, low, high, decide_true, Bool.and_true]

/-- Reading goes through the bytes by whole sequences and by single bytes that start none. -/
@[elab_as_elim]
theorem reading_induction {motive : Bytes → Prop} (bytes : Bytes) (nil : motive [])
    (sequence : ∀ bytes p rest, sequence? bytes = some (p, rest) → motive rest → motive bytes)
    (single : ∀ b rest, sequence? (b :: rest) = none → motive rest → motive (b :: rest)) :
    motive bytes := by
  -- A sequence takes several bytes at once, so the induction is on their number.
  generalize hlength : bytes.length = n
  induction n using Nat.strongRecOn generalizing bytes with
  | ind n ih =>
    subst hlength
    cases hread : sequence? bytes with
    | some pair =>
      obtain ⟨p, rest⟩ := pair
      exact sequence bytes p rest hread (ih _ (length_lt_of_sequence? hread) rest rfl)
    | none =>
      cases bytes with
      | nil => exact nil
      | cons b rest => exact single b rest hread (ih _ (Nat.lt_succ_self _) rest rfl)

/-- Reading gives no surrogate exactly on well-formed bytes. -/
theorem forall_decodeLossy_iff (bytes : Bytes) :
    (∀ p ∈ decodeLossy bytes, p.isSurrogate = false) ↔ WellFormed bytes := by
  induction bytes using reading_induction with
  | nil => simp [WellFormed.nil]
  | sequence bytes p rest hread ih =>
    obtain ⟨plain, -⟩ := sequence?_eq_some hread
    obtain ⟨s, hs, rfl⟩ := exists_isSequence hread
    rw [decodeLossy_of_sequence? hread, List.forall_mem_cons, wellFormed_append_iff hs, ih]
    exact and_iff_right plain
  | single b rest hread =>
    rw [decodeLossy_of_none hread, List.forall_mem_cons, isSurrogate_escapeByte]
    -- Well-formed bytes would start with a sequence, and that would have been read.
    refine iff_of_false (by simp) fun whole => ?_
    generalize hbytes : b :: rest = bytes at whole
    cases whole with
    | nil => cases hbytes
    | @append s rest' hs _ =>
      obtain ⟨p, -, -, reads⟩ := hs.exists_codePoint
      cases hread.symm.trans (hbytes ▸ reads rest')

/-- Every code point but the surrogates is encoded as a well-formed sequence. -/
theorem isSequence_utf8 {p : CodePoint} (h : p.isSurrogate = false) : IsSequence p.utf8 := by
  have range : ¬ (0xD800 ≤ p.toNat ∧ p.toNat ≤ 0xDFFF) := by
    simpa [CodePoint.isSurrogate] using h
  have hp := p.isLt
  unfold CodePoint.utf8
  dsimp only
  split_ifs with one two three
  · apply IsSequence.one
    simp only [Within, UInt8.toNat_ofNat']
    omega
  · apply IsSequence.two <;> simp only [Within, UInt8.toNat_ofNat'] <;> omega
  · apply IsSequence.three <;> simp only [Within, UInt8.toNat_ofNat'] <;> omega
  · apply IsSequence.four <;> simp only [Within, UInt8.toNat_ofNat'] <;> omega

/-- Different code points are encoded differently. -/
theorem utf8_injective : Function.Injective CodePoint.utf8 := by
  intro p q h
  have hp := p.isLt
  have hq := q.isLt
  suffices same : p.toNat = q.toNat by
    cases p
    cases q
    congr
  have numbers := congrArg (List.map UInt8.toNat) h
  unfold CodePoint.utf8 at numbers
  dsimp only at numbers
  -- Encodings of different lengths differ, and of those with one length the bits are compared.
  split_ifs at numbers <;>
    simp only [List.map_cons, List.map_nil, List.cons.injEq, UInt8.toNat_ofNat', reduceCtorEq,
      and_false] at numbers <;>
    omega

/-- Every code point but the surrogates is read back from its encoding, whatever follows. -/
theorem sequence?_utf8_append {p : CodePoint} (h : p.isSurrogate = false) (rest : Bytes) :
    sequence? (p.utf8 ++ rest) = some (p, rest) := by
  obtain ⟨q, -, encodes, reads⟩ := (isSequence_utf8 h).exists_codePoint
  rw [reads, utf8_injective encodes]

/-- A text without surrogates is read back from its encoding, whatever follows. -/
theorem decodeLossy_utf8_append {t : Text} (h : ∀ p ∈ t, p.isSurrogate = false) (rest : Bytes) :
    decodeLossy (t.utf8 ++ rest) = t ++ decodeLossy rest := by
  induction t with
  | nil => rfl
  | cons p t ih =>
    obtain ⟨hp, ht⟩ := List.forall_mem_cons.1 h
    rw [Text.utf8, List.flatMap_cons, List.append_assoc,
      decodeLossy_of_sequence? (sequence?_utf8_append hp _)]
    exact congrArg (p :: ·) (ih ht)

theorem decodeLossy_utf8 {t : Text} (h : ∀ p ∈ t, p.isSurrogate = false) :
    decodeLossy t.utf8 = t := by
  simpa using decodeLossy_utf8_append h []

/-- An encoded text in front does not change whether bytes are well-formed. -/
theorem wellFormed_utf8_append_iff {t : Text} (h : ∀ p ∈ t, p.isSurrogate = false) :
    WellFormed (t.utf8 ++ bytes) ↔ WellFormed bytes := by
  induction t with
  | nil => rfl
  | cons p t ih =>
    obtain ⟨hp, ht⟩ := List.forall_mem_cons.1 h
    rw [Text.utf8, List.flatMap_cons, List.append_assoc, wellFormed_append_iff (isSequence_utf8 hp)]
    exact ih ht

/-- A surrogate is encoded behind `ED`, with a second byte that no well-formed sequence has
there. -/
theorem exists_utf8_of_isSurrogate {p : CodePoint} (h : p.isSurrogate = true) :
    ∃ a b c, p.utf8 = [a, b, c] ∧ a.toNat = 0xED ∧ 0xA0 ≤ b.toNat := by
  have range : 0xD800 ≤ p.toNat ∧ p.toNat ≤ 0xDFFF := by
    simpa [CodePoint.isSurrogate] using h
  refine ⟨.ofNat (0xE0 + p.toNat / 0x1000), .ofNat (0x80 + p.toNat / 0x40 % 0x40),
    .ofNat (0x80 + p.toNat % 0x40), ?_, ?_, ?_⟩
  · unfold CodePoint.utf8
    dsimp only
    rw [if_neg (by omega), if_neg (by omega), if_pos (by omega)]
  · rw [UInt8.toNat_ofNat']
    omega
  · rw [UInt8.toNat_ofNat']
    omega

/-- An encoded surrogate is ill-formed, whatever follows it. -/
theorem not_wellFormed_utf8_append {p : CodePoint} (h : p.isSurrogate = true) :
    ¬ WellFormed (p.utf8 ++ rest) := by
  obtain ⟨a, b, c, hutf8, ha, hb⟩ := exists_utf8_of_isSurrogate h
  intro whole
  generalize hbytes : p.utf8 ++ rest = bytes at whole
  rw [hutf8] at hbytes
  cases whole with
  | nil => cases hbytes
  | append hs _ =>
    -- The leading byte asks for a sequence of three, whose second byte is then too great.
    cases hs with
    | one ha' =>
      injection hbytes with first
      subst first
      unfold Within at ha'
      omega
    | two ha' =>
      injection hbytes with first
      subst first
      unfold Within at ha'
      omega
    | three _ _ _ _ high =>
      injection hbytes with first others
      injection others with second
      subst first second
      have := high ha
      omega
    | four ha' =>
      injection hbytes with first
      subst first
      unfold Within at ha'
      omega

/-- An encoded text is well-formed exactly if it has no surrogates. -/
theorem wellFormed_utf8_iff {t : Text} :
    WellFormed t.utf8 ↔ ∀ p ∈ t, p.isSurrogate = false := by
  induction t with
  | nil => exact iff_of_true .nil (by simp)
  | cons p t ih =>
    rw [Text.utf8, List.flatMap_cons, List.forall_mem_cons, ← ih]
    cases hp : p.isSurrogate with
    | true => exact iff_of_false (not_wellFormed_utf8_append hp) (by simp)
    | false => exact (wellFormed_append_iff (isSequence_utf8 hp)).trans (and_iff_right rfl).symm

theorem wellFormed_dropByteOrderMark_iff :
    WellFormed (dropByteOrderMark bytes) ↔ WellFormed bytes := by
  unfold dropByteOrderMark
  split
  · exact (wellFormed_append_iff (isSequence_utf8 (p := CodePoint.byteOrderMark) rfl)).symm
  · rfl

/-- A document is read without surrogates exactly if its bytes are well-formed. -/
theorem any_isSurrogate_readDocument_iff :
    (readDocument bytes).any CodePoint.isSurrogate = true ↔ ¬ WellFormed bytes := by
  rw [readDocument, ← wellFormed_dropByteOrderMark_iff, ← forall_decodeLossy_iff, List.any_eq_true]
  push Not
  simp

/-- The bytes start with an encoded mark exactly if the text starts with the mark. -/
theorem dropByteOrderMark_utf8 {t : Text} (h : ∀ p ∈ t, p.isSurrogate = false) :
    dropByteOrderMark t.utf8 = t.dropByteOrderMark.utf8 := by
  cases t with
  | nil => rfl
  | cons p t =>
    obtain ⟨hp, -⟩ := List.forall_mem_cons.1 h
    rw [Text.dropByteOrderMark, Text.utf8, List.flatMap_cons]
    by_cases mark : p = CodePoint.byteOrderMark
    · rw [if_pos mark, mark]
      rfl
    · rw [if_neg mark]
      unfold dropByteOrderMark
      split
      case h_1 rest hbytes =>
        -- What is read first is the mark then, and not the first character of the text.
        have first : sequence? (0xEF :: 0xBB :: 0xBF :: rest) =
            some (CodePoint.byteOrderMark, rest) :=
          sequence?_utf8_append (p := CodePoint.byteOrderMark) rfl rest
        have same := (sequence?_utf8_append hp _).symm.trans (hbytes ▸ first)
        exact absurd (Prod.mk.inj (Option.some.inj same)).1 mark
      case h_2 => rfl

/-- Of an encoded text without surrogates, all is read but one byte-order mark. -/
theorem readDocument_utf8 {t : Text} (h : ∀ p ∈ t, p.isSurrogate = false) :
    readDocument t.utf8 = t.dropByteOrderMark := by
  have plain : ∀ p ∈ t.dropByteOrderMark, p.isSurrogate = false := by
    cases t with
    | nil => exact h
    | cons p t =>
      rw [Text.dropByteOrderMark]
      split
      · exact (List.forall_mem_cons.1 h).2
      · exact h
  rw [readDocument, dropByteOrderMark_utf8 h, decodeLossy_utf8 plain]

end RobotsExclusion.Utf8

namespace RobotsExclusion

/-! ### Lengths and byte-order marks -/

/-- The number of bytes that encode a code point. Surrogates take three like their neighbours. -/
def CodePoint.utf8Length (c : CodePoint) : Nat :=
  if c.toNat < 0x80 then 1 else if c.toNat < 0x800 then 2 else if c.toNat < 0x10000 then 3 else 4

theorem CodePoint.length_utf8 (c : CodePoint) : c.utf8.length = c.utf8Length := by
  unfold CodePoint.utf8 CodePoint.utf8Length
  dsimp only
  split
  · rfl
  · split
    · rfl
    · split
      · rfl
      · rfl

theorem Text.length_utf8 (t : Text) : t.utf8.length = (t.map CodePoint.utf8Length).sum := by
  rw [Text.utf8, List.length_flatMap]
  exact congrArg List.sum (List.map_congr_left fun c _ => c.length_utf8)

/-- A byte-order mark is no surrogate. -/
theorem Text.any_isSurrogate_dropByteOrderMark (t : Text) :
    t.dropByteOrderMark.any CodePoint.isSurrogate = t.any CodePoint.isSurrogate := by
  cases t with
  | nil => rfl
  | cons c rest =>
    rw [Text.dropByteOrderMark]
    split
    case isTrue h =>
      subst h
      rw [List.any_cons]
      rfl
    case isFalse => rfl

end RobotsExclusion
