import RobotsExclusion.Text.Basic

/-!
# UTF-8

The encoding of texts as bytes and the ways back.

## Main definitions

* `Text.utf8` — the bytes of a text, a surrogate taking three bytes like its neighbours
* `Text.utf8?` — the same for a text without surrogates, and nothing for any other
* `Utf8.sequence?` — reads one well-formed sequence from the start of some bytes
* `Utf8.decodeLossy` — reads any bytes; a byte that belongs to no well-formed sequence becomes
  the lone surrogate `U+DC00 + byte`
* `Utf8.decode` — reads well-formed bytes, and tells where and why others are ill-formed
* `Utf8.decodeReplacing` — reads any bytes, each ill-formed sequence as a replacement character
* `Utf8.unencodable?` — the surrogates that keep a text from being encoded
* `Utf8.decodeWide?` — reads well-formed bytes in which surrogates may be encoded too
* `Utf8.readDocument` — reads the bytes of a document without one byte-order mark at their start
-/

namespace RobotsExclusion

/-- A sequence of bytes. -/
abbrev Bytes := List UInt8

/-- The byte-order mark. -/
def CodePoint.byteOrderMark : CodePoint := ⟨0xFEFF, by decide⟩

/-- The character that replaces what cannot be read. -/
def CodePoint.replacement : CodePoint := ⟨0xFFFD, by decide⟩

/-- The bytes of a code point: one below `U+0080`, two below `U+0800`, three below `U+10000`,
else four. -/
def CodePoint.utf8 (c : CodePoint) : Bytes :=
  let n := c.toNat
  if n < 0x80 then [.ofNat n]
  else if n < 0x800 then [.ofNat (0xC0 + n / 0x40), .ofNat (0x80 + n % 0x40)]
  else if n < 0x10000 then
    [.ofNat (0xE0 + n / 0x1000), .ofNat (0x80 + n / 0x40 % 0x40), .ofNat (0x80 + n % 0x40)]
  else
    [.ofNat (0xF0 + n / 0x40000), .ofNat (0x80 + n / 0x1000 % 0x40),
      .ofNat (0x80 + n / 0x40 % 0x40), .ofNat (0x80 + n % 0x40)]

namespace Text

/-- The bytes of a text. -/
def utf8 (t : Text) : Bytes := t.flatMap CodePoint.utf8

/-- The bytes of a text that UTF-8 can hold. -/
def utf8? (t : Text) : Option Bytes := if t.any CodePoint.isSurrogate then none else some t.utf8

/-- Drops one byte-order mark from the start. -/
def dropByteOrderMark : Text → Text
  | [] => []
  | c :: rest => if c = CodePoint.byteOrderMark then rest else c :: rest

end Text

namespace Utf8

/-- A byte that continues a sequence. -/
def isContinuation (b : UInt8) : Bool := 0x80 ≤ b && b ≤ 0xBF

/-- What a leading byte says about its sequence. -/
structure Lead where
  /-- The bits of the code point that the leading byte holds. -/
  bits : Nat
  /-- How many continuation bytes follow. -/
  following : Nat
  /-- The least second byte. -/
  low : UInt8
  /-- The greatest second byte. -/
  high : UInt8

/-- What a byte says that starts a well-formed sequence. The bounds on the second byte keep out
overlong forms, surrogates and numbers above `U+10FFFF`. -/
def lead? (b : UInt8) : Option Lead :=
  if b < 0x80 then some ⟨b.toNat, 0, 0x00, 0xFF⟩
  else if b < 0xC2 then none
  else if b < 0xE0 then some ⟨b.toNat % 0x20, 1, 0x80, 0xBF⟩
  else if b = 0xE0 then some ⟨b.toNat % 0x10, 2, 0xA0, 0xBF⟩
  else if b = 0xED then some ⟨b.toNat % 0x10, 2, 0x80, 0x9F⟩
  else if b < 0xF0 then some ⟨b.toNat % 0x10, 2, 0x80, 0xBF⟩
  else if b = 0xF0 then some ⟨b.toNat % 0x08, 3, 0x90, 0xBF⟩
  else if b < 0xF4 then some ⟨b.toNat % 0x08, 3, 0x80, 0xBF⟩
  else if b = 0xF4 then some ⟨b.toNat % 0x08, 3, 0x80, 0x8F⟩
  else none

/-- The second byte, if there is one, lies within the bounds. -/
def Lead.admits (lead : Lead) : Bytes → Bool
  | [] => true
  | b :: _ => lead.low ≤ b && b ≤ lead.high

/-- Reads a number of continuation bytes and puts their bits behind `bits`. -/
def continue? (bits : Nat) : Nat → Bytes → Option (Nat × Bytes)
  | 0, rest => some (bits, rest)
  | _ + 1, [] => none
  | k + 1, b :: rest =>
    if isContinuation b then continue? (bits * 0x40 + b.toNat % 0x40) k rest else none

/-- Reads one well-formed sequence from the start: its code point and the bytes behind it. -/
def sequence? : Bytes → Option (CodePoint × Bytes)
  | [] => none
  | a :: rest =>
    match lead? a with
    | none => none
    | some lead =>
      if lead.admits rest then
        match continue? lead.bits lead.following rest with
        | none => none
        | some (n, rest) => (CodePoint.ofNat? n).map fun c => (c, rest)
      else none

theorem length_le_of_continue? {bits k n : Nat} {bytes rest : Bytes}
    (h : continue? bits k bytes = some (n, rest)) : rest.length ≤ bytes.length := by
  fun_induction continue? bits k bytes with
  | case1 => simp_all
  | case2 => simp at h
  | case3 bits k b bytes _ ih => exact Nat.le_succ_of_le (ih h)
  | case4 => simp at h

/-- Reading a sequence takes at least one byte. -/
theorem length_lt_of_sequence? {bytes rest : Bytes} {c : CodePoint}
    (h : sequence? bytes = some (c, rest)) : rest.length < bytes.length := by
  unfold sequence? at h
  split at h
  · simp at h
  · split at h
    · simp at h
    · split at h
      · split at h
        · simp at h
        · rename_i hread
          simp only [Option.map_eq_some_iff, Prod.mk.injEq] at h
          obtain ⟨_, _, _, rfl⟩ := h
          have := length_le_of_continue? hread
          simp only [List.length_cons]
          omega
      · simp at h

/-- The lone surrogate that stands for an undecodable byte. -/
def escapeByte (b : UInt8) : CodePoint :=
  ⟨0xDC00 + b.toNat, by have := b.toNat_lt; omega⟩

/-- Reads bytes behind `done`, which holds the code points already read, the last one first. -/
def decodeLossyOnto (done : Text) (bytes : Bytes) : Text :=
  match _h : sequence? bytes with
  | some (c, rest) => decodeLossyOnto (c :: done) rest
  | none =>
    match bytes with
    | [] => done
    | b :: rest => decodeLossyOnto (escapeByte b :: done) rest
termination_by bytes.length
decreasing_by
  · exact length_lt_of_sequence? _h
  · exact Nat.lt_succ_self _

/-- Reads any bytes, each one that belongs to no well-formed sequence as a lone surrogate. -/
def decodeLossy (bytes : Bytes) : Text := (decodeLossyOnto [] bytes).reverse

/-- Why bytes are ill-formed. -/
inductive Fault where
  /-- No sequence starts with this byte. -/
  | start
  /-- A byte that does not continue the sequence stands within it. -/
  | continuation
  /-- The bytes end within a sequence. -/
  | truncated
deriving DecidableEq

/-- An ill-formed sequence: its first byte, the position of that byte, and the number of bytes
that could have been the start of a sequence. -/
structure Error where
  fault : Fault
  byte : UInt8
  position : Nat
  length : Nat
deriving DecidableEq

/-- What is wrong at the start of bytes that do not start with a well-formed sequence. -/
def errorAt (position : Nat) (b : UInt8) (rest : Bytes) : Error :=
  match lead? b with
  | none => ⟨.start, b, position, 1⟩
  | some lead =>
    let fitting :=
      if lead.admits rest then
        ((rest.take lead.following).takeWhile isContinuation).length
      else 0
    ⟨if fitting = rest.length then .truncated else .continuation, b, position, 1 + fitting⟩

/-- Reads bytes behind `done`, which holds the code points already read, the last one first. -/
def decodeOnto (done : Text) (position : Nat) (bytes : Bytes) : Except Error Text :=
  match _h : sequence? bytes with
  | some (c, rest) => decodeOnto (c :: done) (position + c.utf8.length) rest
  | none =>
    match bytes with
    | [] => .ok done.reverse
    | b :: rest => .error (errorAt position b rest)
termination_by bytes.length
decreasing_by exact length_lt_of_sequence? _h

/-- Reads well-formed bytes. -/
def decode (bytes : Bytes) : Except Error Text := decodeOnto [] 0 bytes

/-- The cause in words. -/
def Fault.message : Fault → Text
  | .start => "invalid start byte"
  | .continuation => "invalid continuation byte"
  | .truncated => "unexpected end of data"

/-- The error in words. One byte is shown, of several only their positions. -/
def Error.message (e : Error) : Text :=
  let place : Text :=
    if e.length = 1 then
      "byte 0x" ++ Text.hex 2 e.byte.toNat ++ " in position " ++ Text.ofNat e.position
    else
      "bytes in position " ++ Text.ofNat e.position ++ "-"
        ++ Text.ofNat (e.position + e.length - 1)
  "'utf-8' codec can't decode " ++ place ++ ": " ++ e.fault.message

/-- Reads bytes behind `done`, which holds the code points already read, the last one first. -/
def decodeReplacingOnto (done : Text) (bytes : Bytes) : Text :=
  match _h : sequence? bytes with
  | some (c, rest) => decodeReplacingOnto (c :: done) rest
  | none =>
    match bytes with
    | [] => done.reverse
    | b :: rest =>
      decodeReplacingOnto (.replacement :: done) (rest.drop ((errorAt 0 b rest).length - 1))
termination_by bytes.length
decreasing_by
  · exact length_lt_of_sequence? _h
  · simp only [List.length_drop, List.length_cons]
    omega

/-- Reads any bytes, each ill-formed sequence as one replacement character. -/
def decodeReplacing (bytes : Bytes) : Text := decodeReplacingOnto [] bytes

/-- The bytes that a text is read from by `decodeLossy`. -/
def encodeLossy (t : Text) : Bytes :=
  t.flatMap fun c =>
    if 0xDC80 ≤ c.toNat ∧ c.toNat ≤ 0xDCFF then [.ofNat (c.toNat - 0xDC00)] else c.utf8

/-- Surrogates in a text, which UTF-8 cannot hold: the first one, its position, and how many stand
there. -/
structure Unencodable where
  first : CodePoint
  position : Nat
  length : Nat
deriving DecidableEq

/-- The first surrogates in a text. -/
def unencodable? (t : Text) : Option Unencodable :=
  match t.dropWhile fun c => !c.isSurrogate with
  | [] => none
  | c :: rest =>
    some ⟨c, t.length - (rest.length + 1), 1 + (rest.takeWhile CodePoint.isSurrogate).length⟩

/-- What is said of surrogates in a text. -/
def Unencodable.message (u : Unencodable) : Text :=
  let place : Text :=
    if u.length = 1 then
      "character '\\u" ++ Text.hex 4 u.first.toNat ++ "' in position " ++ Text.ofNat u.position
    else
      "characters in position " ++ Text.ofNat u.position ++ "-"
        ++ Text.ofNat (u.position + u.length - 1)
  "'utf-8' codec can't encode " ++ place ++ ": surrogates not allowed"

/-- Reads one well-formed sequence or one encoded surrogate from the start. -/
def wideSequence? (bytes : Bytes) : Option (CodePoint × Bytes) :=
  match sequence? bytes with
  | some result => some result
  | none =>
    match bytes with
    | a :: b :: c :: rest =>
      if a = 0xED ∧ 0xA0 ≤ b ∧ b ≤ 0xBF ∧ isContinuation c then
        (CodePoint.ofNat? (0xD000 + b.toNat % 0x40 * 0x40 + c.toNat % 0x40)).map (·, rest)
      else none
    | _ => none

theorem length_lt_of_wideSequence? {bytes rest : Bytes} {c : CodePoint}
    (h : wideSequence? bytes = some (c, rest)) : rest.length < bytes.length := by
  unfold wideSequence? at h
  split at h
  · rename_i hread
    simp only [Option.some.injEq] at h
    subst h
    exact length_lt_of_sequence? hread
  · split at h
    · split at h
      · simp only [Option.map_eq_some_iff, Prod.mk.injEq] at h
        obtain ⟨_, _, _, rfl⟩ := h
        simp only [List.length_cons]
        omega
      · simp at h
    · simp at h

/-- Reads bytes behind `done`, which holds the code points already read, the last one first. -/
def decodeWideOnto? (done : Text) (bytes : Bytes) : Option Text :=
  match _h : wideSequence? bytes with
  | some (c, rest) => decodeWideOnto? (c :: done) rest
  | none => if bytes.isEmpty then some done.reverse else none
termination_by bytes.length
decreasing_by exact length_lt_of_wideSequence? _h

/-- Reads well-formed bytes in which surrogates may be encoded too. -/
def decodeWide? (bytes : Bytes) : Option Text := decodeWideOnto? [] bytes

/-- The bytes without one encoded byte-order mark at their start. -/
def dropByteOrderMark : Bytes → Bytes
  | 0xEF :: 0xBB :: 0xBF :: rest => rest
  | bytes => bytes

/-- Reads the bytes of a document, whatever they are. -/
def readDocument (bytes : Bytes) : Text := decodeLossy (dropByteOrderMark bytes)

end Utf8

end RobotsExclusion
