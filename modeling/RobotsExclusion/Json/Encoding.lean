import RobotsExclusion.Utf8

/-!
# Encodings of JSON

A JSON text comes in UTF-8, UTF-16 or UTF-32. A byte-order mark tells which, or the zeros among its
first bytes: the first characters of a JSON text are ASCII.

## Main definitions

* `Json.Encoding.ofBytes` — the encoding of some bytes
* `Json.Encoding.decode?` — reads bytes in an encoding; lone surrogates may be encoded
-/

namespace RobotsExclusion.Json

/-- The encodings of JSON texts; those of more than a byte with the greater byte first or last. -/
inductive Encoding where
  | utf8
  | utf16 (bigEndian : Bool)
  | utf32 (bigEndian : Bool)
deriving DecidableEq

namespace Encoding

/-- The encoding of some bytes, and the bytes without a byte-order mark. -/
def ofBytes : Bytes → Encoding × Bytes
  | 0x00 :: 0x00 :: 0xFE :: 0xFF :: rest => (utf32 true, rest)
  | 0xFF :: 0xFE :: 0x00 :: 0x00 :: rest => (utf32 false, rest)
  | 0xFE :: 0xFF :: rest => (utf16 true, rest)
  | 0xFF :: 0xFE :: rest => (utf16 false, rest)
  | 0xEF :: 0xBB :: 0xBF :: rest => (utf8, rest)
  | a :: b :: c :: d :: rest =>
    let all := a :: b :: c :: d :: rest
    if a = 0 then (if b = 0 then utf32 true else utf16 true, all)
    else if b = 0 then (if c = 0 ∧ d = 0 then utf32 false else utf16 false, all)
    else (utf8, all)
  | [a, b] => if a = 0 then (utf16 true, [a, b]) else if b = 0 then (utf16 false, [a, b])
    else (utf8, [a, b])
  | bytes => (utf8, bytes)

/-- The numbers that pairs of bytes give. -/
def pairs? (bigEndian : Bool) : Bytes → Option (List Nat)
  | [] => some []
  | [_] => none
  | a :: b :: rest =>
    let n := if bigEndian then 0x100 * a.toNat + b.toNat else 0x100 * b.toNat + a.toNat
    (pairs? bigEndian rest).map (n :: ·)

/-- The numbers that groups of four bytes give. -/
def quads? (bigEndian : Bool) (bytes : Bytes) : Option (List Nat) := do
  let rec join : List Nat → Option (List Nat)
    | [] => some []
    | [_] => none
    | a :: b :: rest =>
      (join rest).map ((if bigEndian then 0x10000 * a + b else 0x10000 * b + a) :: ·)
  join (← pairs? bigEndian bytes)

/-- The code points of UTF-16 units. A surrogate without its counterpart stands for itself. -/
def ofUnits : List Nat → List Nat
  | [] => []
  | [a] => [a]
  | a :: b :: rest =>
    if 0xD800 ≤ a ∧ a < 0xDC00 ∧ 0xDC00 ≤ b ∧ b < 0xE000 then
      (0x10000 + (a - 0xD800) * 0x400 + (b - 0xDC00)) :: ofUnits rest
    else a :: ofUnits (b :: rest)

/-- Reads bytes in an encoding. -/
def decode? : Encoding → Bytes → Option Text
  | utf8, bytes => Utf8.decodeWide? bytes
  | utf16 bigEndian, bytes => do (ofUnits (← pairs? bigEndian bytes)).mapM CodePoint.ofNat?
  | utf32 bigEndian, bytes => do (← quads? bigEndian bytes).mapM CodePoint.ofNat?

end Encoding

end RobotsExclusion.Json
