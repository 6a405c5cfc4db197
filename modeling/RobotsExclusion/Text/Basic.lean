/-!
# Text

A text is a list of Unicode code points, lone surrogates included: a document read from bytes
that are not UTF-8 keeps each undecodable byte as a lone surrogate, so `String` is too narrow.

## Main definitions

* `CodePoint` — a number below `0x110000`; `CodePoint.ofChar` embeds the characters of Lean
* `Text` — a list of code points; string literals are read as texts
* `Text.ofNat`, `Text.ofInt` — decimal numerals
* `Text.split`, `Text.lines` — cutting a text at every separator
* `Text.cut?` — cutting a text at its first separator
-/

namespace RobotsExclusion

/-- A Unicode code point. Surrogates are code points too. -/
structure CodePoint where
  toNat : Nat
  isLt : toNat < 0x110000
deriving DecidableEq

namespace CodePoint

/-- Every character is a code point. -/
def ofChar (c : Char) : CodePoint :=
  ⟨c.toNat, by rcases c.valid with h | ⟨_, h⟩ <;> (change c.toNat < _ at h; omega)⟩

instance : Coe Char CodePoint := ⟨ofChar⟩

/-- The code point with this number, if there is one. -/
def ofNat? (n : Nat) : Option CodePoint :=
  if h : n < 0x110000 then some ⟨n, h⟩ else none

/-- The code points `U+D800` to `U+DFFF`, which no UTF-8 text holds. -/
def isSurrogate (c : CodePoint) : Bool := 0xD800 ≤ c.toNat && c.toNat ≤ 0xDFFF

/-- The code points `U+0000` to `U+007F`. -/
def isAscii (c : CodePoint) : Bool := c.toNat < 0x80

/-- The characters `0` to `9`. -/
def isAsciiDigit (c : CodePoint) : Bool := 0x30 ≤ c.toNat && c.toNat ≤ 0x39

/-- The letters `A` to `Z` and `a` to `z`. -/
def isAsciiLetter (c : CodePoint) : Bool :=
  (0x41 ≤ c.toNat && c.toNat ≤ 0x5A) || (0x61 ≤ c.toNat && c.toNat ≤ 0x7A)

/-- The characters `0` to `9`, `A` to `F` and `a` to `f`. -/
def isHexDigit (c : CodePoint) : Bool :=
  c.isAsciiDigit || (0x41 ≤ c.toNat && c.toNat ≤ 0x46) || (0x61 ≤ c.toNat && c.toNat ≤ 0x66)

/-- The value of a hexadecimal digit, `0` for any other character. -/
def hexValue (c : CodePoint) : Nat :=
  if c.isAsciiDigit then c.toNat - 0x30
  else if 0x41 ≤ c.toNat && c.toNat ≤ 0x46 then c.toNat - 0x37
  else if 0x61 ≤ c.toNat && c.toNat ≤ 0x66 then c.toNat - 0x57
  else 0

/-- Maps `A` to `Z` to `a` to `z` and keeps all else. -/
def asciiLower (c : CodePoint) : CodePoint :=
  if h : 0x41 ≤ c.toNat ∧ c.toNat ≤ 0x5A then ⟨c.toNat + 0x20, by omega⟩ else c

/-- The code point lies in one of the ranges, whose ends count. -/
def inRanges (ranges : List (Nat × Nat)) (c : CodePoint) : Bool :=
  ranges.any fun range => range.1 ≤ c.toNat && c.toNat ≤ range.2

/-- The character with this number, if it is no surrogate. -/
def toChar? (c : CodePoint) : Option Char :=
  if h : c.toNat.isValidChar then some (Char.ofNatAux c.toNat h) else none

end CodePoint

/-- A sequence of code points. -/
abbrev Text := List CodePoint

namespace Text

/-- The text of a string. -/
def ofString (s : String) : Text := s.toList.map CodePoint.ofChar

instance : Coe String Text := ⟨ofString⟩

/-- The string of a text without surrogates. -/
def toString? (t : Text) : Option String := (t.mapM CodePoint.toChar?).map String.ofList

/-- The decimal numeral of a number, without leading zeros. -/
def ofNat (n : Nat) : Text := (Nat.toDigits 10 n).map CodePoint.ofChar

/-- The decimal numeral of an integer, with a minus sign if it is negative. -/
def ofInt : Int → Text
  | .ofNat n => ofNat n
  | .negSucc n => "-" ++ ofNat (n + 1)

/-- The hexadecimal numeral of a number, in lower case and with at least `width` digits. -/
def hex (width n : Nat) : Text :=
  let digits := (Nat.toDigits 16 n).map CodePoint.ofChar
  List.replicate (width - digits.length) (CodePoint.ofChar '0') ++ digits

/-- The pieces between the separators: the first piece and the later ones. -/
def pieces (separator : CodePoint) (t : Text) : Text × List Text :=
  t.foldr (fun c (piece, later) =>
    if c = separator then ([], piece :: later) else (c :: piece, later)) ([], [])

/-- Cuts a text at every separator; there is one piece more than there are separators. -/
def split (separator : CodePoint) (t : Text) : List Text :=
  let (piece, later) := t.pieces separator
  piece :: later

/-- The lines of a text, which line feeds separate. -/
def lines (t : Text) : List Text := t.split '\n'

/-- Cuts a text at its first separator, if it has one. -/
def cut? (separator : CodePoint) (t : Text) : Option (Text × Text) :=
  match t.dropWhile (· ≠ separator) with
  | [] => none
  | _ :: after => some (t.takeWhile (· ≠ separator), after)

/-- What precedes the first separator, or the whole text. -/
def before (separator : CodePoint) (t : Text) : Text := t.takeWhile (· ≠ separator)

/-- What follows the first separator, or nothing. -/
def after (separator : CodePoint) (t : Text) : Text := (t.dropWhile (· ≠ separator)).drop 1

/-- What follows the last separator, or the whole text. -/
def afterLast (separator : CodePoint) (t : Text) : Text :=
  (t.reverse.takeWhile (· ≠ separator)).reverse

/-- Joins texts with a separator between neighbours. -/
def join (separator : Text) (ts : List Text) : Text := List.intercalate separator ts

/-- All texts one after another. -/
def concat (ts : List Text) : Text := ts.flatten

end Text

end RobotsExclusion
