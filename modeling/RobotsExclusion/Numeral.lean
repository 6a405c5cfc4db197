import RobotsExclusion.Binary64
import RobotsExclusion.Text.Blank
import RobotsExclusion.Text.Digit

/-!
# Numerals

The texts that denote numbers, in the decimal digits of any script.

## Main definitions

* `Numeral` — the exact number that a text denotes
* `Numeral.leading?` — the numeral at the start of a text
* `Numeral.ofText?` — the number that a whole text denotes
* `Numeral.toBinary64` — the nearest binary floating-point number
-/

namespace RobotsExclusion

/-- The exact value of a numeral. The decimal ones are `± digits · 10 ^ exponent`. -/
inductive Numeral where
  | nan
  | infinity (negative : Bool)
  | decimal (negative : Bool) (digits : List Nat) (exponent : Int)
deriving DecidableEq

namespace Numeral

/-- A plus or a minus sign at the start. -/
def sign (t : Text) : Text :=
  match t with
  | [] => []
  | c :: _ => if c = '+' ∨ c = '-' then [c] else []

/-- The digits at the start. -/
def digits (t : Text) : Text := t.takeWhile CodePoint.isDigit

/-- The digits at the start with a point before, among or after them; nothing if there is no
digit. -/
def mantissa (t : Text) : Text :=
  let whole := digits t
  match t.drop whole.length with
  | [] => whole
  | c :: rest =>
    if c = '.' then
      let fraction := digits rest
      if whole.isEmpty && fraction.isEmpty then [] else whole ++ c :: fraction
    else whole

/-- An exponent at the start: a letter `e`, perhaps a sign, and digits. -/
def exponent (t : Text) : Text :=
  match t with
  | [] => []
  | c :: rest =>
    if c = 'e' ∨ c = 'E' then
      let s := sign rest
      let ds := digits (rest.drop s.length)
      if ds.isEmpty then [] else c :: s ++ ds
    else []

/-- The word for the infinite number. -/
def infinityWord : Text := "Infinity"

/-- The longest numeral at the start of a text: perhaps a sign, then the word for infinity or
digits with at most one point and perhaps an exponent. -/
def leading? (t : Text) : Option Text :=
  let s := sign t
  let body := t.drop s.length
  if infinityWord.isPrefixOf body then some (s ++ infinityWord)
  else
    let m := mantissa body
    if m.isEmpty then none else some (s ++ m ++ exponent (body.drop m.length))

/-- White space that may surround a numeral. -/
def isPadding (c : CodePoint) : Bool :=
  if c.isAscii then (0x9 ≤ c.toNat && c.toNat ≤ 0xD) || c.toNat == 0x20 else c.isBlank

/-- A text without the white space around it. -/
def unpad (t : Text) : Text :=
  ((t.dropWhile isPadding).reverse.dropWhile isPadding).reverse

/-- Takes out underscores. Each must stand between two digits; `previous` tells whether a digit
stands before. -/
def dropUnderscores? (isDigit : CodePoint → Bool) (previous : Bool) : Text → Option Text
  | [] => some []
  | c :: rest =>
    if c = '_' then
      if previous && (rest.head?.map isDigit).getD false then dropUnderscores? isDigit false rest
      else none
    else (dropUnderscores? isDigit (isDigit c) rest).map (c :: ·)

/-- The sign at the start is a minus. -/
def isMinus (s : Text) : Bool := s = "-"

/-- The integer that a sign and digits denote. -/
def signedNat (s ds : Text) : Int :=
  if isMinus s then -(Text.natOfDigits ds) else Text.natOfDigits ds

/-- The decimal number that digits with at most one point and perhaps an exponent denote. -/
def decimalOfText? (negative : Bool) (t : Text) : Option Numeral :=
  let m := mantissa t
  let e := exponent (t.drop m.length)
  if m.isEmpty || !(t.drop (m.length + e.length)).isEmpty then none
  else
    let whole := m.before '.'
    let fraction := m.after '.'
    let scale := signedNat (sign (e.drop 1)) (e.drop 1)
    some (.decimal negative (Text.digitValues whole ++ Text.digitValues fraction)
      (scale - fraction.length))

/-- The number that a whole text denotes: a decimal number or a word for an infinite or undefined
one in any letter case, perhaps signed, with white space around it and underscores between
digits. -/
def ofText? (t : Text) : Option Numeral := do
  let t ← if t.contains (CodePoint.ofChar '_') then dropUnderscores? CodePoint.isDigit false (unpad t)
    else some (unpad t)
  let s := sign t
  let body := t.drop s.length
  let word := body.map CodePoint.asciiLower
  if word = "inf" ∨ word = "infinity" then some (.infinity (isMinus s))
  else if word = "nan" then some .nan
  else decimalOfText? (isMinus s) body

/-- The binary floating-point number nearest to a numeral. Where the position of the first digit
alone shows that the number is out of range, the digits are not looked at. -/
def toBinary64 : Numeral → Binary64
  | .nan => .nan
  | .infinity negative => .infinite negative
  | .decimal negative digits exponent =>
    let significant := digits.dropWhile (· = 0)
    let magnitude := significant.length + exponent
    if significant.isEmpty then .zero negative
    else if 310 < magnitude then .infinite negative
    else if magnitude < -330 then .zero negative
    else
      .round negative (natOfDigits significant * Nat.pow 10 exponent.toNat)
        (Nat.pow 10 (-exponent).toNat)

end Numeral

end RobotsExclusion
