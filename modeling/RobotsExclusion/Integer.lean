import RobotsExclusion.Numeral
import RobotsExclusion.Text.Quoted

/-!
# Integers in texts

Reading a whole text as an integer in some base, and what is said when it is none.

## Main definitions

* `Integer.ofText` — the integer that a text denotes
* `Integer.Error` — why a text denotes none
* `Integer.decimal?` — the decimal numeral of an integer that is not too long to be written
-/

namespace RobotsExclusion

namespace Integer

/-- The greatest number of decimal digits that is read or written. -/
def maxDigits : Nat := 4300

/-- Why a text denotes no integer. -/
inductive Error where
  /-- The text, as it is shown, is no numeral of the base. -/
  | invalid (base : Nat) (shown : Text)
  /-- The numeral has too many digits. -/
  | tooLong (digits : Nat)
deriving DecidableEq

/-- The greatest length of a text that is shown in full. -/
def maxShown : Nat := 200

/-- The error in words. -/
def Error.message : Error → Text
  | .invalid base shown =>
    "invalid literal for int() with base " ++ Text.ofNat base ++ ": " ++ shown.take maxShown
  | .tooLong digits =>
    "Exceeds the limit (" ++ Text.ofNat maxDigits
      ++ " digits) for integer string conversion: value has " ++ Text.ofNat digits
      ++ " digits; use sys.set_int_max_str_digits() to increase the limit"

/-- The value of a digit: a decimal digit of any script or, in base sixteen, a letter. -/
def digit? (base : Nat) (c : CodePoint) : Option Nat :=
  let value := if c.isHexDigit then some c.hexValue else c.digit?
  value.filter (· < base)

/-- The letter that may mark a base behind a leading zero. -/
def marker? : Nat → Option CodePoint
  | 2 => some 'b'
  | 8 => some 'o'
  | 16 => some 'x'
  | _ => none

/-- A numeral without the mark of its base, and without an underscore that follows the mark. -/
def dropMarker (base : Nat) (t : Text) : Text :=
  match t with
  | zero :: mark :: rest =>
    if zero = '0' ∧ marker? base = some mark.asciiLower then
      if rest.head? = some (CodePoint.ofChar '_') then rest.drop 1 else rest
    else t
  | _ => t

/-- Reads a numeral without a sign. -/
def ofDigits? (base : Nat) (t : Text) : Option (List Nat × Text) := do
  let isDigit := fun c => (digit? base c).isSome
  let run := t.takeWhile fun c => isDigit c || c = '_'
  let digits ← Numeral.dropUnderscores? isDigit false run
  if digits.isEmpty then none else some (digits.filterMap (digit? base), t.drop run.length)

/-- Numerals of a base that is no power of two must not be too long. -/
def isLimited (base : Nat) : Bool := base = 10

/-- Reads a whole text as an integer: perhaps a sign, perhaps the mark of the base, digits with
single underscores between them, and white space around it all. `shown` stands for the text in the
error. -/
def read (base : Nat) (t shown : Text) : Except Error Int :=
  let body := Numeral.unpad t
  let s := Numeral.sign body
  match ofDigits? base (dropMarker base (body.drop s.length)) with
  | none => .error (.invalid base shown)
  | some (digits, rest) =>
    if isLimited base && maxDigits < digits.length then .error (.tooLong digits.length)
    else if !rest.isEmpty then .error (.invalid base shown)
    else
      let n := digits.foldl (fun n d => base * n + d) 0
      .ok (if Numeral.isMinus s then -n else n)

/-- Reads a whole text as an integer. -/
def ofText (base : Nat) (t : Text) : Except Error Int := read base t t.quoted

/-- The decimal numeral of an integer, unless it has too many digits. -/
def decimal? (n : Int) : Option Text :=
  if Nat.pow 10 maxDigits ≤ n.natAbs then none else some (Text.ofInt n)

/-- What is said of an integer with too many digits to be written. -/
def tooLongToWrite : Text :=
  "Exceeds the limit (" ++ Text.ofNat maxDigits
    ++ " digits) for integer string conversion; "
    ++ "use sys.set_int_max_str_digits() to increase the limit"

end Integer

end RobotsExclusion
