import RobotsExclusion.Binary64
import RobotsExclusion.Text.Basic

/-!
# Shortest decimal forms

The decimal text of a binary floating-point number: the fewest digits that read back as the number,
and of those the nearest.

## Main definitions

* `Binary64.shortest` — the digits of a positive number and the power of ten that scales them
* `Binary64.toText` — the decimal text of a number
-/

namespace RobotsExclusion.Binary64

/-- The exponent `k` with `10 ^ (k - 1) ≤ num / den < 10 ^ k`, for a positive quotient that is a
whole number or at least no power of ten. -/
def decimalExponent (num den : Nat) : Int :=
  if den ≤ num then (Nat.toDigits 10 (num / den)).length
  else 1 - (Nat.toDigits 10 (den / num)).length

/-- A decimal number reads back as a quotient. -/
def readsBack (num den digits : Nat) (scale : Int) : Bool :=
  round false (digits * Nat.pow 10 scale.toNat) (Nat.pow 10 (-scale).toNat) = round false num den

/-- The decimal number of `count` digits that reads back as a quotient, if there is one. Its digits
are the integers next to the quotient on the scale of its last digit; the nearer one is taken, and
of two equally near ones the even one. -/
def withDigits? (num den : Nat) (count : Nat) : Option (Nat × Int) :=
  let scale := decimalExponent num den - count
  let scaledNum := num * Nat.pow 10 (-scale).toNat
  let scaledDen := den * Nat.pow 10 scale.toNat
  let below := scaledNum / scaledDen
  let nearest := roundQuotient scaledNum scaledDen
  let other := if nearest = below then below + 1 else below
  if readsBack num den nearest scale then some (nearest, scale)
  else if readsBack num den other scale then some (other, scale)
  else none

/-- The digits of a positive quotient and the power of ten that scales them. Seventeen digits are
enough for every number of the format. -/
def shortest (num den : Nat) : Nat × Int :=
  ((List.range 17).findSome? fun n => withDigits? num den (n + 1)).getD (0, 0)

/-- The digits of a number without the zeros at its end. -/
def significantDigits (n : Nat) : Text :=
  ((Text.ofNat n).reverse.dropWhile (· = CodePoint.ofChar '0')).reverse

/-- A row of zeros. -/
def zeros (n : Nat) : Text := List.replicate n (CodePoint.ofChar '0')

/-- The exponent behind a number in scientific form: a sign and two digits at least. -/
def exponentText (e : Int) : Text :=
  let digits := Text.ofNat e.natAbs
  (if e < 0 then Text.ofString "e-" else "e+") ++ zeros (2 - digits.length) ++ digits

/-- The text of digits with the point behind the first `point` of them. Small and large numbers
have an exponent; all others have a point with digits on both of its sides. -/
def layOut (digits : Text) (point : Int) : Text :=
  if point ≤ -4 ∨ 16 < point then
    let fraction : Text := if digits.length ≤ 1 then [] else "." ++ digits.drop 1
    digits.take 1 ++ fraction ++ exponentText (point - 1)
  else if point ≤ 0 then "0." ++ zeros (-point).toNat ++ digits
  else if digits.length ≤ point.toNat then digits ++ zeros (point.toNat - digits.length) ++ ".0"
  else digits.take point.toNat ++ "." ++ digits.drop point.toNat

/-- The decimal text of a number. -/
def toText : Binary64 → Text
  | .nan => "nan"
  | .infinite negative => if negative then "-inf" else "inf"
  | .finite negative significand exponent =>
    let sign : Text := if negative then "-" else []
    if significand = 0 then sign ++ "0.0"
    else
      let (n, scale) :=
        shortest (significand * Nat.pow 2 exponent.toNat) (Nat.pow 2 (-exponent).toNat)
      sign ++ layOut (significantDigits n) ((Text.ofNat n).length + scale)

end RobotsExclusion.Binary64
