/-!
# Binary floating-point numbers

The numbers of the IEEE 754 format binary64, and rounding an exact quotient to the nearest of
them, a tie to the even neighbour.

## Main definitions

* `Binary64` — not a number, an infinity, or `± significand · 2 ^ exponent`
* `Binary64.round` — the nearest number to a quotient
* `Binary64.toBits` — the 64 bits of a number
* `Binary64.isNegative` — below zero; minus zero is not
* `Binary64.truncate?` — the integer part
* `Binary64.add`, `Binary64.mul`, `Binary64.neg` — rounded arithmetic
-/

namespace RobotsExclusion

/-- A number of the format. A finite one has the least exponent from `-1074` on for which its
significand is below `2 ^ 53`. -/
inductive Binary64 where
  | nan
  | infinite (negative : Bool)
  | finite (negative : Bool) (significand : Nat) (exponent : Int)
deriving DecidableEq

namespace Binary64

/-- The least exponent. -/
def minExponent : Int := -1074

/-- The greatest exponent. -/
def maxExponent : Int := 971

/-- Zero with a sign. -/
def zero (negative : Bool) : Binary64 := .finite negative 0 minExponent

/-- The exponent `k` with `2 ^ k ≤ num / den < 2 ^ (k + 1)`, for a positive quotient. -/
def binaryExponent (num den : Nat) : Int :=
  let k : Int := (num.log2 : Int) - den.log2
  if den * Nat.pow 2 k.toNat ≤ num * Nat.pow 2 (-k).toNat then k else k - 1

/-- The integer nearest to a quotient, a tie going to the even neighbour. -/
def roundQuotient (num den : Nat) : Nat :=
  let quotient := num / den
  let twice := 2 * (num % den)
  if den < twice ∨ (twice = den ∧ quotient % 2 = 1) then quotient + 1 else quotient

/-- The number nearest to `± num / den`. What is too large becomes infinite. -/
def round (negative : Bool) (num den : Nat) : Binary64 :=
  if num = 0 then zero negative
  else
    let exponent := max (binaryExponent num den - 52) minExponent
    let significand :=
      roundQuotient (num * Nat.pow 2 (-exponent).toNat) (den * Nat.pow 2 exponent.toNat)
    if significand < Nat.pow 2 53 then
      if maxExponent < exponent then .infinite negative
      else .finite negative significand exponent
    else
      if maxExponent < exponent + 1 then .infinite negative
      else .finite negative (Nat.pow 2 52) (exponent + 1)

/-- The 64 bits of a number, read as a natural number: the sign, eleven bits for the exponent and
52 bits for the significand without its leading bit. -/
def toBits : Binary64 → Nat
  | .nan => 0x7FF8000000000000
  | .infinite negative => negative.toNat * Nat.pow 2 63 + 0x7FF0000000000000
  | .finite negative significand exponent =>
    negative.toNat * Nat.pow 2 63 + ((exponent - minExponent).toNat * Nat.pow 2 52 + significand)

/-- Below zero. Minus zero is not, nor is what is not a number. -/
def isNegative : Binary64 → Bool
  | .nan => false
  | .infinite negative => negative
  | .finite negative significand _ => negative && significand != 0

/-- Equal to zero, whatever its sign. -/
def isZero : Binary64 → Bool
  | .finite _ significand _ => significand == 0
  | _ => false

/-- The integer part, for a finite number. -/
def truncate? : Binary64 → Option Int
  | .finite negative significand exponent =>
    let magnitude := significand * Nat.pow 2 exponent.toNat / Nat.pow 2 (-exponent).toNat
    some (if negative then -magnitude else magnitude)
  | _ => none

/-- The number with its sign changed. -/
def neg : Binary64 → Binary64
  | .nan => .nan
  | .infinite negative => .infinite !negative
  | .finite negative significand exponent => .finite (!negative) significand exponent

/-- The number nearest to `± significand · 2 ^ exponent`. -/
def ofScaled (negative : Bool) (significand : Nat) (exponent : Int) : Binary64 :=
  round negative (significand * Nat.pow 2 exponent.toNat) (Nat.pow 2 (-exponent).toNat)

/-- The number nearest to a natural number. -/
def ofNat (n : Nat) : Binary64 := round false n 1

/-- The rounded product. -/
def mul : Binary64 → Binary64 → Binary64
  | .finite s m e, .finite t n f => ofScaled (s != t) (m * n) (e + f)
  | .infinite s, .infinite t => .infinite (s != t)
  | .infinite s, .finite t n _ => if n = 0 then .nan else .infinite (s != t)
  | .finite s m _, .infinite t => if m = 0 then .nan else .infinite (s != t)
  | .nan, _ => .nan
  | _, .nan => .nan

/-- The significand with its sign. -/
def signed (negative : Bool) (significand : Nat) : Int :=
  if negative then -significand else significand

/-- The rounded sum. A sum of zero is positive unless both summands are negative. -/
def add : Binary64 → Binary64 → Binary64
  | .finite s m e, .finite t n f =>
    let low := min e f
    let sum := signed s (m * Nat.pow 2 (e - low).toNat) + signed t (n * Nat.pow 2 (f - low).toNat)
    ofScaled (if sum = 0 then s && t else sum < 0) sum.natAbs low
  | .infinite s, .infinite t => if s = t then .infinite s else .nan
  | .infinite s, .finite .. => .infinite s
  | .finite .., .infinite t => .infinite t
  | .nan, _ => .nan
  | _, .nan => .nan

end Binary64

end RobotsExclusion
