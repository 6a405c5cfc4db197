import RobotsExclusion.Text.Digit

/-!
# IPv6 addresses

The texts that denote an IPv6 address: eight groups of up to four hexadecimal digits between
colons, of which `::` may stand for one or more. The last two groups may be written as an IPv4
address, and a zone may follow behind a percent sign.

## Main definitions

* `Ipv4.isAddress` — a dotted IPv4 address
* `Ipv4.isLike` — a host that means to be one
* `Ipv6.isAddress` — an IPv6 address
-/

namespace RobotsExclusion

namespace Ipv4

/-- A number from 0 to 255 in ASCII digits, without leading zeros. -/
def isOctet (t : Text) : Bool :=
  !t.isEmpty && t.length ≤ 3 && t.all CodePoint.isAsciiDigit
    && (t.length == 1 || t.head? != some (CodePoint.ofChar '0')) && t.natOfDigits ≤ 255

/-- Four octets with points between them. -/
def isAddress (t : Text) : Bool :=
  let octets := t.split '.'
  octets.length == 4 && octets.all isOctet

/-- The lengths of the rows of digits between the other characters of a text. -/
def rows : Text → List Nat
  | [] => [0]
  | c :: rest =>
    match rows rest with
    | n :: ns => if c.isAsciiDigit then (n + 1) :: ns else 0 :: n :: ns
    | [] => []

/-- Four numerals with any character between two of them. A digit may be that character, so that a
row of `n` digits holds up to `(n + 1) / 2` numerals. -/
def isLike (t : Text) : Bool :=
  let ns := rows t
  ns.all (0 < ·) && ns.length ≤ 4 && 4 ≤ ns.foldl (fun groups n => groups + (n + 1) / 2) 0

end Ipv4

namespace Ipv6

/-- One to four hexadecimal digits. -/
def isGroup (t : Text) : Bool :=
  !t.isEmpty && t.length ≤ 4 && t.all CodePoint.isHexDigit

/-- How many groups a row of groups has, if all of them are well-formed. An IPv4 address counts
as two groups if it may stand at the end. -/
def groupCount? (dotted : Bool) : List Text → Option Nat
  | [] => some 0
  | [t] =>
    if isGroup t then some 1
    else if dotted && Ipv4.isAddress t then some 2
    else none
  | t :: rest => if isGroup t then (groupCount? dotted rest).map (· + 1) else none

/-- The groups between colons; an empty text has none. -/
def groups (t : Text) : List Text := if t.isEmpty then [] else t.split ':'

/-- What precedes and what follows the first `::`. -/
def cutElision? : Text → Option (Text × Text)
  | [] => none
  | c :: rest =>
    if c = ':' ∧ rest.head? = some (CodePoint.ofChar ':') then some ([], rest.drop 1)
    else (cutElision? rest).map fun (before, after) => (c :: before, after)

/-- The groups of an address, without a zone, fill its eight places. -/
def fillsPlaces (t : Text) : Bool :=
  match cutElision? t with
  | none => groupCount? true (groups t) == some 8
  | some (before, after) =>
    match groupCount? false (groups before), groupCount? true (groups after) with
    | some m, some n => m + n ≤ 7
    | _, _ => false

/-- An IPv6 address, perhaps with a zone. -/
def isAddress (t : Text) : Bool :=
  match t.cut? '%' with
  | none => fillsPlaces t
  | some (address, zone) =>
    !zone.isEmpty && !zone.contains (CodePoint.ofChar '%') && fillsPlaces address

end Ipv6

end RobotsExclusion
