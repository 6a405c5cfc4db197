import RobotsExclusion.Url.Ipv6

/-!
# Authorities

The part of a URL that names a server: perhaps a user before an `@`, a host, and perhaps a port
behind a colon. A host between brackets is an IP literal.

## Main definitions

* `Authority.host`, `Authority.port` — the parts of an authority
* `Authority.isPort` — a port number, or nothing
* `Authority.hasProperBrackets` — brackets stand around an IP literal or not at all
* `Authority.isDeceptive` — compatibility characters that would turn into delimiters
-/

namespace RobotsExclusion

namespace Authority

/-- The host and the port, without the user before them. -/
def server (authority : Text) : Text := authority.afterLast '@'

/-- The host and the text of the port. -/
def hostAndPort (authority : Text) : Text × Text :=
  let s := server authority
  match s.cut? '[' with
  | some (_, bracketed) => (bracketed.before ']', (bracketed.after ']').after ':')
  | none => (s.before ':', s.after ':')

/-- The host, empty if there is none. -/
def host (authority : Text) : Text := (hostAndPort authority).1

/-- The text of the port, empty if there is none. -/
def port (authority : Text) : Text := (hostAndPort authority).2

/-- The longest numeral that is read as an integer. -/
def maxNumeralLength : Nat := 4300

/-- A text that is empty or denotes a number up to 65535 in ASCII digits. -/
def isPort (t : Text) : Bool :=
  t.isEmpty || (t.all CodePoint.isAsciiDigit && t.length ≤ maxNumeralLength
    && t.natOfDigits ≤ 65535)

/-- An address of a future version: `v`, hexadecimal digits, a point, and more. -/
def isFutureAddress (t : Text) : Bool :=
  match t with
  | [] => false
  | _ :: rest =>
    let version := rest.takeWhile CodePoint.isHexDigit
    let tail := rest.drop version.length
    !version.isEmpty && tail.head? == some (CodePoint.ofChar '.') && 2 ≤ tail.length
      && !tail.contains (CodePoint.ofChar '\n')

/-- An address that may stand between brackets. -/
def isLiteral (t : Text) : Bool :=
  if t.head? = some (CodePoint.ofChar 'v') then isFutureAddress t else Ipv6.isAddress t

/-- An authority has either no brackets, or both kinds of them. With both, nothing precedes the
opening bracket of the host, an IP literal stands between the brackets, and only a port follows;
where the brackets belong to the user alone, the host itself has to be an IP literal. -/
def hasProperBrackets (authority : Text) : Bool :=
  let opening := authority.contains (CodePoint.ofChar '[')
  let closing := authority.contains (CodePoint.ofChar ']')
  if opening && closing then
    let s := server authority
    match s.cut? '[' with
    | some (before, bracketed) =>
      let tail := bracketed.after ']'
      before.isEmpty && (tail.isEmpty || tail.head? == some (CodePoint.ofChar ':'))
        && isLiteral (bracketed.before ']')
    | none => isLiteral (s.before ':')
  else !opening && !closing

/-- The characters whose compatibility form holds one of `/ ? # @ :`. -/
def deceptive : List Nat := [
  0x2047, 0x2048, 0x2049, 0x2100, 0x2101, 0x2105, 0x2106, 0x2A74, 0xFE13, 0xFE16, 0xFE55, 0xFE56,
  0xFE5F, 0xFE6B, 0xFF03, 0xFF0F, 0xFF1A, 0xFF1F, 0xFF20]

/-- Compatibility characters would turn into delimiters. -/
def isDeceptive (authority : Text) : Bool := authority.any fun c => deceptive.contains c.toNat

end Authority

end RobotsExclusion
