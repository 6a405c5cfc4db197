import RobotsExclusion.Integer
import RobotsExclusion.Url.Ipv6

/-!
# Targets of requests

The target of a request is a path, perhaps with a query or a fragment behind it and a scheme and an
authority before it. Its path is freed from dot segments and then from escapes, twice over.

## Main definitions

* `Target` — the parts of a target
* `Target.Error` — why a text is no target
* `Target.ofText` — the target that a text denotes
* `Target.route` — the path that a target leads to
* `Target.withoutDots` — a path without dot segments
* `Target.unescape` — a text whose escapes of ASCII characters are replaced
-/

namespace RobotsExclusion

/-- The parts of a target. Those that are not given are empty. -/
structure Target where
  scheme : Text
  user : Text
  host : Text
  port? : Option Int
  path : Text

namespace Target

/-- Why a text is no target. -/
inductive Error where
  | tooLong
  | control (c : CodePoint) (index : Nat)
  /-- A host of four numerals is no IPv4 address. -/
  | ipv4 (host : Text)
  /-- A host between brackets is no IPv6 address. -/
  | ipv6 (host : Text)
  | port (t : Text)
  /-- A path starts with two slashes and has nothing before it. -/
  | slashes
  /-- A path starts with a colon and has nothing before it. -/
  | colon
  /-- Nothing is known of this scheme. -/
  | scheme (name : Text)
  /-- What follows the first colon of a server is not the number of its port. -/
  | server (e : Integer.Error)
deriving DecidableEq

/-- The error in words. -/
def Error.message : Error → Text
  | tooLong => "URL too long"
  | control c index =>
    "Invalid non-printable ASCII character in URL, " ++ Text.quoted [c] ++ " at position "
      ++ Text.ofNat index ++ "."
  | ipv4 host => "Invalid IPv4 address: " ++ host.quoted
  | ipv6 host => "Invalid IPv6 address: " ++ host.quoted
  | port t => "Invalid port: " ++ t.quoted
  | slashes => "Relative URLs cannot have a path starting with '//'"
  | colon => "Relative URLs cannot have a path starting with ':'"
  | scheme name => name.quoted
  | server e => e.message

/-- The greatest length of a target. -/
def maxLength : Nat := 65536

/-- A control character of ASCII. -/
def isControl (c : CodePoint) : Bool := c.toNat < 0x20 || c.toNat = 0x7F

/-- The characters that a scheme may hold behind its first letter. -/
def isSchemeCharacter (c : CodePoint) : Bool :=
  c.isAsciiLetter || c.isAsciiDigit || c = '+' || c = '-' || c = '.'

/-- A scheme starts with a letter, if it is not empty. -/
def isScheme (t : Text) : Bool :=
  (t.head?.map CodePoint.isAsciiLetter).getD true && t.all isSchemeCharacter

/-- The scheme at the start of a text, in lower case, and what follows its colon. -/
def splitScheme (t : Text) : Text × Text :=
  match Text.cut? ':' t with
  | some (scheme, rest) =>
    if isScheme scheme then (scheme.map CodePoint.asciiLower, rest) else ([], t)
  | none => ([], t)

/-- The authority between two slashes and the next one, and what follows it. -/
def splitAuthority (t : Text) : Text × Text :=
  if t.take 2 = "//" then
    let rest := t.drop 2
    (Text.before '/' rest, rest.dropWhile (· ≠ CodePoint.ofChar '/'))
  else ([], t)

/-- The user before the first `@` of an authority, and what follows it. -/
def splitUser (authority : Text) : Text × Text :=
  (Text.cut? '@' authority).getD ([], authority)

/-- The length of the host that a text starts with: an address between brackets, or all before a
colon. -/
def hostLength (t : Text) : Nat :=
  if t.head? = some (CodePoint.ofChar '[') ∧ t.contains (CodePoint.ofChar ']') then
    (t.reverse.dropWhile (· ≠ CodePoint.ofChar ']')).length
  else (t.takeWhile fun c => c ≠ CodePoint.ofChar ':' && c ≠ CodePoint.ofChar '@').length

/-- The address between the brackets of a host. -/
def bracketed? (host : Text) : Option Text :=
  if 2 ≤ host.length ∧ host.head? = some (CodePoint.ofChar '[')
      ∧ host.getLast? = some (CodePoint.ofChar ']') then
    some (host.drop 1).dropLast
  else none

/-- A host that is written like an address must be one. -/
def readHost (host : Text) : Except Error Text :=
  if Ipv4.isLike host then if Ipv4.isAddress host then .ok host else .error (.ipv4 host)
  else
    match bracketed? host with
    | some address => if Ipv6.isAddress address then .ok host else .error (.ipv6 host)
    | none => .ok host

/-- The port that the text behind a host denotes. -/
def readPort (t : Text) : Except Error (Option Int) :=
  let numeral := if t.head? = some (CodePoint.ofChar ':') then t.drop 1 else t
  if numeral.isEmpty then .ok none
  else
    match Integer.ofText 10 numeral with
    | .ok n => .ok (some n)
    | .error _ => .error (.port numeral)

/-- Something is given before the path. -/
def hasOrigin (target : Target) : Bool :=
  !target.scheme.isEmpty || !target.user.isEmpty || !target.host.isEmpty || target.port?.isSome

/-- A scheme and a host are given, so that the path stands as it is. -/
def isAbsolute (target : Target) : Bool := !target.scheme.isEmpty && !target.host.isEmpty

/-- The schemes that can be used, with the ports that need not be given. -/
def schemes : List (Text × Int) := [("http", 80), ("https", 443)]

/-- The host and the port that a connection is made to. -/
def server (target : Target) : Text :=
  match target.port? with
  | some p => if schemes.contains (target.scheme, p) then target.host
    else target.host ++ ":" ++ Text.ofInt p
  | none => target.host

/-- The port of a server is read behind its first colon, even if that is one of an address. -/
def checkServer (target : Target) : Except Error Target :=
  match target.server.cut? ':' with
  | none => .ok target
  | some (_, port) =>
    match Integer.ofText 10 port with
    | .ok _ => .ok target
    | .error e => .error (.server e)

/-- A path must not look like something else, and an absolute target must lead to a server. -/
def check (target : Target) : Except Error Target :=
  if !target.hasOrigin && target.path.take 2 = "//" then .error .slashes
  else if !target.hasOrigin && target.path.head? = some (CodePoint.ofChar ':') then .error .colon
  else if !target.isAbsolute then .ok target
  else if (schemes.lookup target.scheme).isNone then .error (.scheme target.scheme)
  else target.checkServer

/-- The target that a text denotes. A query and a fragment are left out. -/
def ofText (t : Text) : Except Error Target := do
  if maxLength < t.length then .error .tooLong
  else
    match t.findIdx? isControl with
    | some index => .error (.control (t.getD index ⟨0, by decide⟩) index)
    | none =>
      let (scheme, rest) := splitScheme (Text.before '#' (Text.before '?' t))
      let (authority, path) := splitAuthority rest
      let (user, server) := splitUser authority
      let length := hostLength server
      let host ← readHost (server.take length)
      let port? ← readPort (server.drop length)
      check ⟨scheme, user, host, port?, path⟩

/-- A path of segments without those that stay where they are, and without those that lead back,
each of which takes the segment before it along. The empty segment before a leading slash stays. -/
def withoutDots (segments : List Text) : List Text :=
  (segments.foldl (fun (done : List Text) (segment : Text) =>
    if segment = "." then done
    else if segment = ".." then if done = [[]] then done else done.drop 1
    else segment :: done) []).reverse

/-- The ASCII character that a percent sign and the two digits at the start of a text stand for. -/
def escaped? (c : CodePoint) : Text → Option CodePoint
  | a :: b :: _ =>
    let n := a.hexValue * 0x10 + b.hexValue
    if c = '%' ∧ a.isHexDigit ∧ b.isHexDigit ∧ n < 0x80 then CodePoint.ofNat? n else none
  | _ => none

/-- Replaces the escapes of ASCII characters. Others are left: no route has any. -/
def unescape : Text → Text
  | [] => []
  | c :: rest =>
    match escaped? c rest with
    | some e => e :: unescape (rest.drop 2)
    | none => c :: unescape rest
termination_by t => t.length

/-- A path without its dot segments. -/
def clean (path : Text) : Text := Text.join "/" (withoutDots (Text.split '/' path))

/-- The path that a target leads to. Slashes at its start are one, except behind a host. -/
def route (target : Target) : Text :=
  let path := if target.hasOrigin then clean target.path else target.path
  let path :=
    if target.isAbsolute then path
    else clean ("/" ++ path.dropWhile (· = CodePoint.ofChar '/'))
  unescape (unescape path)

end Target

end RobotsExclusion
