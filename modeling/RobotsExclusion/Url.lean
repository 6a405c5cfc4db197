import RobotsExclusion.Text.Blank
import RobotsExclusion.Url.Authority

/-!
# URLs

Splitting a URL into its scheme and its authority, and the scheme of an absolute URL.

## Main definitions

* `Url` — the scheme and the authority of a URL
* `Url.ofText?` — splits a text; nothing if its authority is malformed
* `Url.absoluteScheme?` — the scheme of a text that is an absolute URL
-/

namespace RobotsExclusion

/-- The parts of a URL that tell where it points to. Either may be empty. -/
structure Url where
  scheme : Text
  authority : Text
deriving DecidableEq

namespace Url

/-- A text without controls and spaces at its start and without tabs and line ends anywhere. -/
def clean (t : Text) : Text :=
  (t.dropWhile fun c => c.toNat ≤ 0x20).filter fun c => c ≠ '\t' ∧ c ≠ '\r' ∧ c ≠ '\n'

/-- A character that may stand in a scheme. -/
def isSchemeCharacter (c : CodePoint) : Bool :=
  c.isAsciiLetter || c.isAsciiDigit || c = '+' || c = '-' || c = '.'

/-- A scheme: a letter, then letters, digits, `+`, `-` and `.`. -/
def isScheme (t : Text) : Bool :=
  (t.head?.map CodePoint.isAsciiLetter).getD false && t.all isSchemeCharacter

/-- The scheme in lower case, and what follows its colon. Without a scheme, all follows. -/
def cutScheme (t : Text) : Text × Text :=
  match t.cut? ':' with
  | some (scheme, rest) => if isScheme scheme then (scheme.map CodePoint.asciiLower, rest) else ([], t)
  | none => ([], t)

/-- A character that ends an authority. -/
def endsAuthority (c : CodePoint) : Bool := c = '/' || c = '?' || c = '#'

/-- The authority behind two slashes, empty if these are missing. -/
def authorityOf (t : Text) : Text :=
  match t with
  | a :: b :: rest => if a = '/' ∧ b = '/' then rest.takeWhile (!endsAuthority ·) else []
  | _ => []

/-- Splits a text into the parts of a URL, unless its authority has brackets or compatibility
characters that no authority may have. -/
def ofText? (t : Text) : Option Url :=
  let (scheme, rest) := cutScheme (clean t)
  let authority := authorityOf rest
  if Authority.hasProperBrackets authority && !Authority.isDeceptive authority then
    some ⟨scheme, authority⟩
  else none

/-- Splits a text into the parts of a URL whose port is well-formed too. -/
def ofTextWithPort? (t : Text) : Option Url :=
  (ofText? t).filter fun url => Authority.isPort (Authority.port url.authority)

/-- The schemes of the web. -/
def webSchemes : List Text := ["http", "https"]

/-- A slash in either direction. -/
def isSlash (c : CodePoint) : Bool := c = '/' || c = '\\'

/-- What a URL of a web scheme means that has no authority behind two slashes: whatever slashes
there are, the authority follows them. The scheme has a colon behind it, so there is something to
read. -/
def readLeniently? (t : Text) : Option Url := do
  let (_, rest) ← t.cut? ':'
  ofTextWithPort? ("//" ++ rest.dropWhile isSlash)

/-- An authority that names a host and holds no white space. -/
def namesHost (authority : Text) : Bool :=
  !(Authority.host authority).isEmpty && !authority.any CodePoint.isBlank

/-- The scheme of an absolute URL, in lower case. A URL of a web scheme must name a host; of any
other scheme nothing more is asked. -/
def absoluteScheme? (t : Text) : Option Text := do
  let url ← ofTextWithPort? t
  if url.scheme.isEmpty then none
  else if !webSchemes.contains url.scheme then some url.scheme
  else
    let target ← if url.authority.isEmpty then readLeniently? t else some url
    if namesHost target.authority then some url.scheme else none

end Url

end RobotsExclusion
