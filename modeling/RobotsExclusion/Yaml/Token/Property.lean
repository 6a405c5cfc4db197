import RobotsExclusion.Utf8
import RobotsExclusion.Yaml.Cursor
import RobotsExclusion.Yaml.Token

/-!
# Names, tags and directives in a YAML text

## Main definitions

* `Yaml.Property.name?` — reads the name behind the mark of an anchor or an alias
* `Yaml.Property.tag?` — reads a tag
* `Yaml.Property.directive?` — reads a directive
-/

namespace RobotsExclusion.Yaml.Property

/-- A character that may follow the name of an anchor or an alias. -/
def endsName (c : Option CodePoint) : Bool :=
  endsWord c || (c.map (Text.ofString "?:,]\x7d%@`").contains).getD false

/-- Reads the name behind the mark of an anchor or an alias. -/
def name? (c : Cursor) : Option (Text × Cursor) :=
  let (name, c) := c.advance.span isNameCharacter
  if name.isEmpty || !endsName c.peek? then none else some (name, c)

/-- A character of a tag. -/
def isTagCharacter (c : CodePoint) : Bool :=
  c.isAsciiLetter || c.isAsciiDigit || (Text.ofString "-;/?:@&=+$,_.!~*'()[]").contains c

/-- Reads bytes in hexadecimal digits behind percent signs. -/
def escapedBytes? : Nat → Cursor → Option (Bytes × Cursor)
  | 0, c => some ([], c)
  | fuel + 1, c =>
    if c.isAt '%' then
      match c.rest with
      | _ :: a :: b :: _ =>
        if a.isHexDigit && b.isHexDigit then do
          let (more, c) ← escapedBytes? fuel (Cursor.advanceBy 3 c)
          some (.ofNat (16 * a.hexValue + b.hexValue) :: more, c)
        else none
      | _ => none
    else some ([], c)

/-- Reads the characters of a tag. -/
def tagCharacters? : Nat → Cursor → Option (Text × Cursor)
  | 0, c => some ([], c)
  | fuel + 1, c =>
    let (plain, c) := c.span isTagCharacter
    if c.isAt '%' then do
      let (bytes, c) ← escapedBytes? (c.left + 1) c
      match Utf8.decode bytes with
      | .error _ => none
      | .ok decoded => do
        let (more, c) ← tagCharacters? fuel c
        some (plain ++ decoded ++ more, c)
    else some (plain, c)

/-- Reads the characters of a tag, of which there must be one at least. -/
def tagText? (c : Cursor) : Option (Text × Cursor) := do
  let (text, after) ← tagCharacters? (c.left + 1) c
  if after.index = c.index then none else some (text, after)

/-- Reads a handle: an exclamation mark, or a name between two. -/
def handle? (c : Cursor) : Option (Text × Cursor) :=
  if !c.isAt '!' then none
  else
    let behind := c.advance
    if behind.isAt ' ' then some ("!", behind)
    else
      let (name, c) := behind.span isNameCharacter
      if c.isAt '!' then some ("!" ++ name ++ "!", c.advance) else none

/-- The word has a second exclamation mark, so that it starts with a handle. -/
def hasHandle (c : Cursor) : Bool :=
  (c.advance.rest.takeWhile fun x => !endsField (some x)).contains (CodePoint.ofChar '!')

/-- Reads a tag. -/
def tag? (c : Cursor) : Option (Token × Cursor) := do
  let (token, c) ←
    if c.peekAt? 1 = some (CodePoint.ofChar '<') then do
      let (suffix, c) ← tagText? c.advance.advance
      if c.isAt '>' then some (Token.tag none suffix, c.advance) else none
    else if endsWord (c.peekAt? 1) then some (Token.tag none "!", c.advance)
    else if hasHandle c then do
      let (handle, c) ← handle? c
      let (suffix, c) ← tagText? c
      some (Token.tag (some handle) suffix, c)
    else do
      let (suffix, c) ← tagText? c.advance
      some (Token.tag (some "!") suffix, c)
  if endsField c.peek? then some (token, c) else none

/-- Reads a row of digits. -/
def number? (c : Cursor) : Option (Nat × Cursor) :=
  let (digits, c) := c.span CodePoint.isAsciiDigit
  if digits.isEmpty then none else some (digits.natOfDigits, c)

/-- Reads what is left of the line of a directive. -/
def lineEnd? (c : Cursor) : Option Cursor :=
  let c := c.skipSpaces.skipComment
  if endsLine c.peek? then some c.lineBreak.2 else none

/-- Reads a directive from its percent sign on. -/
def directive? (c : Cursor) : Option (Token × Cursor) := do
  let (name, c) := c.advance.span isNameCharacter
  if name.isEmpty || !endsField c.peek? then none
  else if name = "YAML" then do
    let (major, c) ← number? c.skipSpaces
    if !c.isAt '.' then none
    else
      let (_, c) ← number? c.advance
      if !endsField c.peek? then none else some (Token.version major, ← lineEnd? c)
  else if name = "TAG" then do
    let (handle, c) ← handle? c.skipSpaces
    if !c.isAt ' ' then none
    else
      let (stem, c) ← tagText? c.skipSpaces
      if !endsField c.peek? then none else some (Token.handle handle stem, ← lineEnd? c)
  else some (Token.reserved, ← lineEnd? c.skipLine)

end RobotsExclusion.Yaml.Property
