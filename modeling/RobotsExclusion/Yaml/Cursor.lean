import RobotsExclusion.Text.Basic

/-!
# Positions in a YAML text

The rest of a text that is read from left to right, with the line and the column where it starts,
and the reading of line breaks, blanks and comments.

## Main definitions

* `Yaml.Cursor` — the rest of a text and its position
* `Yaml.Cursor.span` — reads the characters at the start that fulfil a condition
* `Yaml.Cursor.lineBreak` — reads a line break
* `Yaml.Cursor.atMarker` — a line that starts or ends a document
-/

namespace RobotsExclusion.Yaml

/-- A character that breaks lines. -/
def isBreak (c : CodePoint) : Bool :=
  c = '\n' || c = '\r' || c.toNat == 0x85 || c.toNat == 0x2028 || c.toNat == 0x2029

/-- A space or a tab. -/
def isSpaceOrTab (c : CodePoint) : Bool := c = ' ' || c = '\t'

/-- The end of the text or a line break. -/
def endsLine (c : Option CodePoint) : Bool := (c.map isBreak).getD true

/-- The end of the text, a line break, or a space. -/
def endsField (c : Option CodePoint) : Bool := (c.map fun c => isBreak c || c = ' ').getD true

/-- The end of the text, a line break, a space or a tab. -/
def endsWord (c : Option CodePoint) : Bool :=
  (c.map fun c => isBreak c || isSpaceOrTab c).getD true

/-- A letter, a digit, a hyphen or an underscore. -/
def isNameCharacter (c : CodePoint) : Bool :=
  c.isAsciiLetter || c.isAsciiDigit || c = '-' || c = '_'

/-- The rest of a text, with the position of its first character. -/
structure Cursor where
  rest : Text
  /-- The number of characters in the rest. -/
  left : Nat
  index : Nat
  line : Nat
  column : Nat

namespace Cursor

/-- The start of a text. A byte-order mark there is passed over. -/
def start (t : Text) : Cursor :=
  match t with
  | [] => ⟨[], 0, 0, 0, 0⟩
  | c :: rest => if c.toNat = 0xFEFF then ⟨rest, rest.length, 1, 0, 0⟩ else ⟨t, t.length, 0, 0, 0⟩

/-- The next character. -/
def peek? (c : Cursor) : Option CodePoint := c.rest.head?

/-- The character after `n` others. -/
def peekAt? (c : Cursor) (n : Nat) : Option CodePoint := c.rest[n]?

/-- The next character is this one. -/
def isAt (c : Cursor) (x : Char) : Bool := c.peek? = some (CodePoint.ofChar x)

/-- Passes over one character. A carriage return before a line feed does not end the line yet, and
a byte-order mark takes no column. -/
def advance (c : Cursor) : Cursor :=
  match c.rest with
  | [] => c
  | x :: rest =>
    if isBreak x && !(x = '\r' && rest.head? = some (CodePoint.ofChar '\n')) then
      ⟨rest, c.left - 1, c.index + 1, c.line + 1, 0⟩
    else if x.toNat = 0xFEFF then ⟨rest, c.left - 1, c.index + 1, c.line, c.column⟩
    else ⟨rest, c.left - 1, c.index + 1, c.line, c.column + 1⟩

/-- Passes over some characters. -/
def advanceBy : Nat → Cursor → Cursor
  | 0, c => c
  | n + 1, c => advanceBy n c.advance

/-- Reads the characters at the start that fulfil a condition. -/
def span (p : CodePoint → Bool) (c : Cursor) : Text × Cursor :=
  let read := c.rest.takeWhile p
  (read, advanceBy read.length c)

/-- Passes over the characters at the start that fulfil a condition. -/
def skip (p : CodePoint → Bool) (c : Cursor) : Cursor := (c.span p).2

/-- Passes over spaces. -/
def skipSpaces (c : Cursor) : Cursor := c.skip fun x => x = ' '

/-- Passes over what is left of the line. -/
def skipLine (c : Cursor) : Cursor := c.skip fun x => !isBreak x

/-- Passes over a comment, if one starts here. -/
def skipComment (c : Cursor) : Cursor := if c.isAt '#' then c.skipLine else c

/-- Reads a line break. All but the separators of lines and paragraphs become line feeds; the text
is empty if there is no line break. -/
def lineBreak (c : Cursor) : Text × Cursor :=
  match c.rest with
  | [] => ([], c)
  | x :: rest =>
    if x = '\r' && rest.head? = some (CodePoint.ofChar '\n') then ("\n", c.advance.advance)
    else if x.toNat = 0x2028 || x.toNat = 0x2029 then ([x], c.advance)
    else if isBreak x then ("\n", c.advance)
    else ([], c)

/-- The rest starts with a text. -/
def startsWith (t : Text) (c : Cursor) : Bool := t.isPrefixOf c.rest

/-- Three hyphens stand here, and the word ends behind them. -/
def atDocumentStart (c : Cursor) : Bool := c.startsWith "---" && endsWord (c.peekAt? 3)

/-- Three points stand here, and the word ends behind them. -/
def atDocumentEnd (c : Cursor) : Bool := c.startsWith "..." && endsWord (c.peekAt? 3)

/-- A mark stands here that starts or ends a document. -/
def atMarker (c : Cursor) : Bool := c.atDocumentStart || c.atDocumentEnd

end Cursor

end RobotsExclusion.Yaml
