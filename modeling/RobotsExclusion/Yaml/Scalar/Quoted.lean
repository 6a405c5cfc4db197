import RobotsExclusion.Yaml.Cursor
import RobotsExclusion.Yaml.Error

/-!
# Quoted YAML scalars

Scalars between single or double quotes. Line breaks within them are folded: one becomes a space,
several lose the first.

## Main definitions

* `Yaml.Quoted.read` — reads a quoted scalar
-/

namespace RobotsExclusion.Yaml.Quoted

/-- What a backslash and a character stand for between double quotes. -/
def escapes : List (Char × Nat) := [
  ('0', 0x00), ('a', 0x07), ('b', 0x08), ('t', 0x09), ('\t', 0x09), ('n', 0x0A), ('v', 0x0B),
  ('f', 0x0C), ('r', 0x0D), ('e', 0x1B), (' ', 0x20), ('"', 0x22), ('\\', 0x5C), ('/', 0x2F),
  ('N', 0x85), ('_', 0xA0), ('L', 0x2028), ('P', 0x2029)]

/-- How many hexadecimal digits follow a backslash and a character between double quotes. -/
def hexEscapes : List (Char × Nat) := [('x', 2), ('u', 4), ('U', 8)]

/-- The number that a table has for a character. -/
def lookUp? (table : List (Char × Nat)) (c : CodePoint) : Option Nat :=
  (table.find? fun entry => c = CodePoint.ofChar entry.1).map (·.2)

/-- Reads the line breaks after a first one, with the blanks around them. -/
def breaks : Nat → Cursor → Except Error (Text × Cursor)
  | 0, c => .ok ([], c)
  | fuel + 1, c =>
    if c.atMarker then .error .malformed
    else
      match (c.skip isSpaceOrTab).lineBreak with
      | ([], c) => .ok ([], c)
      | (line, c) => do
        let (more, c) ← breaks fuel c
        .ok (line ++ more, c)

/-- Reads blanks and folds line breaks among them. -/
def blanks (c : Cursor) : Except Error (Text × Cursor) :=
  let (spaces, c) := c.span isSpaceOrTab
  match c.peek? with
  | none => .error .malformed
  | some _ =>
    match c.lineBreak with
    | ([], c) => .ok (spaces, c)
    | (line, c) => do
      let (more, c) ← breaks (c.left + 1) c
      if line ≠ "\n" then .ok (line ++ more, c)
      else if more.isEmpty then .ok (" ", c)
      else .ok (more, c)

/-- Reads what follows a backslash between double quotes. -/
def escape (c : Cursor) : Except Error (Text × Cursor) :=
  match c.peek? with
  | none => .error .malformed
  | some x =>
    match lookUp? escapes x, lookUp? hexEscapes x with
    | some n, _ => .ok ((CodePoint.ofNat? n).toList, c.advance)
    | none, some width =>
      let digits := c.advance.rest.take width
      if digits.length = width ∧ digits.all CodePoint.isHexDigit then
        let n := digits.foldl (fun n d => 16 * n + d.hexValue) 0
        match CodePoint.ofNat? n with
        | some point => .ok ([point], Cursor.advanceBy width c.advance)
        | none => .error (if n < Nat.pow 2 31 then .escapeOutOfRange else .escapeTooLarge)
      else .error .malformed
    | none, none =>
      if isBreak x then
        let c := c.lineBreak.2
        breaks (c.left + 1) c
      else .error .malformed

/-- A character that needs no attention within quotes. -/
def isOrdinary (c : CodePoint) : Bool :=
  c ≠ '\'' && c ≠ '"' && c ≠ '\\' && !isBreak c && !isSpaceOrTab c

/-- Reads characters up to blanks or the closing quote. -/
def word (double : Bool) : Nat → Cursor → Except Error (Text × Cursor)
  | 0, c => .ok ([], c)
  | fuel + 1, c =>
    let (plain, c) := c.span isOrdinary
    match c.peek? with
    | none => .ok (plain, c)
    | some x =>
      if !double && x = '\'' && c.peekAt? 1 = some (CodePoint.ofChar '\'') then do
        let (more, c) ← word double fuel c.advance.advance
        .ok (plain ++ x :: more, c)
      else if (double && x = '\'') || (!double && (x = '"' || x = '\\')) then do
        let (more, c) ← word double fuel c.advance
        .ok (plain ++ x :: more, c)
      else if double && x = '\\' then do
        let (escaped, c) ← escape c.advance
        let (more, c) ← word double fuel c
        .ok (plain ++ escaped ++ more, c)
      else .ok (plain, c)

/-- Reads words and blanks up to the closing quote. -/
def contents (double : Bool) : Nat → Cursor → Except Error (Text × Cursor)
  | 0, _ => .error .malformed
  | fuel + 1, c => do
    let (first, c) ← word double (c.left + 1) c
    if c.isAt (if double then '"' else '\'') then .ok (first, c.advance)
    else
      let (gap, c) ← blanks c
      let (more, c) ← contents double fuel c
      .ok (first ++ gap ++ more, c)

/-- Reads a scalar from its opening quote on. -/
def read (double : Bool) (c : Cursor) : Except Error (Text × Cursor) :=
  contents double (c.left + 1) c.advance

end RobotsExclusion.Yaml.Quoted
