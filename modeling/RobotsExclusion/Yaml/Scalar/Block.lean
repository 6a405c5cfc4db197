import RobotsExclusion.Yaml.Cursor

/-!
# Block YAML scalars

Scalars that fill the indented lines behind a `|` or a `>`. The first kind keeps line breaks, the
second folds those between lines that start without blanks.

## Main definitions

* `Yaml.Block.read?` — reads a block scalar
-/

namespace RobotsExclusion.Yaml.Block

/-- What happens to the line breaks at the end. -/
inductive Chomping where
  | strip
  | clip
  | keep
deriving DecidableEq

/-- What stands behind the character that starts a block scalar. -/
structure Header where
  chomping : Chomping
  /-- How much further than their surroundings the lines are indented, if that is said. -/
  indent : Option Nat

/-- Reads a mark for the end. -/
def chomping (c : Cursor) : Option Chomping × Cursor :=
  if c.isAt '+' then (some .keep, c.advance)
  else if c.isAt '-' then (some .strip, c.advance)
  else (none, c)

/-- Reads a digit for the indentation. -/
def increment (c : Cursor) : Option Nat × Cursor :=
  match c.peek? with
  | none => (none, c)
  | some x => if x.isAsciiDigit then (some x.hexValue, c.advance) else (none, c)

/-- Reads what stands behind the character that starts a block scalar, up to the end of the line.
The two marks may stand in either order. -/
def header? (c : Cursor) : Option (Header × Cursor) :=
  let (first, c) := chomping c
  let (indent, c) := increment c
  let (last, c) := if first.isNone && indent.isSome then chomping c else (none, c)
  if indent = some 0 || !endsField c.peek? then none
  else
    let c := c.skipSpaces.skipComment
    if !endsLine c.peek? then none
    else some (⟨((first <|> last).getD .clip), indent⟩, c.lineBreak.2)

/-- Reads lines of spaces alone: their line breaks, and the greatest column reached. -/
def emptyLines (greatest : Nat) : Nat → Cursor → Text × Nat × Cursor
  | 0, c => ([], greatest, c)
  | fuel + 1, c =>
    let c := c.skipSpaces
    let greatest := max greatest c.column
    match c.lineBreak with
    | ([], c) => ([], greatest, c)
    | (line, c) =>
      let (more, greatest, c) := emptyLines greatest fuel c
      (line ++ more, greatest, c)

/-- Passes over spaces up to a column. -/
def skipIndent (indent : Nat) (c : Cursor) : Cursor :=
  let spaces := (c.rest.take (indent - c.column)).takeWhile (· = CodePoint.ofChar ' ')
  Cursor.advanceBy spaces.length c

/-- Reads line breaks, each with spaces up to a column before it. -/
def breaks (indent : Nat) : Nat → Cursor → Text × Cursor
  | 0, c => ([], c)
  | fuel + 1, c =>
    match (skipIndent indent c).lineBreak with
    | ([], c) => ([], c)
    | (line, c) =>
      let (more, c) := breaks indent fuel c
      (line ++ more, c)

/-- The next character is a space or a tab. -/
def atBlank (c : Cursor) : Bool := (c.peek?.map isSpaceOrTab).getD false

/-- A line of the scalar starts here. -/
def atLine (indent : Nat) (c : Cursor) : Bool := c.column == indent && c.peek?.isSome

/-- Reads lines. The result holds the text without the end, the last line break, and the line
breaks behind it. `before` are the line breaks before the first line. -/
def lines (folded : Bool) (indent : Nat) (before : Text) :
    Nat → Cursor → Text × Text × Text × Cursor
  | 0, c => ([], [], before, c)
  | fuel + 1, c =>
    if !atLine indent c then ([], [], before, c)
    else
      let blank := atBlank c
      let (line, c) := c.span fun x => !isBreak x
      let (lineBreak, c) := c.lineBreak
      let (after, c) := breaks indent (c.left + 1) c
      if atLine indent c then
        let joint : Text :=
          if folded && lineBreak = "\n" && !blank && !atBlank c then
            if after.isEmpty then " " else []
          else lineBreak
        let (more, last, tail, c) := lines folded indent after fuel c
        (before ++ line ++ joint ++ more, last, tail, c)
      else (before ++ line, lineBreak, after, c)

/-- Reads a scalar from the character that starts it on; `outer` is the indentation around it. -/
def read? (folded : Bool) (outer : Int) (c : Cursor) : Option (Text × Cursor) := do
  let (header, c) ← header? c.advance
  let least := max 1 (outer + 1).toNat
  let (before, indent, c) :=
    match header.indent with
    | some n =>
      let indent := least + n - 1
      let (before, c) := breaks indent (c.left + 1) c
      (before, indent, c)
    | none =>
      let (before, greatest, c) := emptyLines 0 (c.left + 1) c
      (before, max least greatest, c)
  let (text, last, tail, c) := lines folded indent before (c.left + 1) c
  match header.chomping with
  | .strip => some (text, c)
  | .clip => some (text ++ last, c)
  | .keep => some (text ++ last ++ tail, c)

end RobotsExclusion.Yaml.Block
