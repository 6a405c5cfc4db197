import RobotsExclusion.Yaml.Cursor

/-!
# Plain YAML scalars

Scalars without quotes. They end at a comment, at a colon before white space, at a line with too
little indentation and, within brackets, at a comma or a bracket.

## Main definitions

* `Yaml.Plain.canStart` — a plain scalar may start here
* `Yaml.Plain.read` — reads a plain scalar
-/

namespace RobotsExclusion.Yaml.Plain

/-- One of these characters. -/
def isOneOf (characters : String) (c : CodePoint) : Bool :=
  (Text.ofString characters).contains c

/-- A plain scalar may start here. A hyphen starts one only before the rest of a word; outside
brackets this holds of a question mark and a colon too. -/
def canStart (inFlow : Bool) (c : Cursor) : Bool :=
  match c.peek? with
  | none => false
  | some x =>
    (!isBreak x && !isSpaceOrTab x && !isOneOf "-?:,[]\x7b\x7d#&*!|>'\"%@`" x)
      || (!endsWord (c.peekAt? 1) && (x = '-' || (!inFlow && (x = '?' || x = ':'))))

/-- The scalar goes on with `x` before `next`. -/
def continuesWith (inFlow : Bool) (x : CodePoint) (next : Option CodePoint) : Bool :=
  !isBreak x && !isSpaceOrTab x
    && !(x = ':' && (endsWord next || (inFlow && (next.map (isOneOf ",[]\x7b\x7d")).getD false)))
    && !(inFlow && isOneOf ",?[]\x7b\x7d" x)

/-- The characters up to the end of a word. -/
def word (inFlow : Bool) : Text → Text
  | [] => []
  | x :: rest => if continuesWith inFlow x rest.head? then x :: word inFlow rest else []

/-- Reads the line breaks after a first one, with the spaces around them; nothing if a mark of a
document stands behind one of them. -/
def breaks? : Nat → Cursor → Option Text × Cursor
  | 0, c => (some [], c)
  | fuel + 1, c =>
    match c.skipSpaces.lineBreak with
    | ([], c) => (some [], c)
    | (line, c) =>
      if c.atMarker then (none, c)
      else
        let (more, c) := breaks? fuel c
        (more.map (line ++ ·), c)

/-- White space within a scalar. -/
structure Gap where
  /-- What stands for the white space, line breaks folded; empty if the scalar ends here. -/
  text : Text
  /-- The white space holds a line break. -/
  broken : Bool
  /-- What follows. -/
  cursor : Cursor

/-- Reads spaces and folds line breaks among them. -/
def gap (c : Cursor) : Gap :=
  let (spaces, c) := c.span fun x => x = ' '
  match c.lineBreak with
  | ([], c) => ⟨spaces, false, c⟩
  | (line, c) =>
    if c.atMarker then ⟨[], true, c⟩
    else
      match breaks? (c.left + 1) c with
      | (none, c) => ⟨[], true, c⟩
      | (some more, c) =>
        if line ≠ "\n" then ⟨line ++ more, true, c⟩
        else if more.isEmpty then ⟨" ", true, c⟩
        else ⟨more, true, c⟩

/-- A plain scalar. -/
structure Result where
  text : Text
  /-- A key may follow: the scalar ends before the start of a line. -/
  keyAllowed : Bool
  cursor : Cursor

/-- Reads words and white space. `before` is the white space before the next word. -/
def words (inFlow : Bool) (indent : Nat) (before : Text) (keyAllowed : Bool) :
    Nat → Cursor → Result
  | 0, c => ⟨[], keyAllowed, c⟩
  | fuel + 1, c =>
    let w := word inFlow c.rest
    if c.isAt '#' || w.isEmpty then ⟨[], keyAllowed, c⟩
    else
      let g := gap (Cursor.advanceBy w.length c)
      if g.text.isEmpty || g.cursor.isAt '#' || (!inFlow && g.cursor.column < indent) then
        ⟨before ++ w, g.broken, g.cursor⟩
      else
        let r := words inFlow indent g.text g.broken fuel g.cursor
        ⟨before ++ w ++ r.text, r.keyAllowed, r.cursor⟩

/-- Reads a plain scalar. Outside brackets its later lines must start at column `indent` or behind
it. -/
def read (inFlow : Bool) (indent : Nat) (c : Cursor) : Result :=
  words inFlow indent [] false (c.left + 1) c

end RobotsExclusion.Yaml.Plain
