import RobotsExclusion.Console.Shortcode
import RobotsExclusion.Text.Wrap

/-!
# Console

How texts are shown on a console of fixed width.

## Main definitions

* `Console.escape` — a text whose end cannot be mistaken for an escape
* `Console.pieces` — the style tags in a text, and what stands between them
* `Console.shown` — a text as it is shown where brackets could be style tags
* `Console.paragraph` — the lines of a text between the edges of the console
-/

namespace RobotsExclusion.Console

/-- The cells of a line. -/
def width : Nat := 200

/-- The controls that are left out: they would ring the bell or move the cursor. -/
def isHidden (c : CodePoint) : Bool := [0x07, 0x08, 0x0B, 0x0C, 0x0D].contains c.toNat

/-- The character that the name of a style tag starts with. -/
def startsTag (c : CodePoint) : Bool :=
  (0x61 ≤ c.toNat && c.toNat ≤ 0x7A) || c = '#' || c = '/' || c = '@'

/-- An opening or a closing bracket. -/
def isBracket (c : CodePoint) : Bool := c = '[' || c = ']'

/-- The length of what follows the opening bracket of a style tag: a name, and the closing bracket,
before the next opening one. -/
def tagLength? (t : Text) : Option Nat :=
  if (t.head?.map startsTag).getD false then
    let length := (t.takeWhile fun c => !isBracket c).length
    if t[length]? = some (CodePoint.ofChar ']') then some (length + 1) else none
  else none

/-- Cuts a text at its style tags and puts the pieces behind `done` and `piece`, both of which are in
reverse order. -/
def piecesOnto (done : List Text) (piece : Text) : Text → List Text
  | [] => (piece.reverse :: done).reverse
  | c :: rest =>
    if c = '[' then
      match tagLength? rest with
      | some n => piecesOnto ((c :: rest.take n) :: piece.reverse :: done) [] (rest.drop n)
      | none => piecesOnto done (c :: piece) rest
    else piecesOnto done (c :: piece) rest
termination_by t => t.length

/-- The style tags in a text, and what stands between them. -/
def pieces (t : Text) : List Text := piecesOnto [] [] t

/-- Drops a backslash before each opening bracket. -/
def dropEscapes (piece : Text) : Text :=
  (piece.foldl (fun (done : Text) c =>
    if c = CodePoint.ofChar '[' ∧ done.head? = some (CodePoint.ofChar '\\') then c :: done.drop 1
    else c :: done) []).reverse

/-- Doubles a lone backslash at the end, which would escape what follows. -/
def escape (t : Text) : Text :=
  match t.reverse with
  | [c] => if c = '\\' then [c, c] else t
  | c :: d :: _ => if c = '\\' ∧ d ≠ '\\' then t ++ [c] else t
  | [] => []

/-- A text as it is shown. Style tags are shown like other text, and pictographs in place of their
names, if no style tag interrupts them. -/
def shown (t : Text) : Text :=
  ((pieces t).flatMap fun piece => Shortcode.expand (dropEscapes piece)).filter fun c =>
    !isHidden c

/-- The lines of a text between the edges of the console, with their line feeds. -/
def paragraph (t : Text) : Text :=
  t.lines.flatMap fun line =>
    (Text.wrap width true line.expandTabs).flatMap fun row =>
      Text.crop width (Text.dropExcess width row) ++ "\n"

end RobotsExclusion.Console
