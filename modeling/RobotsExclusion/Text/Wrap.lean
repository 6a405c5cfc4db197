import RobotsExclusion.Text.Width

/-!
# Wrapping

Filling lines of a given width with the words of a text.

## Main definitions

* `Text.words` — the words of a text, with the blanks around them
* `Text.chop` — the pieces of a word that is wider than a line, the last one first
* `Text.wrap` — the lines of a text
* `Text.dropExcess` — a line without blanks at its end that do not fit
-/

namespace RobotsExclusion.Text

/-- Puts a character before pieces of a text. A blank before a word starts a piece. -/
def consPiece (c : CodePoint) : List Text → List Text
  | [] => [[c]]
  | piece :: later =>
    if c.isBlank && !isBlank (piece.take 1) then [c] :: piece :: later else (c :: piece) :: later

/-- The words of a text. Each has the blanks with it that follow it, and the first one also those
that precede it. -/
def words (t : Text) : List Text :=
  match t.foldr consPiece [] with
  | first :: second :: later =>
    if isBlank first then (first ++ second) :: later else first :: second :: later
  | pieces => pieces

/-- The pieces of a word that fill lines. -/
structure Pieces where
  /-- The full pieces, the last one first. -/
  done : List Text
  /-- The piece that is being filled, in reverse order. -/
  piece : Text
  /-- The cells that the piece takes so far. -/
  used : Nat

/-- Adds characters that stay together. -/
def Pieces.add (cells : Nat) (p : Pieces) (cluster : Cluster) : Pieces :=
  if cells < p.used + cluster.cells then
    ⟨p.piece.reverse :: p.done, cluster.characters.reverse, cluster.cells⟩
  else ⟨p.done, cluster.characters.reverse ++ p.piece, p.used + cluster.cells⟩

/-- Cuts a word into pieces that fill lines, the last one first. -/
def chop (cells : Nat) (word : Text) : List Text :=
  let p := (clusters word).foldl (Pieces.add cells) ⟨[], [], 0⟩
  p.piece.reverse :: p.done

/-- Lines that are being filled. -/
structure Filling where
  /-- The full lines, the last one first. -/
  done : List Text
  /-- The line that is being filled. -/
  line : Text
  /-- The cells that the line takes so far. -/
  used : Nat

/-- The lines so far, the last one first. -/
def Filling.close (f : Filling) : List Text :=
  if f.line.isEmpty then f.done else f.line :: f.done

/-- Adds a word. One that does not fit goes to a line of its own, and one that is wider than a line
is cut into pieces if `cut` holds. -/
def Filling.add (cells : Nat) (cut : Bool) (f : Filling) (word : Text) : Filling :=
  let needed := (trimRight word).width
  if f.used + needed ≤ cells then ⟨f.done, f.line ++ word, f.used + width word⟩
  else if cut && cells < needed then
    match chop cells word with
    | [] => f
    | last :: earlier => ⟨earlier ++ f.close, last, width last⟩
  else ⟨f.close, word, width word⟩

/-- The lines of a text. -/
def wrap (cells : Nat) (cut : Bool) (t : Text) : List Text :=
  let f := (words t).foldl (Filling.add cells cut) ⟨[], [], 0⟩
  (f.line :: f.done).reverse

/-- A line without blanks at its end that do not fit. -/
def dropExcess (cells : Nat) (line : Text) : Text :=
  let blanks := line.length - (trimRight line).length
  line.take (line.length - min blanks (line.length - cells))

end RobotsExclusion.Text
