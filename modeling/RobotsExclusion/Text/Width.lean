import RobotsExclusion.Text.Basic
import RobotsExclusion.Text.Blank
import RobotsExclusion.Text.Width.Table

/-!
# Widths

How many cells of a fixed-width console a text takes, and how it is cut and padded to a width. A
pictograph may consist of several characters, which stay together.

## Main definitions

* `CodePoint.width`, `Text.width` — cells that are taken
* `Text.clusters` — the characters that stay together
* `Text.crop` — the part of a text that fits
* `Text.padLeft`, `Text.padRight`, `Text.centre` — a text with spaces around it
* `Text.expandTabs` — a text with spaces in place of its tabs
-/

namespace RobotsExclusion

namespace CodePoint

/-- The cells that a character takes on its own. -/
def width (c : CodePoint) : Nat :=
  if 0x20 ≤ c.toNat ∧ c.toNat ≤ 0x7E then 1
  else if c.inRanges zeroWidthRanges then 0
  else if c.inRanges doubleWidthRanges then 2
  else 1

/-- The character that joins the pictographs on both sides of it. -/
def joiner : CodePoint := ⟨0x200D, by decide⟩

/-- The character that turns the one before it into a coloured pictograph. -/
def colourSelector : CodePoint := ⟨0xFE0F, by decide⟩

/-- The cells that a character gains when it is turned into a coloured pictograph. -/
def gain (c : CodePoint) : Nat := if c.inRanges widenedRanges then 1 else 0

end CodePoint

namespace Text

/-- How far a text has been measured. -/
structure Measure where
  cells : Nat
  /-- The last character that takes cells, until it is turned into a pictograph. -/
  last? : Option CodePoint
  /-- The next character is joined to the one before and takes no cells. -/
  joined : Bool

/-- Measures one more character. -/
def Measure.next (m : Measure) (c : CodePoint) : Measure :=
  if m.joined then { m with joined := false }
  else if c = CodePoint.joiner then { m with joined := true }
  else if c = CodePoint.colourSelector then
    ⟨m.cells + (m.last?.map CodePoint.gain).getD 0, none, false⟩
  else if 0 < c.width then ⟨m.cells + c.width, some c, false⟩
  else m

/-- The cells that a text takes. -/
def width (t : Text) : Nat := (t.foldl Measure.next ⟨0, none, false⟩).cells

/-- Characters that stay together, and the cells that they take. -/
structure Cluster where
  characters : Text
  cells : Nat

/-- How far a text has been cut into clusters. -/
structure Clustering where
  /-- The clusters, the last one first; the characters of each are in reverse order. -/
  done : List Cluster
  last? : Option CodePoint
  joined : Bool

/-- Adds a character to the last cluster. -/
def Clustering.attach (c : CodePoint) (cells : Nat) : List Cluster → List Cluster
  | [] => [⟨[c], cells⟩]
  | cluster :: earlier => ⟨c :: cluster.characters, cluster.cells + cells⟩ :: earlier

/-- Adds one more character. Those that take no cells belong to the one before them. -/
def Clustering.next (s : Clustering) (c : CodePoint) : Clustering :=
  if s.joined then ⟨attach c 0 s.done, s.last?, false⟩
  else if c = CodePoint.joiner then ⟨attach c 0 s.done, s.last?, !s.done.isEmpty⟩
  else if c = CodePoint.colourSelector then
    let gain := (s.last?.map CodePoint.gain).getD 0
    ⟨attach c gain s.done, if 0 < gain then none else s.last?, false⟩
  else if 0 < c.width then ⟨⟨[c], c.width⟩ :: s.done, some c, false⟩
  else ⟨attach c 0 s.done, s.last?, false⟩

/-- The clusters of a text. -/
def clusters (t : Text) : List Cluster :=
  ((t.foldl Clustering.next ⟨[], none, false⟩).done.map fun cluster =>
    ⟨cluster.characters.reverse, cluster.cells⟩).reverse

/-- A number of spaces. -/
def spaces (n : Nat) : Text := List.replicate n (CodePoint.ofChar ' ')

/-- The clusters that fit into a number of cells, and spaces in the cells that are left. -/
def fitting (cells : Nat) : List Cluster → Text
  | [] => spaces cells
  | cluster :: later =>
    if cluster.cells ≤ cells then cluster.characters ++ fitting (cells - cluster.cells) later
    else spaces cells

/-- A text cut to a number of cells. A wide character that would be cut in half is a space. -/
def crop (cells : Nat) (t : Text) : Text :=
  if t.width ≤ cells then t else fitting cells t.clusters

/-- A text with spaces before it. -/
def padLeft (cells : Nat) (t : Text) : Text := spaces (cells - t.width) ++ t

/-- A text with spaces behind it. -/
def padRight (cells : Nat) (t : Text) : Text := t ++ spaces (cells - t.width)

/-- A text between spaces. An odd space is behind it. -/
def centre (cells : Nat) (t : Text) : Text :=
  padRight cells (spaces ((cells - t.width) / 2) ++ t)

/-- The distance of the stops of a tab. -/
def tabStop : Nat := 8

/-- The column of the first stop behind another column. -/
def nextStop (column : Nat) : Nat := (column / tabStop + 1) * tabStop

/-- Puts pieces behind each other, each at the first stop behind the piece before. -/
def atStops (column : Nat) : List Text → List Text
  | [] => []
  | piece :: later =>
    let stop := nextStop (column + piece.width)
    if later.isEmpty then [piece]
    else (piece ++ spaces (stop - (column + piece.width))) :: atStops stop later

/-- A text with spaces in place of its tabs, each up to the next stop. -/
def expandTabs (t : Text) : Text := concat (atStops 0 (t.split '\t'))

end Text

end RobotsExclusion
