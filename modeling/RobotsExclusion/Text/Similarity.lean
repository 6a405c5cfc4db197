import RobotsExclusion.Text.Basic

/-!
# Similarity

Texts are compared by the blocks that they share: the longest one, and then the longest ones on
either side of it, and so on.

## Main definitions

* `Text.longestBlock` — the longest block that two texts share
* `Text.matching` — the number of characters in shared blocks
* `Text.isSimilar` — two texts that differ in few characters
* `Text.similar` — the candidates that are similar to a text
-/

namespace RobotsExclusion.Text

/-- The length of the longest common start. -/
def commonStart : Text → Text → Nat
  | a :: s, b :: t => if a = b then commonStart s t + 1 else 0
  | _, _ => 0

/-- A block that two texts share: where it starts in each of them, and its length. -/
structure Block where
  first : Nat
  second : Nat
  length : Nat

/-- The longer one of two blocks, or the earlier one. -/
def Block.longer (x y : Block) : Block := if x.length < y.length then y else x

/-- The longest one of a block and those that start at the start of `s` and anywhere in `t`; `i` and
`j` are where `s` and `t` start. -/
def longestFrom (best : Block) (i : Nat) (s : Text) (j : Nat) : Text → Block
  | [] => best
  | b :: t => longestFrom (best.longer ⟨i, j, commonStart s (b :: t)⟩) i s (j + 1) t

/-- The longest one of a block and those that start anywhere in two texts, of which the first
starts at `i`. -/
def longestWithin (best : Block) (i : Nat) (s t : Text) : Block :=
  match s with
  | [] => best
  | a :: s => longestWithin (longestFrom best i (a :: s) 0 t) (i + 1) s t

/-- The longest block that two texts share. Of several, the earliest one in the first text counts,
then the earliest one in the second. -/
def longestBlock (s t : Text) : Block := longestWithin ⟨0, 0, 0⟩ 0 s t

/-- The number of characters in shared blocks. -/
def matching (s t : Text) : Nat :=
  match longestBlock s t with
  | ⟨i, j, n⟩ =>
    if _h : 0 < n ∧ i < s.length then
      matching (s.take i) (t.take j) + n + matching (s.drop (i + n)) (t.drop (j + n))
    else 0
termination_by s.length
decreasing_by all_goals simp only [List.length_take, List.length_drop]; omega

/-- Two texts are similar if shared blocks make up three fifths of both together. -/
def isSimilar (s t : Text) : Bool := 3 * (s.length + t.length) ≤ 10 * matching s t

/-- One text is not behind another in alphabetical order. -/
def isUpTo (s t : Text) : Bool :=
  !(t.map CodePoint.toNat).lex (s.map CodePoint.toNat) fun m n => m < n

/-- The candidates that are similar to a text, in alphabetical order. -/
def similar (candidates : List Text) (t : Text) : List Text :=
  (candidates.filter fun s => isSimilar s t).mergeSort isUpTo

end RobotsExclusion.Text
