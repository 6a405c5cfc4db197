import RobotsExclusion.Text.Basic

/-!
# Paths

The names of files, in the form in which they are shown: without empty components and without
components that stay where they are.

## Main definitions

* `Path` — a root and components
* `Path.ofText`, `Path.toText` — reading and showing a path
* `Path.join` — a path relative to another
-/

namespace RobotsExclusion

/-- A path. A root is empty, a slash, or exactly two slashes. -/
structure Path where
  root : Text
  components : List Text
deriving DecidableEq

namespace Path

/-- The root at the start of a text: more than two slashes are one. -/
def rootOf (t : Text) : Text :=
  match (t.takeWhile (· = CodePoint.ofChar '/')).length with
  | 0 => ""
  | 2 => "//"
  | _ => "/"

/-- A component that is kept: it has a name that does not stand for the place itself. -/
def isKept (component : Text) : Bool := !component.isEmpty && component ≠ "."

/-- Reads a path. -/
def ofText (t : Text) : Path := ⟨rootOf t, (Text.split '/' t).filter isKept⟩

/-- A path below another. -/
def join (p : Path) (components : List Text) : Path := ⟨p.root, p.components ++ components⟩

/-- Shows a path. -/
def toText (p : Path) : Text :=
  if p.root.isEmpty && p.components.isEmpty then "." else p.root ++ Text.join "/" p.components

end Path

end RobotsExclusion
