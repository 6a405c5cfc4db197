import RobotsExclusion.Utf8

/-!
# Files

What a run of the program can see of a file system.

## Main definitions

* `Files` — what stands at each path
* `Files.read?` — the contents of the file at a path
* `FileTree` — the files below a working directory
* `FileTree.files` — what stands at each path relative to that directory
-/

namespace RobotsExclusion

/-- What stands at a place. -/
inductive Entry where
  | file (contents : Bytes)
  | directory
deriving DecidableEq

/-- What stands at each path. -/
structure Files where
  find? : Text → Option Entry

/-- The contents of the file at a path, if a file stands there. -/
def Files.read? (files : Files) (path : Text) : Option Bytes :=
  match files.find? path with
  | some (.file contents) => some contents
  | _ => none

/-- Files and directories, each with the components of its place below the working directory.
The directories on the way to a place exist too. -/
structure FileTree where
  entries : List (List Text × Entry)

/-- A place: so many directories above the working directory, then down these components. -/
structure Place where
  above : Nat
  down : List Text
deriving DecidableEq

namespace FileTree

/-- What stands at a place below the working directory. -/
def at? (tree : FileTree) (down : List Text) : Option Entry :=
  match tree.entries.find? fun entry => entry.1 = down with
  | some entry => some entry.2
  | none =>
    if down.isEmpty || tree.entries.any fun entry => down.isPrefixOf entry.1 then some .directory
    else none

/-- What stands at a place. Nothing is known of what lies beside the working directory. -/
def atPlace? (tree : FileTree) (p : Place) : Option Entry :=
  if p.above = 0 then tree.at? p.down else if p.down.isEmpty then some .directory else none

/-- Follows one component of a path, which is possible from a directory alone. -/
def step? (tree : FileTree) (p : Place) (component : Text) : Option Place :=
  if tree.atPlace? p ≠ some .directory then none
  else if component.isEmpty || component = "." then some p
  else if component = ".." then
    if p.down.isEmpty then some ⟨p.above + 1, []⟩ else some ⟨p.above, p.down.dropLast⟩
  else
    let next : Place := ⟨p.above, p.down ++ [component]⟩
    if (tree.atPlace? next).isSome then some next else none

/-- What stands at a path. A path from the root is followed only as far as the root itself. -/
def find? (tree : FileTree) (path : Text) : Option Entry := do
  if path.isEmpty then none
  else
    let components := Text.split '/' path
    if path.head? = some (CodePoint.ofChar '/') then
      if components.all fun c => c.isEmpty || c = "." || c = ".." then some .directory else none
    else
      let p ← components.foldlM tree.step? ⟨0, []⟩
      tree.atPlace? p

/-- What can be seen of the tree. -/
def files (tree : FileTree) : Files := ⟨tree.find?⟩

end FileTree

end RobotsExclusion
