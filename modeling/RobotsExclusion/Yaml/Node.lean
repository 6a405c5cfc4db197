import RobotsExclusion.Yaml.Tag
import RobotsExclusion.Yaml.Timestamp
import RobotsExclusion.Yaml.Token

/-!
# YAML nodes

The tree that a YAML text denotes, before its scalars are given values. An alias stands for a copy
of the node that its anchor names; within that node itself it stands for the collection around it.

## Main definitions

* `Yaml.Node` — a scalar, a sequence or a mapping
* `Yaml.Node.ofTokens` — the node of the only document among some tokens
-/

namespace RobotsExclusion.Yaml

/-- The tree that a text denotes. -/
inductive Node where
  | scalar (tag : Tag) (text : Text)
  | sequence (tag : Tag) (items : List Node)
  | mapping (tag : Tag) (pairs : List (Node × Node))
  /-- The sequence or mapping around the node. -/
  | enclosing (isMapping : Bool)

namespace Node

/-- The kind of a node. -/
def tag? : Node → Option Tag
  | .scalar tag _ | .sequence tag _ | .mapping tag _ => some tag
  | .enclosing _ => none

/-- How far the tokens have been read. -/
structure Progress where
  tokens : List Token
  /-- The nodes with anchors so far. -/
  anchors : List (Text × Node)

/-- Reads from the tokens. -/
abbrev Reader := StateT Progress (Except Error)

namespace Reader

/-- The text breaks a rule. -/
def refuse {α : Type} : Reader α := throw .malformed

/-- The next token. -/
def peek : Reader Token := do
  match (← get).tokens with
  | [] => refuse
  | .fault e :: _ => throw e
  | t :: _ => return t

/-- Passes over a token. -/
def skip : Reader Unit := modify fun p => { p with tokens := p.tokens.drop 1 }

/-- Passes over the next token if it is this one, and tells whether it is. -/
def take (t : Token) : Reader Bool := do
  if (← peek) = t then
    skip
    return true
  else return false

/-- Passes over the next token, which must be this one. -/
def expect (t : Token) : Reader Unit := do
  if !(← take t) then refuse

/-- The next token is one of these. -/
def isAt (ts : List Token) : Reader Bool := return ts.contains (← peek)

/-- The node that an anchor names. -/
def lookUp (name : Text) : Reader Node := do
  match (← get).anchors.find? fun entry => entry.1 = name with
  | some entry => return entry.2
  | none => refuse

/-- Lets an anchor name a node, if there is an anchor. -/
def define (name : Option Text) (n : Node) : Reader Unit :=
  match name with
  | none => return
  | some name => modify fun p => { p with anchors := (name, n) :: p.anchors }

/-- An anchor must not name two nodes. -/
def checkFresh (name : Option Text) : Reader Unit := do
  match name with
  | none => return
  | some name => if (← get).anchors.any fun entry => entry.1 = name then refuse

end Reader

/-- The handles of tags, with the starts of the tags that they stand for. -/
abbrev Handles := List (Text × Text)

/-- The handles that need no directive. -/
def defaultHandles : Handles := [("!", "!"), ("!!", Tag.stem)]

/-- What may stand before a node. -/
structure Properties where
  anchor : Option Text
  /-- The tag, its handle resolved. -/
  tag : Option Text

/-- The tag that a handle and the end of a tag give. -/
def resolve (handles : Handles) (handle : Option Text) (suffix : Text) : Reader Text :=
  match handle with
  | none => return suffix
  | some handle =>
    match handles.find? fun entry => entry.1 = handle with
    | some entry => return entry.2 ++ suffix
    | none => Reader.refuse

/-- Reads an anchor and a tag, in either order. -/
def properties (handles : Handles) : Reader Properties := do
  match ← Reader.peek with
  | .anchor name =>
    Reader.skip
    match ← Reader.peek with
    | .tag handle suffix =>
      Reader.skip
      return ⟨some name, some (← resolve handles handle suffix)⟩
    | _ => return ⟨some name, none⟩
  | .tag handle suffix =>
    Reader.skip
    match ← Reader.peek with
    | .anchor name =>
      Reader.skip
      return ⟨some name, some (← resolve handles handle suffix)⟩
    | _ => return ⟨none, some (← resolve handles handle suffix)⟩
  | _ => return ⟨none, none⟩

/-- The tag that asks for the kind to be read off the node itself. -/
def isUnspecific (tag : Option Text) : Bool := tag = none || tag = some (Text.ofString "!")

/-- The kind of a collection. -/
def collectionTag (default : Tag) (tag : Option Text) : Tag :=
  if isUnspecific tag then default else (tag.map Tag.ofText).getD default

/-- The kind of a scalar. Its form counts if it is plain, or if the tag says so. -/
def scalarTag (tag : Option Text) (plain : Bool) (text : Text) : Tag :=
  if (plain && tag = none) || tag = some (Text.ofString "!") then
    Tag.ofPlain Timestamp.isPlain text
  else (tag.map Tag.ofText).getD .text

/-- The node that stands where nothing is written. -/
def empty : Node := .scalar .null []

mutual

/-- Reads a node. Indented collections are allowed if `block` holds, and sequences without
indentation of their own if `indentless` holds. -/
def node (handles : Handles) (block indentless : Bool) : Nat → Reader Node
  | 0 => Reader.refuse
  | fuel + 1 => do
    match ← Reader.peek with
    | .alias name =>
      Reader.skip
      Reader.lookUp name
    | _ => do
      let p ← properties handles
      let sequence (items : Reader (List Node)) : Reader Node := do
        Reader.checkFresh p.anchor
        Reader.define p.anchor (.enclosing false)
        let n := Node.sequence (collectionTag .sequence p.tag) (← items)
        Reader.define p.anchor n
        return n
      let mapping (pairs : Reader (List (Node × Node))) : Reader Node := do
        Reader.checkFresh p.anchor
        Reader.define p.anchor (.enclosing true)
        let n := Node.mapping (collectionTag .mapping p.tag) (← pairs)
        Reader.define p.anchor n
        return n
      let scalar (plain : Bool) (text : Text) : Reader Node := do
        Reader.checkFresh p.anchor
        let n := Node.scalar (scalarTag p.tag plain text) text
        Reader.define p.anchor n
        return n
      match ← Reader.peek with
      | .scalar plain text =>
        Reader.skip
        scalar plain text
      | .flowSequenceStart =>
        Reader.skip
        sequence (flowItems handles true fuel)
      | .flowMappingStart =>
        Reader.skip
        mapping (flowPairs handles true fuel)
      | t =>
        if indentless && t = .blockEntry then sequence (indentlessItems handles fuel)
        else if block && t = .blockSequenceStart then
          Reader.skip
          sequence (blockItems handles fuel)
        else if block && t = .blockMappingStart then
          Reader.skip
          mapping (blockPairs handles fuel)
        else if p.anchor.isSome || p.tag.isSome then
          scalar (isUnspecific p.tag) []
        else Reader.refuse

/-- Reads a node, or nothing before one of these tokens. -/
def nodeUnless (handles : Handles) (block indentless : Bool) (ends : List Token) :
    Nat → Reader Node
  | 0 => Reader.refuse
  | fuel + 1 => do
    if ← Reader.isAt ends then return empty
    else node handles block indentless fuel

/-- Reads the items of an indented sequence. -/
def blockItems (handles : Handles) : Nat → Reader (List Node)
  | 0 => Reader.refuse
  | fuel + 1 => do
    if ← Reader.take .blockEntry then
      let item ← nodeUnless handles true false [.blockEntry, .blockEnd] fuel
      return item :: (← blockItems handles fuel)
    else
      Reader.expect .blockEnd
      return []

/-- Reads the items of a sequence without indentation of its own. -/
def indentlessItems (handles : Handles) : Nat → Reader (List Node)
  | 0 => Reader.refuse
  | fuel + 1 => do
    if ← Reader.take .blockEntry then
      let item ← nodeUnless handles true false [.blockEntry, .key, .value, .blockEnd] fuel
      return item :: (← indentlessItems handles fuel)
    else return []

/-- Reads the value behind a key. -/
def valueAfter (handles : Handles) (block : Bool) (ends : List Token) : Nat → Reader Node
  | 0 => Reader.refuse
  | fuel + 1 => do
    if ← Reader.take .value then nodeUnless handles block block ends fuel
    else return empty

/-- Reads the pairs of an indented mapping. -/
def blockPairs (handles : Handles) : Nat → Reader (List (Node × Node))
  | 0 => Reader.refuse
  | fuel + 1 => do
    if ← Reader.take .key then
      let key ← nodeUnless handles true true [.key, .value, .blockEnd] fuel
      let value ← valueAfter handles true [.key, .value, .blockEnd] fuel
      return (key, value) :: (← blockPairs handles fuel)
    else
      Reader.expect .blockEnd
      return []

/-- Reads the items of a sequence between brackets. A key among them starts a mapping of one
pair. -/
def flowItems (handles : Handles) (first : Bool) : Nat → Reader (List Node)
  | 0 => Reader.refuse
  | fuel + 1 => do
    if ← Reader.take .flowSequenceEnd then return []
    else
      if !first then Reader.expect .flowEntry
      if ← Reader.take .key then
        let key ← nodeUnless handles false false [.value, .flowEntry, .flowSequenceEnd] fuel
        let value ← valueAfter handles false [.flowEntry, .flowSequenceEnd] fuel
        return .mapping .mapping [(key, value)] :: (← flowItems handles false fuel)
      else if ← Reader.take .flowSequenceEnd then return []
      else
        let item ← node handles false false fuel
        return item :: (← flowItems handles false fuel)

/-- Reads the pairs of a mapping between brackets. -/
def flowPairs (handles : Handles) (first : Bool) : Nat → Reader (List (Node × Node))
  | 0 => Reader.refuse
  | fuel + 1 => do
    if ← Reader.take .flowMappingEnd then return []
    else
      if !first then Reader.expect .flowEntry
      if ← Reader.take .key then
        let key ← nodeUnless handles false false [.value, .flowEntry, .flowMappingEnd] fuel
        let value ← valueAfter handles false [.flowEntry, .flowMappingEnd] fuel
        return (key, value) :: (← flowPairs handles false fuel)
      else if ← Reader.take .flowMappingEnd then return []
      else
        let key ← node handles false false fuel
        return (key, empty) :: (← flowPairs handles false fuel)

end

/-- Reads the directives before a document: the handles of tags that hold in it. -/
def directives (versioned : Bool) (handles : Handles) : Nat → Reader Handles
  | 0 => Reader.refuse
  | fuel + 1 => do
    match ← Reader.peek with
    | .version major =>
      if versioned || major ≠ 1 then Reader.refuse
      else
        Reader.skip
        directives true handles fuel
    | .handle name stem =>
      if handles.any fun entry => entry.1 = name then Reader.refuse
      else
        Reader.skip
        directives versioned ((name, stem) :: handles) fuel
    | .reserved =>
      Reader.skip
      directives versioned handles fuel
    | _ => return handles ++ defaultHandles

/-- Passes over marks for the end of a document. -/
def skipDocumentEnds : Nat → Reader Unit
  | 0 => return
  | fuel + 1 => do
    if ← Reader.take .documentEnd then skipDocumentEnds fuel

/-- The token is a directive. -/
def isDirective : Token → Bool
  | .version _ | .handle _ _ | .reserved => true
  | _ => false

/-- Reads the only document, if there is one. -/
def document (fuel : Nat) : Reader (Option Node) := do
  let t ← Reader.peek
  if t = .streamEnd then return none
  else
    let n ←
      if isDirective t || t = .documentStart then do
        let handles ← directives false [] fuel
        Reader.expect .documentStart
        let t ← Reader.peek
        if isDirective t || t = .documentStart || t = .documentEnd || t = .streamEnd then
          pure empty
        else node handles true false fuel
      else node defaultHandles true false fuel
    skipDocumentEnds fuel
    Reader.expect .streamEnd
    return some n

/-- The node of the only document among some tokens, if there is a document. -/
def ofTokens (tokens : List Token) : Except Error (Option Node) :=
  (document (4 * tokens.length + 4)).run' ⟨tokens, []⟩

end Node

end RobotsExclusion.Yaml
