import RobotsExclusion.Yaml.Scalar.Block
import RobotsExclusion.Yaml.Scalar.Plain
import RobotsExclusion.Yaml.Scalar.Quoted
import RobotsExclusion.Yaml.Token.Property

/-!
# From YAML text to tokens

A key of a mapping needs no mark before it: that a token starts a key shows only at the colon
behind it, which must stand on the same line. Every token that may start a key is therefore
remembered as a candidate, one for each level of brackets, and the marks for the key are put before
it when the colon is met.

## Main definitions

* `Yaml.Lexer` — how far a text has been read
* `Yaml.Lexer.next` — reads one more token
* `Yaml.Token.ofText` — the tokens of a text
-/

namespace RobotsExclusion.Yaml

/-- A token that may turn out to start a key. -/
structure Candidate where
  /-- How many tokens precede it. -/
  number : Nat
  /-- Nothing but a key may stand here. -/
  required : Bool
  index : Nat
  line : Nat
  column : Nat

/-- How far a text has been read. -/
structure Lexer where
  cursor : Cursor
  /-- The column of the innermost collection that indentation shows, `-1` outside of all. -/
  indent : Int
  /-- The columns of the collections around it, the innermost first. -/
  outer : List Int
  /-- The candidate at the current level of brackets. -/
  candidate : Option Candidate
  /-- The candidates at the levels around it, the innermost first. -/
  outerCandidates : List (Option Candidate)
  /-- A key may start here. -/
  keyAllowed : Bool
  /-- The tokens so far, the last one first. -/
  tokens : List Token
  /-- The number of tokens so far. -/
  count : Nat
  /-- The end of the text has been met. -/
  done : Bool

namespace Lexer

/-- Before the first token. -/
def start (t : Text) : Lexer := ⟨Cursor.start t, -1, [], none, [], true, [], 0, false⟩

/-- Within brackets. -/
def inFlow (l : Lexer) : Bool := !l.outerCandidates.isEmpty

/-- Puts a token behind the others. -/
def emit (t : Token) (l : Lexer) : Lexer := { l with tokens := t :: l.tokens, count := l.count + 1 }

/-- Puts tokens behind the first `number` ones. -/
def insert (number : Nat) (ts : List Token) (l : Lexer) : Lexer :=
  let later := l.count - number
  { l with
    tokens := l.tokens.take later ++ ts.reverse ++ l.tokens.drop later
    count := l.count + ts.length }

/-- Passes over one character. -/
def advance (l : Lexer) : Lexer := { l with cursor := l.cursor.advance }

/-- The longest distance between the start of a key and its colon. -/
def maxKeyLength : Nat := 1024

/-- The candidate can no longer be a key. -/
def isStale (c : Cursor) (k : Candidate) : Bool :=
  k.line != c.line || maxKeyLength < c.index - k.index

/-- Drops a candidate if it can no longer be a key. -/
def dropStale (c : Cursor) : Option Candidate → Except Error (Option Candidate)
  | none => .ok none
  | some k =>
    if isStale c k then if k.required then .error .malformed else .ok none else .ok (some k)

/-- Drops all candidates that can no longer be keys. -/
def dropAllStale (l : Lexer) : Except Error Lexer := do
  let candidate ← dropStale l.cursor l.candidate
  let outerCandidates ← l.outerCandidates.mapM (dropStale l.cursor)
  .ok { l with candidate, outerCandidates }

/-- Drops the candidate at the current level. -/
def dropCandidate (l : Lexer) : Except Error Lexer :=
  match l.candidate with
  | none => .ok l
  | some k => if k.required then .error .malformed else .ok { l with candidate := none }

/-- Remembers the next token as a candidate, if a key may start here. -/
def addCandidate (l : Lexer) : Except Error Lexer :=
  if l.keyAllowed then do
    let l ← l.dropCandidate
    let required := !l.inFlow && l.indent == l.cursor.column
    let k : Candidate :=
      ⟨l.count, required, l.cursor.index, l.cursor.line, l.cursor.column⟩
    .ok { l with candidate := some k }
  else .ok l

/-- Ends the collections that stand further right than a column. -/
def endCollections (column indent : Int) (tokens : List Token) : List Int → Int × List Int × List Token
  | [] => (indent, [], tokens)
  | next :: outer =>
    if column < indent then endCollections column next (.blockEnd :: tokens) outer
    else (indent, next :: outer, tokens)

/-- Ends the collections that stand further right than a column. Within brackets indentation has
no meaning. -/
def unwind (column : Int) (l : Lexer) : Lexer :=
  if l.inFlow then l
  else
    let (indent, outer, tokens) := endCollections column l.indent l.tokens l.outer
    { l with indent, outer, tokens, count := l.count + (l.outer.length - outer.length) }

/-- Starts a collection at a column, if it stands further right than the current one. -/
def openCollection (column : Nat) (number : Nat) (t : Token) (l : Lexer) : Lexer :=
  if l.indent < column then
    insert number [t] { l with indent := column, outer := l.indent :: l.outer }
  else l

/-- Passes over spaces, comments and line breaks. Behind a line break outside of brackets a key
may start. -/
def skipToToken : Nat → Lexer → Lexer
  | 0, l => l
  | fuel + 1, l =>
    match l.cursor.skipSpaces.skipComment.lineBreak with
    | ([], cursor) => { l with cursor }
    | (_, cursor) =>
      skipToToken fuel { l with cursor, keyAllowed := l.keyAllowed || !l.inFlow }

/-- The end of the text. -/
def streamEnd (l : Lexer) : Except Error Lexer := do
  let l ← (l.unwind (-1)).dropCandidate
  .ok { l.emit .streamEnd with done := true }

/-- A directive. -/
def directive (l : Lexer) : Except Error Lexer := do
  let l ← (l.unwind (-1)).dropCandidate
  match Property.directive? l.cursor with
  | none => .error .malformed
  | some (token, cursor) => .ok { l.emit token with cursor, keyAllowed := false }

/-- A mark that starts or ends a document. -/
def documentMark (t : Token) (l : Lexer) : Except Error Lexer := do
  let l ← (l.unwind (-1)).dropCandidate
  .ok { l.emit t with cursor := Cursor.advanceBy 3 l.cursor, keyAllowed := false }

/-- An opening bracket, with which a key may start. -/
def openFlow (t : Token) (l : Lexer) : Except Error Lexer := do
  let l ← l.addCandidate
  .ok { l.advance.emit t with
    candidate := none, outerCandidates := l.candidate :: l.outerCandidates, keyAllowed := true }

/-- A closing bracket, which must have an opening one. -/
def closeFlow (t : Token) (l : Lexer) : Except Error Lexer := do
  let l ← l.dropCandidate
  match l.outerCandidates with
  | [] => .error .malformed
  | candidate :: outerCandidates =>
    .ok { l.advance.emit t with candidate, outerCandidates, keyAllowed := false }

/-- A comma within brackets. -/
def flowEntry (l : Lexer) : Except Error Lexer := do
  let l ← l.dropCandidate
  .ok { l.advance.emit .flowEntry with keyAllowed := true }

/-- The mark of an item of a sequence. -/
def blockEntry (l : Lexer) : Except Error Lexer := do
  if !l.inFlow && !l.keyAllowed then .error .malformed
  else
    let l := if l.inFlow then l
      else l.openCollection l.cursor.column l.count .blockSequenceStart
    let l ← l.dropCandidate
    .ok { l.advance.emit .blockEntry with keyAllowed := true }

/-- The mark of a key. -/
def key (l : Lexer) : Except Error Lexer := do
  if !l.inFlow && !l.keyAllowed then .error .malformed
  else
    let l := if l.inFlow then l
      else l.openCollection l.cursor.column l.count .blockMappingStart
    let l ← l.dropCandidate
    .ok { l.advance.emit .key with keyAllowed := !l.inFlow }

/-- The colon behind a key. If there is a candidate for the key, the marks for it go before it. -/
def value (l : Lexer) : Except Error Lexer := do
  match l.candidate with
  | some k =>
    let l := { l with candidate := none }.insert k.number [.key]
    let l := if l.inFlow then l else l.openCollection k.column k.number .blockMappingStart
    .ok { l.advance.emit .value with keyAllowed := false }
  | none =>
    if !l.inFlow && !l.keyAllowed then .error .malformed
    else
      let l := if l.inFlow then l
        else l.openCollection l.cursor.column l.count .blockMappingStart
      .ok { l.advance.emit .value with keyAllowed := !l.inFlow }

/-- An anchor or an alias. -/
def name (t : Text → Token) (l : Lexer) : Except Error Lexer := do
  let l ← l.addCandidate
  match Property.name? l.cursor with
  | none => .error .malformed
  | some (name, cursor) => .ok { l.emit (t name) with cursor, keyAllowed := false }

/-- A tag. -/
def tag (l : Lexer) : Except Error Lexer := do
  let l ← l.addCandidate
  match Property.tag? l.cursor with
  | none => .error .malformed
  | some (token, cursor) => .ok { l.emit token with cursor, keyAllowed := false }

/-- A block scalar. -/
def block (folded : Bool) (l : Lexer) : Except Error Lexer := do
  let l ← l.dropCandidate
  match Block.read? folded l.indent l.cursor with
  | none => .error .malformed
  | some (text, cursor) => .ok { l.emit (.scalar false text) with cursor, keyAllowed := true }

/-- A quoted scalar. -/
def quoted (double : Bool) (l : Lexer) : Except Error Lexer := do
  let l ← l.addCandidate
  let (text, cursor) ← Quoted.read double l.cursor
  .ok { l.emit (.scalar false text) with cursor, keyAllowed := false }

/-- A plain scalar. -/
def plain (l : Lexer) : Except Error Lexer := do
  let l ← l.addCandidate
  let r := Plain.read l.inFlow (l.indent + 1).toNat l.cursor
  .ok { l.emit (.scalar true r.text) with cursor := r.cursor, keyAllowed := r.keyAllowed }

/-- Reads one more token, with the marks that precede it. -/
def next (l : Lexer) : Except Error Lexer := do
  let l := skipToToken (l.cursor.left + 1) l
  let l ← l.dropAllStale
  let l := l.unwind l.cursor.column
  let c := l.cursor
  let wordEnds := endsWord (c.peekAt? 1)
  match c.peek? with
  | none => l.streamEnd
  | some x =>
    if x = '%' && c.column == 0 then l.directive
    else if c.column == 0 && c.atDocumentStart then l.documentMark .documentStart
    else if c.column == 0 && c.atDocumentEnd then l.documentMark .documentEnd
    else if x = '[' then l.openFlow .flowSequenceStart
    else if x = '\x7b' then l.openFlow .flowMappingStart
    else if x = ']' then l.closeFlow .flowSequenceEnd
    else if x = '\x7d' then l.closeFlow .flowMappingEnd
    else if x = ',' then l.flowEntry
    else if x = '-' && wordEnds then l.blockEntry
    else if x = '?' && (l.inFlow || wordEnds) then l.key
    else if x = ':' && (l.inFlow || wordEnds) then l.value
    else if x = '*' then l.name .alias
    else if x = '&' then l.name .anchor
    else if x = '!' then l.tag
    else if x = '|' && !l.inFlow then l.block false
    else if x = '>' && !l.inFlow then l.block true
    else if x = '\'' then l.quoted false
    else if x = '"' then l.quoted true
    else if Plain.canStart l.inFlow c then l.plain
    else .error .malformed

/-- Reads all tokens. -/
def run : Nat → Lexer → List Token
  | 0, l => (Token.fault .malformed :: l.tokens).reverse
  | fuel + 1, l =>
    match l.next with
    | .error e => (Token.fault e :: l.tokens).reverse
    | .ok l => if l.done then l.tokens.reverse else run fuel l

end Lexer

/-- A character that a YAML text may hold. -/
def isAllowed (c : CodePoint) : Bool :=
  c.inRanges [(0x9, 0xA), (0xD, 0xD), (0x20, 0x7E), (0x85, 0x85), (0xA0, 0xD7FF),
    (0xE000, 0xFFFD), (0x10000, 0x10FFFF)]

/-- The tokens of a text. The last one tells whether the text could be read to its end; every
other one takes a character at least. -/
def Token.ofText (t : Text) : List Token :=
  if t.all isAllowed then Lexer.run (t.length + 1) (Lexer.start t) else [.fault .malformed]

end RobotsExclusion.Yaml
