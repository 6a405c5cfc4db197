import RobotsExclusion.Text.LowerCase
import RobotsExclusion.Utf8
import RobotsExclusion.Yaml.Node
import RobotsExclusion.Yaml.Token.Lexer

/-!
# YAML values

What a YAML text denotes: scalars of several kinds in lists, sets and mappings. Keys are scalars.
A key that occurs again keeps its first place and takes its last value; the entries of a mapping
that is merged in come before the mapping's own.

## Main definitions

* `Yaml.Scalar`, `Yaml.Value` — scalars and values
* `Yaml.Value.ofNode` — the value of a node
* `Yaml.Value.ofText` — the value of a text
-/

namespace RobotsExclusion.Yaml

/-- A value without parts. -/
inductive Scalar where
  | null
  | bool (b : Bool)
  | int (n : Int)
  | float (x : Binary64)
  | text (t : Text)
  | bytes (bs : Bytes)
  | time (t : Timestamp)
deriving DecidableEq

/-- A value. -/
inductive Value where
  | scalar (s : Scalar)
  | list (items : List Value)
  /-- A list of pairs. -/
  | pairs (entries : List (Value × Value))
  | set (members : List Scalar)
  | mapping (entries : List (Scalar × Value))
  /-- The list or mapping that the value is part of. -/
  | enclosing (isMapping : Bool)

namespace Scalar

/-- The integer that a scalar is equal to, if there is one. Truth values count as numbers. -/
def integer? : Scalar → Option Int
  | bool b => some b.toInt
  | int n => some n
  | float (.finite negative significand exponent) =>
    if significand * Nat.pow 2 exponent.toNat % Nat.pow 2 (-exponent).toNat = 0 then
      (Binary64.finite negative significand exponent).truncate?
    else none
  | _ => none

/-- Two scalars that are the same key. Numbers are compared by value, and what is not a number is
the same as nothing. -/
def isSameKey (a b : Scalar) : Bool :=
  match a.integer?, b.integer? with
  | some m, some n => m = n
  | _, _ => a = b && a ≠ float .nan

/-- A text without its underscores. -/
def dropUnderscores (t : Text) : Text := t.filter (· ≠ CodePoint.ofChar '_')

/-- A minus sign stands at the start. -/
def isNegative (t : Text) : Bool := t.head? = some (CodePoint.ofChar '-')

/-- The number that places of base sixty give, the most significant first. -/
def ofPlaces (places : List Int) : Int := places.foldl (fun n place => 60 * n + place) 0

/-- An integer in base ten. -/
def decimal (t : Text) : Except Error Int := (Integer.ofText 10 t).mapError .integer

/-- An integer without a sign. Its start tells the base. -/
def unsignedInt (t : Text) : Except Error Int :=
  match t with
  | [] => .error .emptyNumber
  | c :: rest =>
    if c = '0' then
      if rest.isEmpty then .ok 0
      else if rest.head? = some (CodePoint.ofChar 'b') then
        (Integer.ofText 2 (rest.drop 1)).mapError .integer
      else if rest.head? = some (CodePoint.ofChar 'x') then
        (Integer.ofText 16 (rest.drop 1)).mapError .integer
      else (Integer.ofText 8 t).mapError .integer
    else if t.contains (CodePoint.ofChar ':') then
      ofPlaces <$> (Text.split ':' t).mapM decimal
    else decimal t

/-- The integer of a scalar tagged so. -/
def intOfText (t : Text) : Except Error Int :=
  let digits := dropUnderscores t
  if digits.isEmpty then .error .emptyNumber
  else do
    let n ← unsignedInt (Tag.unsigned digits)
    .ok (if isNegative digits then -n else n)

/-- A number in base ten. -/
def number (t : Text) : Except Error Binary64 :=
  match Numeral.ofText? t with
  | some n => .ok n.toBinary64
  | none => .error (.number t.quoted)

/-- The sum of places of base sixty, the least significant first; `weight` is that of the first. -/
def sumPlaces (sum : Binary64) (weight : Nat) : List Binary64 → Except Error Binary64
  | [] => .ok sum
  | place :: places =>
    match Binary64.ofNat weight with
    | .finite s m e => sumPlaces (sum.add (place.mul (.finite s m e))) (60 * weight) places
    | _ => .error .tooManyPlaces

/-- A number without a sign. -/
def unsignedFloat (t : Text) : Except Error Binary64 :=
  if t = ".inf" then .ok (.infinite false)
  else if t = ".nan" then .ok .nan
  else if t.contains (CodePoint.ofChar ':') then do
    let places ← (Text.split ':' t).mapM number
    sumPlaces (.zero false) 1 places.reverse
  else number t

/-- The number of a scalar tagged so. -/
def floatOfText (t : Text) : Except Error Binary64 :=
  let digits := (dropUnderscores t).lower
  if digits.isEmpty then .error .emptyNumber
  else do
    let x ← unsignedFloat (Tag.unsigned digits)
    .ok (if isNegative digits then x.neg else x)

/-- The truth value of a scalar tagged so. -/
def boolOfText (t : Text) : Except Error Bool :=
  match Tag.truthWords.find? fun entry => entry.1 = t.lower with
  | some entry => .ok entry.2
  | none => .error (.truth t.lower.quoted)

/-- The point in time of a scalar tagged so. -/
def timeOfText (t : Text) : Except Error Timestamp :=
  match Timestamp.parts? t with
  | some parts => parts.check.mapError .date
  | none => .error .timestamp

/-- The six bits that a character of base 64 stands for. -/
def sixBits? (c : CodePoint) : Option Nat :=
  if 0x41 ≤ c.toNat ∧ c.toNat ≤ 0x5A then some (c.toNat - 0x41)
  else if 0x61 ≤ c.toNat ∧ c.toNat ≤ 0x7A then some (c.toNat - 0x47)
  else if c.isAsciiDigit then some (c.toNat + 4)
  else if c = '+' then some 62
  else if c = '/' then some 63
  else none

/-- The bytes of characters of base 64; other characters are passed over. `pending` holds the bits
of `count` characters that do not fill a group of four yet, and `pads` the pads behind them. A
group may be cut short by pads, and nothing behind them counts. -/
def decodeBase64? (pending count pads : Nat) : Text → Option Bytes
  | [] => if count = 0 then some [] else none
  | c :: rest =>
    if c = '=' then
      if 2 ≤ count ∧ 4 ≤ count + (pads + 1) then
        some (if count = 2 then [.ofNat (pending / 0x10)]
          else [.ofNat (pending / 0x400), .ofNat (pending / 4)])
      else decodeBase64? pending count (if 2 ≤ count then pads + 1 else pads) rest
    else
      match sixBits? c with
      | none => decodeBase64? pending count pads rest
      | some bits =>
        let pending := pending * 0x40 + bits
        if count = 3 then do
          let more ← decodeBase64? 0 0 0 rest
          some (.ofNat (pending / 0x10000) :: .ofNat (pending / 0x100) :: .ofNat pending :: more)
        else decodeBase64? pending (count + 1) 0 rest

/-- The bytes of a scalar tagged so. -/
def bytesOfText (t : Text) : Except Error Bytes :=
  if t.all CodePoint.isAscii then (decodeBase64? 0 0 0 t).elim (.error .malformed) .ok
  else .error .malformed

/-- The scalar that a text with a tag denotes. -/
def ofText : Tag → Text → Except Error Scalar
  | .null, _ => .ok null
  | .bool, t => bool <$> boolOfText t
  | .int, t => int <$> intOfText t
  | .float, t => float <$> floatOfText t
  | .binary, t => bytes <$> bytesOfText t
  | .timestamp, t => time <$> timeOfText t
  | .text, t => .ok (text t)
  | _, _ => .error .malformed

end Scalar

/-- A fault in a tree. A collection is made at one stage and filled at the next one, together with
all others of its level, so that of two faults the one of the lower stage is met first. -/
structure Failure where
  stage : Nat
  error : Error

/-- A value, or the fault that is met first. -/
abbrev Outcome := Except Failure

namespace Outcome

/-- Both values, or the fault that is met first. -/
def both {α β : Type} : Outcome α → Outcome β → Outcome (α × β)
  | .ok a, .ok b => .ok (a, b)
  | .error e, .ok _ => .error e
  | .ok _, .error f => .error f
  | .error e, .error f => .error (if f.stage < e.stage then f else e)

/-- The items of both, or the fault that is met first. -/
def append {α : Type} (first second : Outcome (List α)) : Outcome (List α) :=
  (fun r => r.1 ++ r.2) <$> both first second

/-- A fault at a stage. -/
def fault {α : Type} (stage : Nat) (e : Error) : Outcome α := .error ⟨stage, e⟩

end Outcome

open Outcome

/-- The entries of a mapping, in the order of their first occurrence. -/
abbrev Entries := List (Scalar × Value)

namespace Entries

/-- Sets the value of a key. -/
def insert (key : Scalar) (value : Value) : Entries → Entries
  | [] => [(key, value)]
  | (k, v) :: rest =>
    if k.isSameKey key then (k, value) :: rest else (k, v) :: insert key value rest

/-- Entries of which a later one replaces the value of an earlier one. -/
def ofList (entries : List (Scalar × Value)) : Entries :=
  entries.foldl (fun es entry => insert entry.1 entry.2 es) []

/-- The value of a text key. -/
def get? (name : Text) (entries : Entries) : Option Value :=
  (entries.find? fun entry => entry.1 = .text name).map (·.2)

end Entries

namespace Value

/-- A key is the mark of a merge. -/
def isMerge (key : Node) : Bool := key.tag? = some .merge

/-- The keys of a set. -/
def keys (entries : Entries) : List Scalar := entries.map (·.1)

mutual

/-- The text of a node that should be a scalar: its own, or that of the default value of a
mapping. -/
def textOf? : Node → Option Text
  | .scalar _ text => some text
  | .mapping _ children => defaultOf? children
  | _ => none

/-- The text of the default value. -/
def defaultOf? : List (Node × Node) → Option Text
  | [] => none
  | (k, v) :: rest => if k.tag? = some .defaultValue then textOf? v else defaultOf? rest

end

/-- What is said of a point in time whose text is not its own. -/
def notOwnText : Text := "expected string or bytes-like object, got 'list'"

/-- The scalar of a kind that a node denotes. The text of a point in time has to be its own. -/
def ofScalar (stage : Nat) (tag : Tag) (n : Node) : Outcome Scalar :=
  match textOf? n, n with
  | none, _ => fault stage .malformed
  | some text, .scalar .. => (Scalar.ofText tag text).mapError fun e => ⟨stage, e⟩
  | some text, _ =>
    if tag = .timestamp then fault stage (.other false notOwnText)
    else (Scalar.ofText tag text).mapError fun e => ⟨stage, e⟩

/-- The key that a node denotes. A collection is none, whatever is in it; and the mark of a default
value is a text where it is a key. -/
def ofKey (stage : Nat) (n : Node) : Outcome Scalar :=
  match n.tag? with
  | none => fault stage .malformed
  | some tag =>
    if tag.isCollection then fault stage .malformed
    else ofScalar stage (if tag = .defaultValue then .text else tag) n

mutual

/-- What is merged into a mapping are mappings, and mappings may be merged into these. -/
def mergesWell : List (Node × Node) → Bool
  | [] => true
  | (k, v) :: rest => (!isMerge k || isMergeable v) && mergesWell rest

/-- A mapping or several of them. -/
def isMergeable : Node → Bool
  | .mapping _ children => mergesWell children
  | .sequence _ items => areMergeable items
  | _ => false

/-- Mappings alone. -/
def areMergeable : List Node → Bool
  | [] => true
  | n :: rest =>
    match n with
    | .mapping _ children => mergesWell children && areMergeable rest
    | _ => false

end

mutual

/-- The value of a node at a depth, which is the stage at which the node is made. -/
def ofNode (depth : Nat) : Node → Outcome Value
  | .scalar tag text =>
    if tag.isCollection then fault (depth + 1) .malformed
    else .scalar <$> ofScalar depth tag (.scalar tag text)
  | .sequence tag items =>
    match tag with
    | .sequence => .list <$> ofItems (depth + 1) items
    | .orderedMap | .pairs => .pairs <$> ofSinglePairs (depth + 1) items
    | _ => fault (if tag.isCollection then depth + 1 else depth) .malformed
  | .mapping tag children =>
    if tag = .mapping ∨ tag = .set then
      if mergesWell children then
        (fun entries =>
          if tag = .set then .set (keys (Entries.ofList entries))
          else .mapping (Entries.ofList entries)) <$>
          append (ofMerges (depth + 1) children) (ofOwn (depth + 1) children)
      else fault (depth + 1) .malformed
    else if tag.isCollection then fault (depth + 1) .malformed
    else .scalar <$> ofScalar depth tag (.mapping tag children)
  | .enclosing isMapping => .ok (.enclosing isMapping)

/-- The values of nodes at a depth. -/
def ofItems (depth : Nat) : List Node → Outcome (List Value)
  | [] => .ok []
  | n :: rest => (fun r => r.1 :: r.2) <$> both (ofNode depth n) (ofItems depth rest)

/-- The pairs of mappings with one pair each. -/
def ofSinglePairs (depth : Nat) : List Node → Outcome (List (Value × Value))
  | [] => .ok []
  | n :: rest =>
    match n with
    | .mapping _ [(k, v)] =>
      (fun r => r.1 :: r.2) <$>
        both (both (ofNode depth k) (ofNode depth v)) (ofSinglePairs depth rest)
    | _ => fault depth .malformed

/-- The entries of a mapping itself. -/
def ofOwn (depth : Nat) : List (Node × Node) → Outcome (List (Scalar × Value))
  | [] => .ok []
  | (k, v) :: rest =>
    if isMerge k then ofOwn depth rest
    else
      (fun r => r.1 :: r.2) <$> both (both (ofKey depth k) (ofNode depth v)) (ofOwn depth rest)

/-- The entries that are merged into a mapping. -/
def ofMerges (depth : Nat) : List (Node × Node) → Outcome (List (Scalar × Value))
  | [] => .ok []
  | (k, v) :: rest =>
    if isMerge k then append (ofMerged depth v) (ofMerges depth rest) else ofMerges depth rest

/-- The entries that a value behind the mark of a merge contributes. -/
def ofMerged (depth : Nat) : Node → Outcome (List (Scalar × Value))
  | .mapping _ children => append (ofMerges depth children) (ofOwn depth children)
  | .sequence _ items => ofMergedItems depth items
  | _ => .ok []

/-- The entries of several mappings, the last one first. -/
def ofMergedItems (depth : Nat) : List Node → Outcome (List (Scalar × Value))
  | [] => .ok []
  | n :: rest => append (ofMergedItems depth rest) (ofMerged depth n)

end

/-- The value of a text; nothing for a text without a document. -/
def ofText (t : Text) : Except Error Value := do
  match ← Node.ofTokens (Token.ofText t) with
  | none => .ok (.scalar .null)
  | some n => (ofNode 0 n).mapError (·.error)

end Value

end RobotsExclusion.Yaml
