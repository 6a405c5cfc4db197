import RobotsExclusion.Binary64.Shortest
import RobotsExclusion.Yaml.Value

/-!
# Values as texts and truth values

## Main definitions

* `Yaml.Value.kind` — the name of a value's kind
* `Yaml.Value.isTrue` — a value that counts as true
* `Yaml.Value.toText?` — the text of a value
-/

namespace RobotsExclusion.Yaml

/-- A number with zeros before it. -/
def padded (width n : Nat) : Text :=
  let digits := Text.ofNat n
  List.replicate (width - digits.length) (CodePoint.ofChar '0') ++ digits

/-- A number with a zero before it if it has one digit. -/
def twoDigits (n : Nat) : Text := padded 2 n

namespace Timestamp

/-- The text of a distance from universal time. -/
def offsetText (minutes : Int) : Text :=
  (if minutes < 0 then Text.ofString "-" else "+")
    ++ twoDigits (minutes.natAbs / 60) ++ ":" ++ twoDigits (minutes.natAbs % 60)

/-- The text of a time of day. -/
def clockText (c : Clock) : Text :=
  let fraction : Text := if c.microsecond = 0 then [] else "." ++ padded 6 c.microsecond
  let offset : Text := (c.offset.map offsetText).getD []
  twoDigits c.hour ++ ":" ++ twoDigits c.minute ++ ":" ++ twoDigits c.second ++ fraction ++ offset

/-- The text of a point in time. -/
def toText (p : Timestamp) : Text :=
  let date := padded 4 p.year ++ "-" ++ twoDigits p.month ++ "-" ++ twoDigits p.day
  match p.clock with
  | none => date
  | some c => date ++ " " ++ clockText c

/-- A distance from universal time within a collection. -/
def quotedOffset (minutes : Int) : Text :=
  if minutes = 0 then "datetime.timezone.utc"
  else
    let days := minutes.fdiv 1440
    let seconds := minutes.fmod 1440 * 60
    let parts : List Text :=
      (if days = 0 then [] else ["days=" ++ Text.ofInt days])
        ++ (if seconds = 0 then [] else ["seconds=" ++ Text.ofInt seconds])
    "datetime.timezone(datetime.timedelta(" ++ Text.join ", " parts ++ "))"

/-- A point in time within a collection. -/
def quoted (p : Timestamp) : Text :=
  let date := [p.year, p.month, p.day].map Text.ofNat
  match p.clock with
  | none => "datetime.date(" ++ Text.join ", " date ++ ")"
  | some c =>
    let last :=
      if c.microsecond = 0 then if c.second = 0 then [] else [c.second]
      else [c.second, c.microsecond]
    let offset : List Text :=
      match c.offset with
      | none => []
      | some minutes => ["tzinfo=" ++ quotedOffset minutes]
    "datetime.datetime("
      ++ Text.join ", " (date ++ ([c.hour, c.minute] ++ last).map Text.ofNat ++ offset) ++ ")"

end Timestamp

/-- A byte as it stands between two `quote`s. -/
def escapeByteWithin (quote : CodePoint) (b : UInt8) : Text :=
  match CodePoint.ofNat? b.toNat with
  | none => []
  | some c =>
    if c = quote ∨ c = '\\' then ['\\', c]
    else if c = '\t' then "\\t"
    else if c = '\n' then "\\n"
    else if c = '\r' then "\\r"
    else if 0x20 ≤ c.toNat ∧ c.toNat < 0x7F then [c]
    else "\\x" ++ Text.hex 2 c.toNat

/-- Bytes between quotes. -/
def quotedBytes (bs : Bytes) : Text :=
  let quote : CodePoint := if bs.contains 0x27 && !bs.contains 0x22 then '"' else '\''
  CodePoint.ofChar 'b' :: quote :: bs.flatMap (escapeByteWithin quote) ++ [quote]

/-- A scalar within a collection. An integer can have too many digits to be written. -/
def Scalar.quoted? : Scalar → Option Text
  | .null => some "None"
  | .bool b => some (if b then "True" else "False")
  | .int n => Integer.decimal? n
  | .float x => some x.toText
  | .text t => some t.quoted
  | .bytes bs => some (quotedBytes bs)
  | .time t => some t.quoted

namespace Value

mutual

/-- A value within a collection. -/
def quoted? : Value → Option Text
  | .scalar s => s.quoted?
  | .list items => do some ("[" ++ Text.join ", " (← quotedItems? items) ++ "]")
  | .pairs entries => do some ("[" ++ Text.join ", " (← quotedPairs? entries) ++ "]")
  | .set members => do
    if members.isEmpty then some "set()"
    else some ("\x7b" ++ Text.join ", " (← members.mapM Scalar.quoted?) ++ "\x7d")
  | .mapping entries => do some ("\x7b" ++ Text.join ", " (← quotedEntries? entries) ++ "\x7d")
  | .enclosing isMapping => some (if isMapping then "\x7b...\x7d" else "[...]")

/-- The items of a list. -/
def quotedItems? : List Value → Option (List Text)
  | [] => some []
  | v :: rest => do some ((← quoted? v) :: (← quotedItems? rest))

/-- The pairs of a list of pairs. -/
def quotedPairs? : List (Value × Value) → Option (List Text)
  | [] => some []
  | (a, b) :: rest => do
    some (("(" ++ (← quoted? a) ++ ", " ++ (← quoted? b) ++ ")") :: (← quotedPairs? rest))

/-- The entries of a mapping. -/
def quotedEntries? : List (Scalar × Value) → Option (List Text)
  | [] => some []
  | (k, v) :: rest => do
    some (((← k.quoted?) ++ ": " ++ (← quoted? v)) :: (← quotedEntries? rest))

end

/-- The text of a value: texts and points in time as they are, and all else as it stands within
collections. -/
def toText? : Value → Option Text
  | .scalar (.text t) => some t
  | .scalar (.time t) => some t.toText
  | v => v.quoted?

/-- A value that counts as true: not the absence of a value, not false, not zero, and not empty.
What is not a number counts as true. -/
def isTrue : Value → Bool
  | .scalar .null => false
  | .scalar (.bool b) => b
  | .scalar (.int n) => n != 0
  | .scalar (.float x) => !x.isZero
  | .scalar (.text t) => !t.isEmpty
  | .scalar (.bytes bs) => !bs.isEmpty
  | .scalar (.time _) => true
  | .list items => !items.isEmpty
  | .pairs entries => !entries.isEmpty
  | .set members => !members.isEmpty
  | .mapping entries => !entries.isEmpty
  | .enclosing _ => true

/-- The name of a value's kind. -/
def kind : Value → Text
  | .scalar .null => "NoneType"
  | .scalar (.bool _) => "bool"
  | .scalar (.int _) => "int"
  | .scalar (.float _) => "float"
  | .scalar (.text _) => "str"
  | .scalar (.bytes _) => "bytes"
  | .scalar (.time t) => if t.clock.isSome then "datetime.datetime" else "datetime.date"
  | .list _ | .pairs _ => "list"
  | .set _ => "set"
  | .mapping _ => "dict"
  | .enclosing isMapping => if isMapping then "dict" else "list"

end Value

end RobotsExclusion.Yaml
