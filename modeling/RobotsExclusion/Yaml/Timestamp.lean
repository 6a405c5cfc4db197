import RobotsExclusion.Yaml.Error

/-!
# Points in time

Dates, perhaps with a time of day and a distance from universal time.

## Main definitions

* `Yaml.Timestamp` — a point in time
* `Yaml.Timestamp.parts?` — reads the parts of a point in time
* `Yaml.Timestamp.isPlain` — a text that is a point in time without being tagged so
* `Yaml.Timestamp.check` — refuses points in time that do not exist
-/

namespace RobotsExclusion.Yaml

/-- A time of day. -/
structure Clock where
  hour : Nat
  minute : Nat
  second : Nat
  microsecond : Nat
  /-- The distance from universal time in minutes, if it is given. -/
  offset : Option Int
deriving DecidableEq

/-- A date, perhaps with a time of day. -/
structure Timestamp where
  year : Nat
  month : Nat
  day : Nat
  clock : Option Clock
deriving DecidableEq

namespace Timestamp

/-- Reads a row of ASCII digits, of a length between two bounds and as long as can be. -/
def number? (least greatest : Nat) (t : Text) : Option (Nat × Text) :=
  let digits := (t.take greatest).takeWhile CodePoint.isAsciiDigit
  if digits.length < least then none else some (Text.natOfDigits digits, t.drop digits.length)

/-- Reads one character. -/
def mark? (c : Char) (t : Text) : Option Text :=
  match t with
  | [] => none
  | x :: rest => if x = CodePoint.ofChar c then some rest else none

/-- A text without the spaces and tabs at its start. -/
def dropSpaces (t : Text) : Text := t.dropWhile fun c => c = ' ' || c = '\t'

/-- What separates a date from a time of day: a letter or white space. -/
def gap? (t : Text) : Option Text :=
  match t with
  | [] => none
  | c :: rest =>
    if c = 'T' ∨ c = 't' then some rest
    else if c = ' ' ∨ c = '\t' then some (dropSpaces rest)
    else none

/-- Reads the distance from universal time up to the end of the text. The distance itself is
nothing if there is no text. -/
def offset? (t : Text) : Option (Option Int) :=
  if t.isEmpty then some none
  else
    match dropSpaces t with
    | [] => none
    | c :: rest =>
      if c = 'Z' then if rest.isEmpty then some (some 0) else none
      else if c = '+' ∨ c = '-' then do
        let (hours, rest) ← number? 1 2 rest
        let (minutes, rest) ←
          match mark? ':' rest with
          | none => some (0, rest)
          | some rest => number? 2 2 rest
        let distance : Int := 60 * hours + minutes
        if rest.isEmpty then some (some (if c = '-' then -distance else distance)) else none
      else none

/-- The number of microseconds that the digits behind the point of a second stand for. -/
def microseconds (digits : Text) : Nat :=
  let six := digits.take 6
  Text.natOfDigits six * Nat.pow 10 (6 - six.length)

/-- Reads a time of day up to the end of the text. -/
def clock? (t : Text) : Option Clock := do
  let (hour, t) ← number? 1 2 t
  let (minute, t) ← number? 2 2 (← mark? ':' t)
  let (second, t) ← number? 2 2 (← mark? ':' t)
  let (fraction, t) :=
    match mark? '.' t with
    | none => (([] : Text), t)
    | some rest =>
      let digits := rest.takeWhile CodePoint.isAsciiDigit
      (digits, rest.drop digits.length)
  let offset ← offset? t
  some ⟨hour, minute, second, microseconds fraction, offset⟩

/-- Reads the parts of a point in time, whether it exists or not. -/
def parts? (t : Text) : Option Timestamp := do
  let (year, t) ← number? 4 4 t
  let (month, t) ← number? 1 2 (← mark? '-' t)
  let (day, t) ← number? 1 2 (← mark? '-' t)
  if t.isEmpty then some ⟨year, month, day, none⟩
  else some ⟨year, month, day, some (← clock? (← gap? t))⟩

/-- A text that is a point in time without being tagged so. A date alone has to have all of its
ten characters. -/
def isPlain (t : Text) : Bool :=
  match parts? t with
  | none => false
  | some p => p.clock.isSome || t.length == 10

/-- A year with a 29th of February. -/
def isLeap (year : Nat) : Bool := year % 4 == 0 && (year % 100 != 0 || year % 400 == 0)

/-- The number of days of a month. -/
def daysIn (year month : Nat) : Nat :=
  if month = 2 then if isLeap year then 29 else 28
  else if month = 4 ∨ month = 6 ∨ month = 9 ∨ month = 11 then 30
  else 31

/-- Refuses a distance of a day or more. -/
def checkOffset : Option Int → Except DatePart Unit
  | none => .ok ()
  | some minutes => if 1440 ≤ minutes.natAbs then .error (.offset minutes) else .ok ()

/-- Refuses a time of day that does not exist. -/
def checkClock (c : Clock) : Except DatePart Unit :=
  if 24 ≤ c.hour then .error .hour
  else if 60 ≤ c.minute then .error .minute
  else if 60 ≤ c.second then .error .second
  else .ok ()

/-- Refuses a date that does not exist. -/
def checkDate (p : Timestamp) : Except DatePart Unit :=
  if p.year = 0 then .error (.year p.year)
  else if p.month = 0 ∨ 12 < p.month then .error .month
  else if p.day = 0 ∨ daysIn p.year p.month < p.day then .error .day
  else .ok ()

/-- Refuses a point in time that does not exist. -/
def check (p : Timestamp) : Except DatePart Timestamp := do
  match p.clock with
  | none => checkDate p
  | some c => do
    checkOffset c.offset
    checkDate p
    checkClock c
  .ok p

end Timestamp

end RobotsExclusion.Yaml
