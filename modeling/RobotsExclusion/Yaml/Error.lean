import RobotsExclusion.Integer

/-!
# YAML errors

Why a YAML text has no value.

## Main definitions

* `Yaml.Error` — the causes
* `Yaml.Error.message?` — the cause in words, where it is more than a malformed text
-/

namespace RobotsExclusion.Yaml

/-- A part of a point in time that is out of range. -/
inductive DatePart where
  | year (n : Nat)
  | month
  | day
  | hour
  | minute
  | second
  /-- The distance from universal time, in minutes. -/
  | offset (minutes : Int)
deriving DecidableEq

/-- What is said of a part that is out of range. -/
def DatePart.message : DatePart → Text
  | .year n => "year " ++ Text.ofNat n ++ " is out of range"
  | .month => "month must be in 1..12"
  | .day => "day is out of range for month"
  | .hour => "hour must be in 0..23"
  | .minute => "minute must be in 0..59"
  | .second => "second must be in 0..59"
  | .offset minutes =>
    let days := minutes.fdiv 1440
    let seconds := minutes.fmod 1440 * 60
    let rest : Text := if seconds = 0 then [] else ", seconds=" ++ Text.ofInt seconds
    "offset must be a timedelta strictly between -timedelta(hours=24) and timedelta(hours=24), "
      ++ "not datetime.timedelta(days=" ++ Text.ofInt days ++ rest ++ ")."

/-- Why a text has no value. -/
inductive Error where
  /-- The text breaks a rule of the format, or uses a tag or an alias that means nothing. -/
  | malformed
  /-- An escape gives a number that no code point has. -/
  | escapeOutOfRange
  /-- An escape gives a number of more than 31 bits. -/
  | escapeTooLarge
  /-- A scalar that should be a number is empty. -/
  | emptyNumber
  /-- A scalar that should be an integer is none. -/
  | integer (error : Integer.Error)
  /-- A scalar that should be a number is none. -/
  | number (shown : Text)
  /-- A number in base sixty has more places than can be counted. -/
  | tooManyPlaces
  /-- A scalar that should be a truth value is none. -/
  | truth (shown : Text)
  /-- A scalar that should be a point in time is none. -/
  | timestamp
  /-- A point in time does not exist. -/
  | date (part : DatePart)
  /-- Something else is wrong, be it with a value or not. -/
  | other (aboutValue : Bool) (shown : Text)
deriving DecidableEq

/-- The cause in words. Of a malformed text no more is said. -/
def Error.message? : Error → Option Text
  | .malformed => none
  | .escapeOutOfRange => some "chr() arg not in range(0x110000)"
  | .escapeTooLarge => some "Python int too large to convert to C int"
  | .emptyNumber => some "string index out of range"
  | .integer error => some error.message
  | .number shown => some ("could not convert string to float: " ++ shown)
  | .tooManyPlaces => some "int too large to convert to float"
  | .truth shown => some shown
  | .timestamp => some "'NoneType' object has no attribute 'groupdict'"
  | .date part => some part.message
  | .other _ shown => some shown

end RobotsExclusion.Yaml
