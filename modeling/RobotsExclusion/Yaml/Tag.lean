import RobotsExclusion.Text.Basic

/-!
# YAML tags

What kind of value a node denotes: said by a tag, or read off the form of a plain scalar.

## Main definitions

* `Yaml.Tag` — the kinds of values
* `Yaml.Tag.ofText` — the kind that a tag stands for
* `Yaml.Tag.ofPlain` — the kind of a plain scalar
-/

namespace RobotsExclusion.Yaml

/-- The kinds of values. -/
inductive Tag where
  | null
  | bool
  | int
  | float
  | binary
  | timestamp
  | orderedMap
  | pairs
  | set
  | text
  | sequence
  | mapping
  /-- The key that merges other mappings into a mapping. -/
  | merge
  /-- The key for the default value of a mapping. -/
  | defaultValue
  | unknown
deriving DecidableEq

namespace Tag

/-- The start of the tags of the standard. -/
def stem : Text := "tag:yaml.org,2002:"

/-- The ends of the tags of the standard. -/
def names : List (Text × Tag) := [
  ("null", null), ("bool", bool), ("int", int), ("float", float), ("binary", binary),
  ("timestamp", timestamp), ("omap", orderedMap), ("pairs", pairs), ("set", set), ("str", text),
  ("seq", sequence), ("map", mapping), ("merge", merge), ("value", defaultValue)]

/-- The kind that a tag stands for. -/
def ofText (t : Text) : Tag :=
  if stem.isPrefixOf t then
    ((names.find? fun entry => entry.1 = t.drop stem.length).map (·.2)).getD unknown
  else unknown

/-- A kind of values that have parts. -/
def isCollection (t : Tag) : Bool := [orderedMap, pairs, set, sequence, mapping].contains t

/-- One of these characters. -/
def among (characters : String) (c : CodePoint) : Bool := (Text.ofString characters).contains c

/-- A digit or an underscore. -/
def isDigitOrUnderscore (c : CodePoint) : Bool := c.isAsciiDigit || c = '_'

/-- A text without a sign at its start. -/
def unsigned (t : Text) : Text :=
  match t with
  | [] => []
  | c :: rest => if c = '+' ∨ c = '-' then rest else t

/-- The text starts with a digit, and only digits and underscores follow. -/
def isDigits (t : Text) : Bool :=
  (t.head?.map CodePoint.isAsciiDigit).getD false && t.all isDigitOrUnderscore

/-- A number below sixty in at most two digits. -/
def isBelowSixty (t : Text) : Bool :=
  t.all CodePoint.isAsciiDigit
    && (t.length == 1 || (t.length == 2 && (t.head?.map (among "012345")).getD false))

/-- An exponent with a sign, or nothing. -/
def isExponent (t : Text) : Bool :=
  match t with
  | [] => true
  | e :: s :: digits =>
    (e = 'e' || e = 'E') && (s = '+' || s = '-')
      && !digits.isEmpty && digits.all CodePoint.isAsciiDigit
  | _ => false

/-- An integer: binary, octal, decimal, hexadecimal or in base sixty. -/
def isInt (t : Text) : Bool :=
  match unsigned t with
  | [] => false
  | c :: rest =>
    if c = '0' then
      match rest with
      | [] => true
      | m :: digits =>
        if m = 'b' then !digits.isEmpty && digits.all (among "01_")
        else if m = 'x' then !digits.isEmpty && digits.all fun d => d.isHexDigit || d = '_'
        else rest.all (among "01234567_")
    else if c.isAsciiDigit then
      match Text.split ':' (c :: rest) with
      | first :: places => isDigits first && places.all isBelowSixty
      | [] => false
    else false

/-- What stands behind the point of a number in base ten: digits and perhaps an exponent. -/
def isFraction (t : Text) : Bool := isExponent (t.dropWhile isDigitOrUnderscore)

/-- A number with a point: in base ten or sixty, infinite or undefined. -/
def isFloat (t : Text) : Bool :=
  match (unsigned t).cut? '.' with
  | none => false
  | some (whole, fraction) =>
    if whole.isEmpty then
      [Text.ofString "inf", "Inf", "INF"].contains fraction
        || (unsigned t = t && ([Text.ofString "nan", "NaN", "NAN"].contains fraction
          || ((fraction.head?.map CodePoint.isAsciiDigit).getD false && isFraction fraction)))
    else
      match whole.split ':' with
      | [digits] => isDigits digits && isFraction fraction
      | first :: places =>
        isDigits first && places.all isBelowSixty && fraction.all isDigitOrUnderscore
      | [] => false

/-- What truth values look like. -/
def truthWords : List (Text × Bool) := [
  ("yes", true), ("Yes", true), ("YES", true), ("no", false), ("No", false), ("NO", false),
  ("true", true), ("True", true), ("TRUE", true), ("false", false), ("False", false),
  ("FALSE", false), ("on", true), ("On", true), ("ON", true), ("off", false), ("Off", false),
  ("OFF", false)]

/-- What the absence of a value looks like. -/
def nullWords : List Text := ["", "~", "null", "Null", "NULL"]

/-- The kind of a plain scalar. `isTimestamp` tells which texts are points in time. -/
def ofPlain (isTimestamp : Text → Bool) (t : Text) : Tag :=
  if (truthWords.map (·.1)).contains t then bool
  else if isFloat t then float
  else if isInt t then int
  else if t = "<<" then merge
  else if nullWords.contains t then null
  else if isTimestamp t then timestamp
  else if t = "=" then defaultValue
  else text

end Tag

end RobotsExclusion.Yaml
