import RobotsExclusion.Check

/-!
# Lines

What a single line of a robots.txt document says, and what is wrong with it. All that a line has
to know of the lines before it is whether one of them names a user agent.

## Main definitions

* `Line` — a line without content, a line without a colon, or a rule
* `Line.ofText` — reads a line
* `Line.opensGroup` — a rule that names a user agent
* `Line.findings` — what is wrong with a line
-/

namespace RobotsExclusion

/-- The meaning of a line. -/
inductive Line where
  /-- An empty line or a comment. -/
  | empty
  /-- A line without a colon. -/
  | malformed
  /-- A name in lower case and a value, both without outer blanks. -/
  | rule (name value : Text)
deriving DecidableEq

/-- A text with each lone surrogate written as `\u` and four hexadecimal digits. -/
def Text.escapeSurrogates (t : Text) : Text :=
  t.flatMap fun c => if c.isSurrogate then "\\u" ++ Text.hex 4 c.toNat else [c]

namespace Line

/-- Reads a line. The first colon separates the name from the value. -/
def ofText (t : Text) : Line :=
  let trimmed := t.trim
  if trimmed.isEmpty || trimmed.head? = some (CodePoint.ofChar '#') then .empty
  else
    match trimmed.cut? ':' with
    | none => .malformed
    | some (name, value) => .rule name.trim.lower value.trim

/-- The line names a user agent, so that rules for it may follow. -/
def opensGroup : Line → Bool
  | .rule name _ => Directive.ofName? name = some .userAgent
  | _ => false

/-- The warning for a name that the standard does not define. -/
def nameFindings (name : Text) (number : Int) : List Finding :=
  match Category.ofName name with
  | .standard => []
  | .nonstandard =>
    [.warning number <|
      "'" ++ name ++ "' is not part of RFC 9309 standard (may be ignored by some crawlers)"]
  | .unknown =>
    [.warning number <| "Unknown directive '" ++ name.escapeSurrogates ++ "' (not in RFC 9309)"]

/-- What is wrong with a value. A rule that needs a group and stands before every user agent is an
error, and its value is not looked at. -/
def valueFindings (grouped : Bool) (name value : Text) (number : Int) : List Finding :=
  match Directive.ofName? name with
  | none => []
  | some directive =>
    if directive.needsGroup && !grouped then
      [.error number <|
        "'" ++ name ++ "' must follow a user-agent directive (RFC 9309 Section 2.2.1)"]
    else
      match directive.check? with
      | none => []
      | some check => check value number

/-- What is wrong with a line. `grouped` tells whether an earlier line names a user agent. -/
def findings (grouped : Bool) (number : Int) : Line → List Finding
  | .empty => []
  | .malformed =>
    [.error number "Invalid format: directive must contain colon separator"]
  | .rule name value => nameFindings name number ++ valueFindings grouped name value number

end Line

end RobotsExclusion
