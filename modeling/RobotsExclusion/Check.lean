import RobotsExclusion.Directive
import RobotsExclusion.Numeral
import RobotsExclusion.Report
import RobotsExclusion.Url

/-!
# Checks of values

What each directive demands of its value. Every check takes the value and the line that its
findings name.

## Main definitions

* `Check.userAgent`, `Check.path`, `Check.sitemap`, `Check.crawlDelay` — the checks
* `Check.delay?` — the number of seconds at the start of a value
* `Directive.check?` — the check of a directive, if it has one
-/

namespace RobotsExclusion

namespace Check

/-- A character of a product token, or the wildcard. -/
def isTokenCharacter (c : CodePoint) : Bool :=
  c.isAsciiLetter || c.isAsciiDigit || c = '_' || c = '*' || c = '-'

/-- A user agent is named by a product token or the wildcard. -/
def userAgent (value : Text) (line : Int) : List Finding :=
  if value.isEmpty then [.error line "user-agent value cannot be empty"]
  else if value.all isTokenCharacter then []
  else [.warning line <|
    "user-agent should contain only letters, numbers, hyphens, underscores, or * (RFC 9309)"]

/-- A character that a path holds as it is. -/
def isPlainPathCharacter (c : CodePoint) : Bool := 0x21 ≤ c.toNat && c.toNat ≤ 0x7E

/-- An end-of-path mark stands within the value but not at its end. -/
def hasMisplacedEnd (value : Text) : Bool :=
  value.contains (CodePoint.ofChar '$') && value.getLast? != some (CodePoint.ofChar '$')

/-- A path is empty or starts with a slash, holds visible ASCII characters alone, and has an
end-of-path mark at most at its end. -/
def path (value : Text) (line : Int) : List Finding :=
  if value.isEmpty then []
  else
    (if value.head? = some (CodePoint.ofChar '/') then []
      else [.warning line "Path should start with / for proper matching (RFC 9309)"])
    ++ (if value.all isPlainPathCharacter then []
      else [.warning line <|
        "Non-ASCII characters should be percent-encoded (RFC 9309 Section 2.2.2)"])
    ++ (if hasMisplacedEnd value then
        [.warning line "$ should only appear at the end of the path (RFC 9309)"]
      else [])

/-- A sitemap is an absolute URL of a web scheme. -/
def sitemap (value : Text) (line : Int) : List Finding :=
  if value.isEmpty then [.error line "sitemap URL cannot be empty"]
  else
    match Url.absoluteScheme? value with
    | none => [.error line "sitemap must be a valid absolute URL"]
    | some scheme =>
      if Url.webSchemes.contains scheme then []
      else [.error line "sitemap must use HTTP or HTTPS protocol"]

/-- The number at the start of a value, behind blanks. -/
def delay? (value : Text) : Option Binary64 := do
  let numeral ← Numeral.leading? value.trimLeft
  (← Numeral.ofText? numeral).toBinary64

/-- A delay starts with a number that is not negative. -/
def crawlDelay (value : Text) (line : Int) : List Finding :=
  match delay? value with
  | none => [.warning line "crawl-delay value should be a number"]
  | some delay =>
    if delay.isNegative then [.warning line "crawl-delay should not be negative"] else []

end Check

/-- The check of a directive's value. -/
def Directive.check? : Directive → Option (Text → Int → List Finding)
  | .userAgent => some Check.userAgent
  | .disallow | .allow => some Check.path
  | .sitemap => some Check.sitemap
  | .crawlDelay => some Check.crawlDelay
  | _ => none

end RobotsExclusion
