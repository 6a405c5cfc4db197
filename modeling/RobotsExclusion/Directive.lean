import RobotsExclusion.Text.LowerCase

/-!
# Directives

The names that a line of a robots.txt document may start with.

## Main definitions

* `Directive` — the known directives
* `Directive.token` — the name of a directive, in lower case
* `Directive.ofName?` — the directive of a name in any letter case
* `Category.ofName` — whether a name is standard, common but non-standard, or unknown
-/

namespace RobotsExclusion

/-- How a name relates to the standard. -/
inductive Category where
  | standard
  | nonstandard
  | unknown
deriving DecidableEq

/-- The name of a category. -/
def Category.name : Category → Text
  | .standard => "standard"
  | .nonstandard => "nonstandard"
  | .unknown => "unknown"

/-- The known directives. -/
inductive Directive where
  | userAgent
  | disallow
  | allow
  | sitemap
  | crawlDelay
  | requestRate
  | visitTime
  | host
  | cleanParam
deriving DecidableEq

namespace Directive

/-- All known directives. -/
def all : List Directive :=
  [userAgent, disallow, allow, sitemap, crawlDelay, requestRate, visitTime, host, cleanParam]

/-- The name of a directive, in lower case. -/
def token : Directive → Text
  | userAgent => "user-agent"
  | disallow => "disallow"
  | allow => "allow"
  | sitemap => "sitemap"
  | crawlDelay => "crawl-delay"
  | requestRate => "request-rate"
  | visitTime => "visit-time"
  | host => "host"
  | cleanParam => "clean-param"

/-- Which directives the standard defines. -/
def category : Directive → Category
  | userAgent | disallow | allow | sitemap => .standard
  | crawlDelay | requestRate | visitTime | host | cleanParam => .nonstandard

/-- The directive with this name, whatever the case of its letters. -/
def ofName? (name : Text) : Option Directive :=
  let lowered := name.lower
  all.find? fun d => d.token = lowered

/-- The directives that only make sense within a group of rules for some user agent. -/
def needsGroup : Directive → Bool
  | allow | disallow => true
  | _ => false

end Directive

/-- The category of a name. -/
def Category.ofName (name : Text) : Category :=
  match Directive.ofName? name with
  | none => .unknown
  | some d => d.category

end RobotsExclusion
