import RobotsExclusion.Report

/-!
# Diagnostics

Findings tied to spans of a document, for the markers of an editor.

## Main definitions

* `Span` — a stretch of a document, counted in code points
* `Text.lineSpans` — the spans of the lines of a text, line feeds left out
* `Diagnostic.ofFinding?` — ties a finding to the span of its line
* `Diagnostic.ofReport` — the diagnostics of a report
-/

namespace RobotsExclusion

/-- The code points from `start` up to `stop`, which does not count. -/
structure Span where
  start : Nat
  stop : Nat
deriving DecidableEq

/-- A finding tied to the span of its line. -/
structure Diagnostic where
  line : Nat
  span : Span
  severity : Severity
  message : Text
deriving DecidableEq

/-- Puts the spans of consecutive lines behind `done`, which is in reverse order; `offset` is where
the first of them starts. -/
def spansOnto (done : List Span) (offset : Nat) : List Text → List Span
  | [] => done.reverse
  | line :: rest =>
    spansOnto (⟨offset, offset + line.length⟩ :: done) (offset + line.length + 1) rest

/-- The spans of the lines of a text. -/
def Text.lineSpans (t : Text) : Array Span := (spansOnto [] 0 t.lines).toArray

namespace Diagnostic

/-- Ties a finding to its line. A finding about the whole document is shown at the first line, and
one behind the last line not at all. -/
def ofFinding? (spans : Array Span) (f : Finding) : Option Diagnostic :=
  let line := if 0 < f.line then f.line.toNat else 1
  spans[line - 1]?.map fun span => ⟨line, span, f.severity, f.message⟩

/-- The diagnostics of a report on a document, the errors first. -/
def ofReport (content : Text) (r : Report) : List Diagnostic :=
  r.findings.filterMap (ofFinding? content.lineSpans)

end Diagnostic

end RobotsExclusion
