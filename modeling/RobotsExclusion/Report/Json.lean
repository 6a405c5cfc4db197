import RobotsExclusion.Diagnostic
import RobotsExclusion.Json

/-!
# Reports as JSON

## Main definitions

* `Finding.toJson`, `Report.toJson` — the findings of a report by their severity
* `Diagnostic.toJson` — a finding with its span
-/

namespace RobotsExclusion

/-- A finding as an object. -/
def Finding.toJson (f : Finding) : Json :=
  .object [("line", .int f.line), ("message", .text f.message), ("severity", .text f.severity.name)]

/-- A report as an object. -/
def Report.toJson (r : Report) : Json :=
  .object [
    ("is_valid", .bool r.isValid),
    ("errors", .array (r.errors.map Finding.toJson)),
    ("warnings", .array (r.warnings.map Finding.toJson))]

/-- A diagnostic as an object. -/
def Diagnostic.toJson (d : Diagnostic) : Json :=
  .object [
    ("line", .int d.line), ("start", .int d.span.start), ("end", .int d.span.stop),
    ("severity", .text d.severity.name), ("message", .text d.message)]

end RobotsExclusion
