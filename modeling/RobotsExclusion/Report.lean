import RobotsExclusion.Text.Basic

/-!
# Findings and reports

What a check of a document has to say: a list of errors and a list of warnings, each tied to a
line. Only errors decide whether a document is valid.

## Main definitions

* `Finding` — a message with a severity, tied to a line; line `0` stands for the whole document
* `Report` — errors and warnings, each in the order in which they were found
* `Report.isValid` — a report without errors
* `Report.findings` — errors, then warnings
* `Report.ofFindings` — sorts findings by their severity
* `Report.render` — the report as plain text
-/

namespace RobotsExclusion

/-- How grave a finding is. -/
inductive Severity where
  | error
  | warning
deriving DecidableEq

/-- The name of a severity. -/
def Severity.name : Severity → Text
  | .error => "error"
  | .warning => "warning"

/-- A message about one line, or about the whole document if the line is `0`. -/
structure Finding where
  line : Int
  message : Text
  severity : Severity
deriving DecidableEq

/-- An error at a line. -/
def Finding.error (line : Int) (message : Text) : Finding := ⟨line, message, .error⟩

/-- A warning at a line. -/
def Finding.warning (line : Int) (message : Text) : Finding := ⟨line, message, .warning⟩

/-- What was found in a document. -/
structure Report where
  errors : List Finding
  warnings : List Finding
deriving DecidableEq

namespace Report

/-- No error was found. -/
def isValid (r : Report) : Bool := r.errors.isEmpty

/-- All findings, the errors first. -/
def findings (r : Report) : List Finding := r.errors ++ r.warnings

/-- Sorts findings by their severity and keeps their order otherwise. -/
def ofFindings (fs : List Finding) : Report :=
  ⟨fs.filter (·.severity = .error), fs.filter (·.severity = .warning)⟩

/-- What is said of a report without findings. -/
def success : Text := "✓ Valid robots.txt (RFC 9309 compliant)"

/-- The line of text for a finding, with its line feed. -/
def renderFinding (f : Finding) : Text :=
  "  Line " ++ Text.ofInt f.line ++ ": " ++ f.message ++ "\n"

/-- A heading with the findings below it, or nothing if there are none. -/
def renderSection (heading : Text) (fs : List Finding) : Text :=
  if fs.isEmpty then [] else heading ++ ":\n" ++ fs.flatMap renderFinding

/-- The report as plain text: a section for the errors and one for the warnings with an empty
line between them, or the message of success. -/
def render (r : Report) : Text :=
  if r.errors.isEmpty && r.warnings.isEmpty then success
  else
    let errors := renderSection "Errors" r.errors
    let warnings := renderSection "Warnings" r.warnings
    if r.errors.isEmpty || r.warnings.isEmpty then errors ++ warnings
    else errors ++ "\n" ++ warnings

end Report

end RobotsExclusion
