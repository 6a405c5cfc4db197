import RobotsExclusion.Console
import RobotsExclusion.Report

/-!
# Reports as tables

A report is shown on the console as a table with a row for each finding.

## Main definitions

* `Report.Layout` — the widths of the columns
* `Report.table` — the table of a report
* `Report.display` — the table of a report, or a line that tells that there are no findings
-/

namespace RobotsExclusion.Report

/-- The widths of the columns of a table. -/
structure Layout where
  severity : Nat
  line : Nat
  message : Nat

/-- The message of a finding as it is shown. -/
def shownMessage (f : Finding) : Text := Console.shown (Console.escape f.message)

namespace Layout

/-- The characters that end a line wherever text is measured. -/
def breakRanges : List (Nat × Nat) := [(0xA, 0xD), (0x1C, 0x1E), (0x85, 0x85), (0x2028, 0x2029)]

/-- The lines that are being measured: the width of the widest one so far, and the one at hand in
reverse order. -/
structure Extent where
  widest : Nat
  line : Text

/-- The width of the widest line. -/
def Extent.total (e : Extent) : Nat := max e.widest (Text.width e.line.reverse)

/-- The width of the widest line of a text, whose lines end at any line break. -/
def measure (t : Text) : Nat :=
  (t.foldl (fun (e : Extent) c =>
    if c.inRanges breakRanges then ⟨e.total, []⟩ else ⟨e.widest, c :: e.line⟩) ⟨0, []⟩).total

/-- The width of the widest of some texts. -/
def widest (ts : List Text) : Nat := ts.foldl (fun n t => max n (measure t)) 0

/-- The cells that the borders of a table and the spaces within them take. -/
def frame : Nat := 10

/-- The width of the whole table. -/
def total (w : Layout) : Nat := w.severity + w.line + w.message + frame

/-- The layout of a table with these findings: the column of severities has a fixed width, the
others are as wide as their widest cell, and the messages only as wide as the console allows. -/
def ofFindings (fs : List Finding) : Layout :=
  let line := widest ("Line" :: fs.map fun f => Text.ofInt f.line)
  let message := widest ("Message" :: fs.map fun f => shownMessage f)
  ⟨10, line, min message (Console.width - frame - 10 - line)⟩

end Layout

/-- The signs that a border or a row is made of: its left end, what fills it, what stands between
two columns, and its right end. -/
structure Rule where
  left : CodePoint
  fill : CodePoint
  cross : CodePoint
  right : CodePoint

/-- A border. -/
def border (w : Layout) (rule : Rule) : Text :=
  let part (cells : Nat) : Text := List.replicate (cells + 2) rule.fill
  [rule.left] ++ part w.severity ++ [rule.cross] ++ part w.line ++ [rule.cross]
    ++ part w.message ++ [rule.right] ++ "\n"

/-- A line of a row with the cells between bars. -/
def cells (w : Layout) (bar : CodePoint) (severity line message : Text) : Text :=
  [bar] ++ " " ++ Text.padRight w.severity severity ++ " " ++ [bar]
    ++ " " ++ Text.padLeft w.line line ++ " " ++ [bar]
    ++ " " ++ Text.padRight w.message message ++ " " ++ [bar] ++ "\n"

/-- A line of a message that is too wide ends in an ellipsis. -/
def abbreviate (cells : Nat) (line : Text) : Text :=
  if Text.width line ≤ cells then line else Text.crop (cells - 1) line ++ "…"

/-- The lines of the message of a finding. -/
def messageLines (w : Layout) (f : Finding) : List Text :=
  (Text.lines (shownMessage f)).flatMap fun line =>
    (Text.wrap w.message false line.expandTabs).map fun row =>
      abbreviate w.message (Text.dropExcess w.message row)

/-- The row of a finding: its severity and its line stand beside the first line of its message. -/
def row (w : Layout) (f : Finding) : Text :=
  match messageLines w f with
  | [] => cells w '│' f.severity.name (Text.ofInt f.line) []
  | first :: later =>
    cells w '│' f.severity.name (Text.ofInt f.line) first ++ later.flatMap (cells w '│' [] [])

/-- The title of a table, centred above it. -/
def title (w : Layout) (name : Text) : Text :=
  (Text.lines (Console.shown (Console.escape name))).flatMap fun line =>
    (Text.wrap w.total true line.expandTabs).flatMap fun row =>
      Text.centre w.total (Text.trimRight row) ++ "\n"

/-- The table of a report, with a row for each finding. -/
def table (name : Text) (r : Report) : Text :=
  let w := Layout.ofFindings r.findings
  title w name
    ++ border w ⟨'┏', '━', '┳', '┓'⟩
    ++ cells w '┃' "Severity" "Line" "Message"
    ++ border w ⟨'┡', '━', '╇', '┩'⟩
    ++ r.findings.flatMap (row w)
    ++ border w ⟨'└', '─', '┴', '┘'⟩

/-- What is shown of a report. -/
def display (name : Text) (r : Report) : Text :=
  if r.findings.isEmpty then 
    Console.paragraph (Console.shown (Console.escape name ++ ": no findings."))
  else
    table name r ++ Console.paragraph (Text.ofNat r.errors.length ++ " error(s), "
      ++ Text.ofNat r.warnings.length ++ " warning(s)")

end RobotsExclusion.Report
