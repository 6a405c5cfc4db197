import RobotsExclusion.CommandLine.Outcome
import RobotsExclusion.Report.Table

/-!
# Checking files

The command that checks the documents in files and writes a report on each of them.

## Main definitions

* `CheckRequest` — what is to be checked, and how
* `CheckRequest.read` — the request that arguments make
* `CheckRequest.documents` — the documents with their names
* `Reports` — a report under each name
* `CheckRequest.run` — checks the documents
-/

namespace RobotsExclusion

/-- What is to be checked, and how. -/
structure CheckRequest where
  /-- The format that is asked for. -/
  format? : Option OutputFormat
  /-- Strictness is asked for. -/
  strict : Bool
  /-- The names of files; a dash is the standard input. -/
  names : List Text

/-- The options of the command. -/
inductive CheckOption where
  | format
  | strict
  | help
deriving DecidableEq

/-- The options of the command with their names. -/
def CheckOption.switches : List (Switch CheckOption) := [
  ⟨format, "--format", some 'f', true⟩, ⟨strict, "--strict", none, false⟩,
  ⟨help, "--help", none, false⟩]

/-- The name of the standard input. -/
def standardInput : Text := "-"

/-- How a run ends that is to read a file with this name, unless the file can be read. -/
def Files.refusal? (files : Files) (name : Text) : Option Outcome :=
  if name = standardInput then none
  else if name.any fun c => c.toNat = 0 then some (.broken .nullCharacter)
  else
    match files.find? name with
    | none => some (.refused Command.check (.noFile name))
    | some .directory => some (.refused Command.check (.isDirectory name))
    | some (.file _) => none

namespace CheckRequest

/-- The format that an option asks for. -/
def readFormat : Option Text → Except Outcome (Option OutputFormat)
  | none => .ok none
  | some value =>
    match OutputFormat.ofName? value with
    | some f => .ok (some f)
    | none => .error (.refused Command.check (.unknownFormat value))

/-- The request that options and words make. -/
def ofArguments (files : Files) (a : Arguments CheckOption) : Except Outcome CheckRequest := do
  let format? ← readFormat (a.value? .format)
  match a.words.findSome? files.refusal? with
  | some o => .error o
  | none =>
    if a.words.isEmpty then .error (.refused Command.check .missingFiles)
    else .ok ⟨format?, a.has .strict, a.words⟩

/-- The request that arguments make. The help comes before all else that options say. -/
def read (files : Files) (arguments : List Text) : Except Outcome CheckRequest := do
  let a ← (Arguments.read CheckOption.switches true arguments).mapError fun e =>
    .refused Command.check (.option e)
  if a.has .help then .error (.told (Topic.help Command.check))
  else ofArguments files a

/-- The documents under their names. The standard input gives its document only once. -/
def documents (files : Files) (input : Bytes) : List Text → List (Text × Text)
  | [] => []
  | name :: rest =>
    if name = standardInput then (name, Utf8.readDocument input) :: documents files [] rest
    else
      (name, Utf8.readDocument ((files.read? name).getD [])) :: documents files input rest

end CheckRequest

/-- A report under each name, in the order in which the names are first given. -/
abbrev Reports := List (Text × Report)

namespace Reports

/-- Puts a report under a name, in place of the one that is there. -/
def insert (rs : Reports) (name : Text) (r : Report) : Reports :=
  if rs.any fun entry => entry.1 = name then
    rs.map fun entry => if entry.1 = name then (name, r) else entry
  else rs ++ [(name, r)]

/-- The reports on documents. -/
def ofDocuments (documents : List (Text × Text)) : Reports :=
  documents.foldl (fun rs d => rs.insert d.1 (Document.check d.2)) []

/-- Some report has an error, or a warning if warnings count. -/
def fails (strict : Bool) (rs : Reports) : Bool :=
  rs.any fun entry => !entry.2.isValid || (strict && !entry.2.warnings.isEmpty)

/-- The reports as JSON. -/
def json (rs : Reports) : Text :=
  Json.print (.object (rs.map fun entry => (entry.1, entry.2.toJson))) ++ "\n"

/-- A text without line feeds at its end. -/
def dropLineFeeds (t : Text) : Text :=
  (t.reverse.dropWhile (· = CodePoint.ofChar '\n')).reverse

/-- The heading of a report in plain text. -/
def heading (name : Text) : Text := Text.dropControlSequences ("==> " ++ name ++ " <==\n")

/-- A report in plain text without control sequences. -/
def body (r : Report) : Text := Text.dropControlSequences (dropLineFeeds r.render ++ "\n")

/-- The reports in plain text, each below its name if they are headed. -/
def texts (headed : Bool) (rs : Reports) : List Text :=
  rs.flatMap fun (name, r) => if headed then [heading name, body r] else [body r]

/-- The reports as tables. -/
def tables (rs : Reports) : Text := rs.flatMap fun (name, r) => r.display name

/-- What is written to the standard output, text by text. Plain text is headed if there are several
reports. -/
def output (rs : Reports) : OutputFormat → List Text
  | .json => [rs.json]
  | .text => rs.texts (1 < rs.length)
  | .table => []

/-- What is written to the standard error: tables alone. -/
def messages (rs : Reports) : OutputFormat → Text
  | .table => rs.tables
  | _ => []

end Reports

namespace CheckRequest

/-- A line of the log. -/
def logLine (clock logger message : Text) : Text :=
  clock ++ " [DEBUG] " ++ logger ++ ": " ++ message ++ "\n"

/-- What is logged about the check of a document. -/
def log (clock : Text) (name content : Text) : Text :=
  let start := logLine clock "robotslint.cli.check" <|
    "Validating " ++ name ++ " (" ++ Text.ofNat content.length ++ " chars)"
  match Document.logMessage? content (Document.check content) with
  | none => start
  | some message => start ++ logLine clock "robotslint.validator.engine" message

/-- Checks the documents. All are checked before a report is written, and the log comes first. -/
def run (r : Run) (s : Settings) (request : CheckRequest) : Outcome :=
  let documents := documents r.files r.input request.names
  let reports := Reports.ofDocuments documents
  let format := request.format?.getD s.format
  let logged : Text :=
    if s.verbose then documents.flatMap fun d => log r.clock d.1 d.2 else []
  let failed := reports.fails (request.strict || s.strict)
  .writing (reports.output format) (logged ++ reports.messages format)
    (.status (if failed then 1 else 0))

end CheckRequest

end RobotsExclusion
