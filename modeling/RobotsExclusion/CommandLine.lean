import RobotsExclusion.CommandLine.Check
import RobotsExclusion.CommandLine.Server

/-!
# The command line

A run reads the options of the program and the name of a command, loads the settings, and only then
looks at the arguments of the command.

## Main definitions

* `ProgramRequest.read` — the command that is asked for
* `Run.outcome` — what comes of a run
-/

namespace RobotsExclusion

/-- The options of the program. -/
inductive ProgramOption where
  | version
  | verbose
  | help
deriving DecidableEq

/-- The options of the program with their names. -/
def ProgramOption.switches : List (Switch ProgramOption) := [
  ⟨version, "--version", none, false⟩, ⟨verbose, "--verbose", some 'v', false⟩,
  ⟨help, "--help", none, false⟩]

/-- What is asked of the program. -/
structure ProgramRequest where
  verbose : Bool
  command : Command
  arguments : List Text

namespace ProgramRequest

/-- The version of the program, as it is told. -/
def versionLine : Text := "robotslint, version " ++ Api.version ++ "\n"

/-- What an option asks to be told instead of running a command. -/
def told? : ProgramOption → Option Text
  | .version => some versionLine
  | .help => some (Topic.help .program)
  | .verbose => none

/-- Reads the options before the first word. What they ask to be told comes first. -/
def readOptions (arguments : List Text) : Except Outcome (Arguments ProgramOption) := do
  let a ← (Arguments.read ProgramOption.switches false arguments).mapError fun e =>
    .refused .program (.option e)
  match a.given.findSome? fun g => told? g.1 with
  | some t => .error (.told t)
  | none => .ok a

/-- What is said of a word that names no command. One that starts with a dash is read as an option
once more. -/
def unknownCommand (word : Text) (rest : List Text) : Outcome :=
  let refused := Outcome.refused .program (.unknownCommand word)
  if word.head? = some (CodePoint.ofChar '-') then
    match readOptions (word :: rest) with
    | .error o => o
    | .ok _ => refused
  else refused

/-- The request that arguments make. -/
def read (arguments : List Text) : Except Outcome ProgramRequest := do
  if arguments.isEmpty then .error ⟨[], Topic.help .program, .status 2, none⟩
  else
    let a ← readOptions arguments
    match a.words with
    | [] => .error (.refused .program .missingCommand)
    | word :: rest =>
      match Command.ofWord? word with
      | some command => .ok ⟨a.has .verbose, command, rest⟩
      | none => .error (unknownCommand word rest)

/-- Runs the command that is asked for. -/
def run (r : Run) (s : Settings) (request : ProgramRequest) : Except Outcome Outcome := do
  match request.command with
  | .check => .ok ((← CheckRequest.read r.files request.arguments).run r s)
  | .server => .ok ((← ServerRequest.read request.arguments).run r s)

end ProgramRequest

namespace Run

/-- What comes of a run, as an error if it comes to no command. -/
def perform [Yaml.Implementation] (r : Run) : Except Outcome Outcome := do
  let request ← ProgramRequest.read r.arguments
  let s ← (Settings.load r.environment r.files).mapError Outcome.unsettled
  request.run r { s with verbose := request.verbose || s.verbose }

/-- What comes of a run. -/
def outcome [Yaml.Implementation] (r : Run) : Outcome :=
  match r.perform with
  | .ok o => o
  | .error o => o

end Run

end RobotsExclusion
