import RobotsExclusion.CommandLine.Outcome
import RobotsExclusion.Console

/-!
# Serving the API

The command that starts the validation API.

## Main definitions

* `ServerRequest` — the port that is asked for
* `ServerRequest.read` — the request that arguments make
* `ServerRequest.run` — starts the service
-/

namespace RobotsExclusion

/-- What is asked of the server. -/
structure ServerRequest where
  port? : Option Int

/-- The options of the command. -/
inductive ServerOption where
  | port
  | help
deriving DecidableEq

/-- The options of the command with their names. -/
def ServerOption.switches : List (Switch ServerOption) := [
  ⟨port, "--port", none, true⟩, ⟨help, "--help", none, false⟩]

namespace ServerRequest

/-- The port that an option asks for. -/
def readPort : Option Text → Except UsageError (Option Int)
  | none => .ok none
  | some value =>
    match Integer.ofText 10 value with
    | .ok n => .ok (some n)
    | .error _ => .error (.invalidPort value)

/-- The request that options and words make. -/
def ofArguments (a : Arguments ServerOption) : Except UsageError ServerRequest := do
  let port? ← readPort (a.value? .port)
  if a.words.isEmpty then .ok ⟨port?⟩ else .error (.unexpected a.words)

/-- The request that arguments make. The help comes before all else that options say. -/
def read (arguments : List Text) : Except Outcome ServerRequest := do
  let a ← (Arguments.read ServerOption.switches true arguments).mapError fun e =>
    .refused Command.server (.option e)
  if a.has .help then .error (.told (Topic.help Command.server))
  else (ofArguments a).mapError (Outcome.refused Command.server)

/-- What is said if nothing can listen for requests. -/
def cannotServe : Text :=
  Console.paragraph "Web dependencies not installed.\nInstall with: pip install robotslint"

/-- What is said when the service starts. -/
def announcement (host port : Text) : Text :=
  Console.paragraph ("robotslint API starting on http://" ++ host ++ ":" ++ port)
    ++ Console.paragraph "  Bound to 127.0.0.1 only\n"

/-- Starts the service at the port that is asked for, or at the one in the settings. -/
def run (r : Run) (s : Settings) (request : ServerRequest) : Outcome :=
  if !r.canServe then ⟨[], cannotServe, .status 1, none⟩
  else
    let port := request.port?.getD s.port
    match Integer.decimal? port with
    | none => .broken .longPort
    | some numeral =>
      ⟨[], announcement s.host numeral, .status 0, some (.listening s.host port)⟩

end ServerRequest

end RobotsExclusion
