import RobotsExclusion.CommandLine
import Std.Time.DateTime

/-!
# The program

Looks at the environment and at the files that the arguments name, and writes what comes of the
run. There is nothing here that could listen for requests, and times are universal time.
-/

namespace RobotsExclusion.Main

/-- The value of a variable of the environment, if it is set. -/
def lookUp (name : String) : IO (Option Text) := return (← IO.getEnv name).map Text.ofString

/-- What stands at a path. Whatever can neither be read nor is a directory counts as missing. -/
def entry? (path : String) : IO (Option Entry) := do
  try
    return some (.file (← IO.FS.readBinFile path).toList)
  catch
    | .inappropriateType none _ _ => return some .directory
    | _ => return none

/-- The variables that are looked at. -/
def environment : IO Environment := do
  return {
    configHome := ← lookUp "XDG_CONFIG_HOME"
    home := ← lookUp "HOME"
    accountHome := none
    outputFormat := ← lookUp "ROBOTSLINT_OUTPUT_FORMAT"
    strict := ← lookUp "ROBOTSLINT_STRICT"
    port := ← lookUp "ROBOTSLINT_WEB_PORT" }

/-- What stands at each of some paths. -/
def files (paths : List Text) : IO Files := do
  let entries ← paths.mapM fun path => do
    return (path, ← (path.toString?.elim (return none) entry? : IO (Option Entry)))
  return ⟨fun path => (entries.find? fun e => e.1 = path).bind (·.2)⟩

/-- The path of the file with the settings. -/
def settingsPath (env : Environment) : List Text :=
  match env.directory with
  | .ok directory => [(Settings.file directory).toText]
  | .error _ => []

/-- All that a stream still gives, behind `done`. -/
partial def readAll (stream : IO.FS.Stream) (done : ByteArray) : IO ByteArray := do
  let part ← stream.read 65536
  if part.isEmpty then return done else readAll stream (done ++ part)

/-- The standard input, which is read only if it is named. -/
def input (arguments : List Text) : IO Bytes := do
  if arguments.contains standardInput then
    return (← readAll (← IO.getStdin) .empty).toList
  else return []

/-- The bytes of a text. -/
def bytes (t : Text) : ByteArray := ⟨t.utf8.toArray⟩

/-- The status that tells how a run ended. -/
def status : Ending → UInt32
  | .status code => code.toUInt32
  | .failure _ => 1

/-- The message of a run that broke off. -/
def message : Ending → Text
  | .status _ => []
  | .failure (.settings e) => e.message?.getD "The settings are malformed." ++ "\n"
  | .failure .longPort => Integer.tooLongToWrite ++ "\n"
  | .failure .nullCharacter => Failure.nullInName ++ "\n"
  | .failure (.unencodable u) => u.message ++ "\n"

end RobotsExclusion.Main

open RobotsExclusion Main in
/-- Runs the program. -/
def main (arguments : List String) : IO UInt32 := do
  let arguments := arguments.map Text.ofString
  let env ← environment
  let seconds := (← Std.Time.Timestamp.now).toSecondsSinceUnixEpoch.val
  let outcome := Run.outcome {
    arguments
    environment := env
    files := ← files (settingsPath env ++ arguments)
    input := ← input arguments
    clock := Run.timeOfDay (seconds % 86400).toNat
    canServe := false }
  (← IO.getStdout).write (bytes outcome.output)
  (← IO.getStderr).write (bytes (outcome.messages ++ message outcome.ending))
  return status outcome.ending
