import RobotsExclusion.Files
import RobotsExclusion.Path
import RobotsExclusion.Yaml.Implementation

/-!
# Settings

The settings of the program come from a file in the configuration directory and from the
environment, which overrides the file. Every entry of the file is given its meaning before the
environment is looked at. The file is read by an implementation of YAML.

## Main definitions

* `Settings` — the settings
* `Environment` — the variables that are looked at
* `Settings.Error` — why there are no settings
* `Settings.load` — the settings that the file and the environment give
-/

namespace RobotsExclusion

/-- The forms in which reports are written. -/
inductive OutputFormat where
  | table
  | text
  | json
deriving DecidableEq

namespace OutputFormat

/-- All forms. -/
def all : List OutputFormat := [table, text, json]

/-- The name of a form. -/
def name : OutputFormat → Text
  | table => "table"
  | text => "text"
  | json => "json"

/-- The form with this name. -/
def ofName? (t : Text) : Option OutputFormat := all.find? fun f => f.name = t

end OutputFormat

/-- The variables of the environment that are looked at. -/
structure Environment where
  configHome : Option Text
  home : Option Text
  /-- The home directory of the account, which counts if the variable for it is not set. -/
  accountHome : Option Text
  outputFormat : Option Text
  strict : Option Text
  port : Option Text

/-- The settings of the program. -/
structure Settings where
  directory : Path
  format : OutputFormat
  strict : Bool
  /-- The address that the server listens on. -/
  host : Text
  port : Int
  verbose : Bool

namespace Settings

/-- The loopback address, which only programs on the same machine can reach. -/
def loopback : Text := "127.0.0.1"

/-- The port that the server listens on if nothing else is said. -/
def defaultPort : Int := 8471

/-- The settings if nothing is said. -/
def default (directory : Path) : Settings :=
  ⟨directory, .table, false, loopback, defaultPort, false⟩

/-- The name of the directory with the settings. -/
def directoryName : Text := "robotslint"

/-- The name of the file with the settings. -/
def fileName : Text := "config.yaml"

/-- The file with the settings. -/
def file (directory : Path) : Path := directory.join [fileName]

/-- Why there are no settings. -/
inductive Error where
  /-- The home directory is not known. -/
  | noHome
  /-- The file is not UTF-8. -/
  | undecodable (error : Utf8.Error)
  /-- The text of the file has no value. -/
  | yaml (error : Yaml.Error)
  /-- The value of the file is no mapping. -/
  | notMapping (file : Path)
  /-- There is no such output format. -/
  | unknownFormat (name : Text)
  /-- The output format is an integer with too many digits to be written. -/
  | longFormat
  /-- The output format is nested too deeply to be written. -/
  | deepFormat
  /-- The port is a text that denotes no integer. -/
  | port (error : Integer.Error)
  /-- The port is infinite. -/
  | infinitePort
  /-- The port is not a number. -/
  | undefinedPort
  /-- The port is a value of a kind that has no integers. -/
  | portKind (kind : Text)
deriving DecidableEq

/-- The error in words, where more is said than that the file is malformed. -/
def Error.message? : Error → Option Text
  | .noHome => some "Could not determine home directory."
  | .undecodable e => some e.message
  | .yaml e => e.message?
  | .notMapping file => some ("Config file " ++ file.toText ++ " must be a YAML mapping")
  | .unknownFormat name =>
    some ("Unknown output format " ++ name.quoted ++ " (expected one of "
      ++ Text.join ", " (OutputFormat.all.map OutputFormat.name) ++ ")")
  | .longFormat => some Integer.tooLongToWrite
  | .deepFormat => some "maximum recursion depth exceeded while getting the repr of an object"
  | .port e => some e.message
  | .infinitePort => some "cannot convert float infinity to integer"
  | .undefinedPort => some "cannot convert float NaN to integer"
  | .portKind kind =>
    some ("int() argument must be a string, a bytes-like object or a real number, not '"
      ++ kind ++ "'")

/-- The error is about a value, so that it is reported to the user. Others end the program. -/
def Error.isAboutValue : Error → Bool
  | .noHome => false
  | .yaml e =>
    match e with
    | .escapeOutOfRange | .integer _ | .number _ | .date _ => true
    | .other aboutValue _ => aboutValue
    | _ => false
  | .deepFormat => false
  | .infinitePort => false
  | .portKind _ => false
  | _ => true

end Settings

namespace Environment

/-- A variable that is set and not empty. -/
def given (setting : Option Text) : Option Text := setting.filter fun t => !t.isEmpty

/-- The home directory. A name that starts with a tilde would mean itself. -/
def homeDirectory (env : Environment) : Except Settings.Error Path :=
  match env.home.or env.accountHome with
  | none => .error .noHome
  | some home =>
    let home := home.reverse.dropWhile (· = CodePoint.ofChar '/')
    let home : Text := if home.isEmpty then "/" else home.reverse
    if home.head? = some (CodePoint.ofChar '~') then .error .noHome else .ok (Path.ofText home)

/-- The directory with the settings. -/
def directory (env : Environment) : Except Settings.Error Path :=
  match given env.configHome with
  | some t => .ok ((Path.ofText t).join [Settings.directoryName])
  | none => do
    let home ← env.homeDirectory
    .ok (home.join [".config", Settings.directoryName])

end Environment

namespace Settings

/-- Turns carriage returns into line feeds, one with a line feed behind it into a single one. -/
def normalizeLineEnds (t : Text) : Text :=
  (t.foldl (fun (done, afterReturn) c =>
    if c = CodePoint.ofChar '\n' ∧ afterReturn then (done, false)
    else if c = CodePoint.ofChar '\r' then (CodePoint.ofChar '\n' :: done, true)
    else (c :: done, false)) (([] : Text), false)).1.reverse

/-- The format with this name in any letter case. -/
def formatOfName (t : Text) : Except Error OutputFormat :=
  match OutputFormat.ofName? t.lower with
  | some f => .ok f
  | none => .error (.unknownFormat t.lower)

/-- The integer that a text denotes. -/
def portOfText (t : Text) : Except Error Int := (Integer.ofText 10 t).mapError .port

/-- The integer that a number is cut down to. -/
def portOfNumber : Binary64 → Except Error Int
  | .nan => .error .undefinedPort
  | .infinite _ => .error .infinitePort
  | x => x.truncate?.elim (.error .undefinedPort) .ok

/-- Bytes as the characters that they stand for in a numeral. -/
def numeralOfBytes (bs : Bytes) : Text :=
  bs.map fun b => if b < 0x80 then ⟨b.toNat, by have := b.toNat_lt; omega⟩ else .replacement

/-- The integer that a value denotes. -/
def portOfValue : Yaml.Value → Except Error Int
  | .scalar (.text t) => portOfText t
  | .scalar (.bytes bs) =>
    (Integer.read 10 (numeralOfBytes bs) (Yaml.quotedBytes bs)).mapError .port
  | .scalar (.bool b) => .ok b.toInt
  | .scalar (.int n) => .ok n
  | .scalar (.float x) => portOfNumber x
  | v => .error (.portKind v.kind)

/-- The text of a value that should name a format. -/
def formatText [Yaml.Implementation] (v : Yaml.Value) : Except Error Text :=
  if Yaml.Implementation.canWrite v then v.toText?.elim (.error .longFormat) .ok
  else .error .deepFormat

/-- The entries of a file: those of a mapping, and none of a value that counts as false. -/
def entries (file : Path) (v : Yaml.Value) : Except Error Yaml.Entries :=
  if !v.isTrue then .ok []
  else
    match v with
    | .mapping entries => .ok entries
    | _ => .error (.notMapping file)

/-- The settings that the entries of a file give. The name of the format is looked up last. -/
def ofEntries [Yaml.Implementation] (directory : Path) (es : Yaml.Entries) :
    Except Error Settings := do
  let base := default directory
  let name ← ((es.get? "output_format").map formatText).getD (.ok base.format.name)
  let strict := ((es.get? "strict").map Yaml.Value.isTrue).getD base.strict
  let port ← ((es.get? "web_port").map portOfValue).getD (.ok base.port)
  let verbose := ((es.get? "verbose").map Yaml.Value.isTrue).getD base.verbose
  let format ← formatOfName name
  .ok { base with format, strict, port, verbose }

/-- The settings that the bytes of a file give. -/
def ofBytes [Yaml.Implementation] (directory : Path) (contents : Bytes) :
    Except Error Settings := do
  let text ← (Utf8.decode contents).mapError .undecodable
  let value ← (Yaml.Implementation.read (normalizeLineEnds text)).mapError .yaml
  let es ← entries (file directory) value
  ofEntries directory es

/-- The words that switch strictness on. -/
def trueWords : List Text := ["1", "true", "yes", "on"]

/-- What the environment makes of settings. The name of the format is looked up last. -/
def override (env : Environment) (s : Settings) : Except Error Settings := do
  let strict := ((Environment.given env.strict).map fun t => trueWords.contains t.lower).getD s.strict
  let port ← ((Environment.given env.port).map portOfText).getD (.ok s.port)
  let format ← ((Environment.given env.outputFormat).map formatOfName).getD (.ok s.format)
  .ok { s with format, strict, port }

/-- The settings that the file and the environment give. -/
def load [Yaml.Implementation] (env : Environment) (files : Files) : Except Error Settings := do
  let directory ← env.directory
  let s ← ((files.read? (file directory).toText).map (ofBytes directory)).getD
    (.ok (default directory))
  override env s

end Settings

end RobotsExclusion
