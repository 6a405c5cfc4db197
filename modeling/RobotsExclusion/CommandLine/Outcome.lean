import RobotsExclusion.Api
import RobotsExclusion.CommandLine.Usage
import RobotsExclusion.Text.ControlSequence

/-!
# Runs and their outcomes

## Main definitions

* `Run` — what a run of the program is given
* `Run.timeOfDay` — the time of day as it stands in the log
* `Outcome` — what it writes, how it ends, and the service that it starts
* `Outcome.writing` — a run that writes texts, unless one of them cannot be encoded
-/

namespace RobotsExclusion

/-- What a run of the program is given. -/
structure Run where
  arguments : List Text
  environment : Environment
  files : Files
  /-- The standard input. -/
  input : Bytes
  /-- The time of day as it stands in the log. -/
  clock : Text
  /-- There is something that can listen for requests. -/
  canServe : Bool

/-- A number below a hundred with two digits. -/
def Run.twoDigits (n : Nat) : Text := (if n < 10 then "0" else "") ++ Text.ofNat n

/-- The time of day so many seconds after midnight: hours, minutes and seconds. -/
def Run.timeOfDay (seconds : Nat) : Text :=
  Text.join ":"
    [Run.twoDigits (seconds / 3600 % 24), Run.twoDigits (seconds / 60 % 60),
      Run.twoDigits (seconds % 60)]

/-- A service that listens for requests. -/
structure Service where
  title : Text
  version : Text
  host : Text
  port : Int
  logLevel : Text
deriving DecidableEq

/-- The service that listens on an address at a port. -/
def Service.listening (host : Text) (port : Int) : Service :=
  ⟨"robotslint", Api.version, host, port, "info"⟩

/-- Why a run breaks off without a message to the user. -/
inductive Failure where
  | settings (error : Settings.Error)
  /-- The port has too many digits to be written. -/
  | longPort
  /-- The name of a file holds a null character. -/
  | nullCharacter
  /-- What is to be written holds surrogates. -/
  | unencodable (u : Utf8.Unencodable)
deriving DecidableEq

/-- What is said of a name with a null character. -/
def Failure.nullInName : Text := "embedded null byte"

/-- How a run ends. -/
inductive Ending where
  | status (code : Nat)
  | failure (f : Failure)
deriving DecidableEq

/-- What comes of a run. -/
structure Outcome where
  /-- What is written to the standard output. -/
  output : Text
  /-- What is written to the standard error. -/
  messages : Text
  ending : Ending
  service? : Option Service
deriving DecidableEq

namespace Outcome

/-- A run that writes texts to the standard output, one after another, and messages before them. The
standard output is encoded as UTF-8. A text with surrogates is refused as a whole, and the run breaks
off; in messages surrogates are spelled out. -/
def writing (texts : List Text) (messages : Text) (ending : Ending) : Outcome where
  output := (texts.takeWhile fun t => (Utf8.unencodable? t).isNone).flatten
  messages := messages.escapeSurrogates
  ending := (texts.findSome? Utf8.unencodable?).elim ending fun u => .failure (.unencodable u)
  service? := none

/-- A run that writes something to the standard output and succeeds. -/
def told (t : Text) : Outcome := writing [t] [] (.status 0)

/-- A run that breaks off. -/
def broken (f : Failure) : Outcome := ⟨[], [], .failure f, none⟩

/-- A run that ends with a message and a status. Messages hold no control sequences. -/
def stopped (message : Text) (status : Nat) : Outcome :=
  writing [] message.dropControlSequences (.status status)

/-- A run that is refused because the program is used wrongly. -/
def refused (topic : Topic) (e : UsageError) : Outcome := stopped (e.report topic) 2

/-- A run that ends without settings. An error about a value is told. -/
def unsettled (e : Settings.Error) : Outcome :=
  if e.isAboutValue then
    stopped ("Error: Invalid configuration: " ++ e.message?.getD [] ++ "\n") 1
  else broken (.settings e)

end Outcome

end RobotsExclusion
