import RobotsExclusion.CommandLine.Arguments
import RobotsExclusion.Settings

/-!
# Usage

The commands of the program, their help, and what is said when they are used wrongly.

## Main definitions

* `Command` — the commands of the program
* `Topic` — the program as a whole, or a command
* `Topic.help` — the help on a topic
* `UsageError` — how the program can be used wrongly
* `UsageError.report` — what is said about it
-/

namespace RobotsExclusion

/-- The commands of the program. -/
inductive Command where
  | check
  | server
deriving DecidableEq

namespace Command

/-- All commands. -/
def all : List Command := [check, server]

/-- The word for a command. -/
def word : Command → Text
  | check => "check"
  | server => "server"

/-- The command that a word names. -/
def ofWord? (t : Text) : Option Command := all.find? fun c => c.word = t

end Command

/-- What help can be had on. -/
inductive Topic where
  /-- The program as a whole. -/
  | program
  | command (c : Command)
deriving DecidableEq

instance : Coe Command Topic := ⟨Topic.command⟩

namespace Topic

/-- What to type for a topic. -/
def name : Topic → Text
  | program => "robotslint"
  | command c => "robotslint " ++ c.word

/-- The form of the arguments. -/
def arguments : Topic → Text
  | program => "[OPTIONS] COMMAND [ARGS]..."
  | command .check => "[OPTIONS] FILES..."
  | command .server => "[OPTIONS]"

/-- How to call the program. -/
def usage (topic : Topic) : Text := "Usage: " ++ topic.name ++ " " ++ topic.arguments ++ "\n"

/-- What a topic is about, and its options. -/
def description : Topic → List String
  | program => [
    "  robotslint — check robots.txt files against RFC 9309.",
    "",
    "  Settings are read from $XDG_CONFIG_HOME/robotslint/config.yaml and",
    "  ROBOTSLINT_* environment variables; command options override both.",
    "",
    "Options:",
    "  --version      Show the version and exit.",
    "  -v, --verbose  Log each file as it is validated.",
    "  --help         Show this message and exit.",
    "",
    "Commands:",
    "  check   Validate one or more robots.txt files ('-' reads stdin).",
    "  server  Start the validation API for editor integrations."]
  | command .check => [
    "  Validate one or more robots.txt files ('-' reads stdin).",
    "",
    "Options:",
    "  -f, --format [table|text|json]  Output format (default: table, or the",
    "                                  configured format).",
    "  --strict                        Exit non-zero on warnings as well as errors.",
    "  --help                          Show this message and exit."]
  | command .server => [
    "  Start the validation API for editor integrations.",
    "",
    "Options:",
    "  --port INTEGER  Port to listen on (default: 8471).",
    "  --help          Show this message and exit."]

/-- The help on a topic. -/
def help (topic : Topic) : Text :=
  topic.usage ++ "\n" ++ (topic.description.map fun line => Text.ofString line ++ "\n").flatten

/-- The hint at the help on a topic. -/
def hint (topic : Topic) : Text := "Try '" ++ topic.name ++ " --help' for help.\n"

end Topic

/-- How the program can be used wrongly. -/
inductive UsageError where
  | option (error : Arguments.Error)
  | missingCommand
  | unknownCommand (word : Text)
  | unknownFormat (value : Text)
  | invalidPort (value : Text)
  | missingFiles
  | noFile (name : Text)
  | isDirectory (name : Text)
  /-- Words that the command does not take. -/
  | unexpected (words : List Text)
deriving DecidableEq

namespace UsageError

/-- The question whether one of some names was meant. -/
def suggestion (names : List Text) : Text :=
  match names.map Text.quoted with
  | [] => []
  | [name] => " Did you mean " ++ name ++ "?"
  | names => " (Did you mean one of: " ++ Text.join ", " names ++ "?)"

/-- The name of a file as it is shown, with a mark for bytes that cannot be read. -/
def fileName (name : Text) : Text :=
  "File " ++ (Utf8.decodeReplacing (Utf8.encodeLossy name)).quoted

/-- The error in words. -/
def message : UsageError → Text
  | option (.unknown name similar) =>
    "No such option " ++ name.quoted ++ "." ++ suggestion similar
  | option (.needsValue name) => "Option " ++ name.quoted ++ " requires an argument."
  | option (.takesNoValue name) => "Option " ++ name.quoted ++ " does not take a value."
  | missingCommand => "Missing command."
  | unknownCommand word =>
    "No such command " ++ word.quoted ++ "."
      ++ suggestion (Text.similar (Command.all.map Command.word) word)
  | unknownFormat value =>
    "Invalid value for '--format' / '-f': " ++ value.quoted ++ " is not one of "
      ++ Text.join ", " (OutputFormat.all.map fun f => f.name.quoted) ++ "."
  | invalidPort value =>
    "Invalid value for '--port': " ++ value.quoted ++ " is not a valid integer."
  | missingFiles => "Missing argument 'FILES...'."
  | noFile name => "Invalid value for 'FILES...': " ++ fileName name ++ " does not exist."
  | isDirectory name => "Invalid value for 'FILES...': " ++ fileName name ++ " is a directory."
  | unexpected words =>
    let noun : Text := if words.length = 1 then "argument" else "arguments"
    "Got unexpected extra " ++ noun ++ " (" ++ Text.join " " words ++ ")"

/-- The error is shown together with the usage. An option without its value, or with
one too many, is not. -/
def showsUsage : UsageError → Bool
  | option (.needsValue _) => false
  | option (.takesNoValue _) => false
  | _ => true

/-- What is said about an error, with a hint at the help on a topic. -/
def report (e : UsageError) (topic : Topic) : Text :=
  let usage : Text := if e.showsUsage then topic.usage ++ topic.hint ++ "\n" else []
  usage ++ "Error: " ++ e.message ++ "\n"

end UsageError

end RobotsExclusion
