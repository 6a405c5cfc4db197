import RobotsExclusion.Text.Similarity

/-!
# Arguments

Telling the options among the arguments of a command from its words.

## Main definitions

* `Switch` — an option that a command knows
* `Arguments` — the options that are given, and the words
* `Arguments.Error` — why arguments are not understood
* `Arguments.read` — reads the arguments of a command
-/

namespace RobotsExclusion

variable {α : Type}

/-- An option that a command knows, with its names. -/
structure Switch (α : Type) where
  key : α
  /-- The long name, with two dashes. -/
  long : Text
  /-- The letter behind a single dash. -/
  letter? : Option CodePoint
  takesValue : Bool

/-- What the arguments of a command say. -/
structure Arguments (α : Type) where
  /-- The options in the order in which they are given, each with its value. -/
  given : List (α × Text)
  words : List Text

namespace Arguments

/-- Why arguments are not understood. -/
inductive Error where
  /-- The command knows no such option, but perhaps some with similar names. -/
  | unknown (name : Text) (similar : List Text)
  /-- An option stands without its value. -/
  | needsValue (name : Text)
  /-- An option stands with a value that it does not take. -/
  | takesNoValue (name : Text)
deriving DecidableEq

/-- What one argument says: options with their values, and perhaps, as the last one, an option
whose value is the next argument. -/
structure Reading (α : Type) where
  given : List (α × Text)
  pending? : Option (α × Text)

/-- Reads an option by its long name, with a value behind an equals sign or without one. -/
def readLong (switches : List (Switch α)) (argument : Text) : Except Error (Reading α) :=
  let name := Text.before '=' argument
  let value? := (Text.cut? '=' argument).map (·.2)
  match switches.find? fun s => s.long = name with
  | none => .error (.unknown name (Text.similar (switches.map (·.long)) name))
  | some s =>
    match s.takesValue, value? with
    | true, some value => .ok ⟨[(s.key, value)], none⟩
    | true, none => .ok ⟨[], some (s.key, name)⟩
    | false, some _ => .error (.takesNoValue name)
    | false, none => .ok ⟨[(s.key, [])], none⟩

/-- Reads the letters behind a single dash. One that takes a value takes all that follows it. -/
def readLetters (switches : List (Switch α)) : Text → Except Error (Reading α)
  | [] => .ok ⟨[], none⟩
  | c :: rest =>
    match switches.find? fun s => s.letter? = some c with
    | none => .error (.unknown ['-', c] [])
    | some s =>
      if s.takesValue then
        if rest.isEmpty then .ok ⟨[], some (s.key, ['-', c])⟩ else .ok ⟨[(s.key, rest)], none⟩
      else do
        let later ← readLetters switches rest
        .ok ⟨(s.key, []) :: later.given, later.pending?⟩

/-- An argument is an option if it starts with a dash and does not consist of it. -/
def isOption (argument : Text) : Bool :=
  argument.head? = some (CodePoint.ofChar '-') && 1 < argument.length

/-- Reads an option. -/
def readOption (switches : List (Switch α)) (argument : Text) : Except Error (Reading α) :=
  if argument.take 2 = "--" then readLong switches argument
  else readLetters switches (argument.drop 1)

/-- Reads the arguments of a command. Behind two dashes all are words, and so are they behind the
first word unless options and words may be `mixed`. -/
def read (switches : List (Switch α)) (mixed : Bool) : List Text → Except Error (Arguments α)
  | [] => .ok ⟨[], []⟩
  | argument :: rest =>
    if argument = "--" then .ok ⟨[], rest⟩
    else if isOption argument then do
      let reading ← readOption switches argument
      match reading.pending? with
      | none =>
        let later ← read switches mixed rest
        .ok ⟨reading.given ++ later.given, later.words⟩
      | some (key, name) =>
        match rest with
        | [] => .error (.needsValue name)
        | value :: rest =>
          let later ← read switches mixed rest
          .ok ⟨reading.given ++ (key, value) :: later.given, later.words⟩
    else if mixed then do
      let later ← read switches mixed rest
      .ok ⟨later.given, argument :: later.words⟩
    else .ok ⟨[], argument :: rest⟩

variable [DecidableEq α]

/-- An option is given. -/
def has (a : Arguments α) (key : α) : Bool := a.given.any fun g => g.1 = key

/-- The value of an option; the last one counts. -/
def value? (a : Arguments α) (key : α) : Option Text :=
  (a.given.reverse.find? fun g => g.1 = key).map (·.2)

end Arguments

end RobotsExclusion
