import RobotsExclusion.Integer
import RobotsExclusion.Json

/-!
# Reading JSON

## Main definitions

* `Json.Error` — why a text is not read
* `Json.ofText` — the value of a text
-/

namespace RobotsExclusion.Json

/-- Why a text is not read. -/
inductive Error where
  /-- The text is no JSON. -/
  | malformed
  /-- A numeral has too many digits. -/
  | longNumeral
  /-- Arrays and objects are nested too deeply. -/
  | tooDeep
deriving DecidableEq

/-- How deeply arrays and objects may be nested. -/
def maxDepth : Nat := 950

/-- White space between tokens. -/
def isSpace (c : CodePoint) : Bool := c = ' ' || c = '\t' || c = '\n' || c = '\r'

/-- Passes over white space. -/
def skipSpace (t : Text) : Text := t.dropWhile isSpace

/-- The number of four hexadecimal digits behind a `u`, and what follows them. -/
def hexUnit? : Text → Option (Nat × Text)
  | u :: a :: b :: c :: d :: rest =>
    if u = 'u' ∧ [a, b, c, d].all CodePoint.isHexDigit then
      some ([a, b, c, d].foldl (fun n x => 16 * n + x.hexValue) 0, rest)
    else none
  | _ => none

/-- The number of an escaped unit, and what follows it. -/
def escapedUnit? : Text → Option (Nat × Text)
  | [] => none
  | c :: rest => if c = '\\' then hexUnit? rest else none

/-- What the letters behind a backslash stand for. -/
def escapes : List (Char × Nat) := [
  ('"', 0x22), ('\\', 0x5C), ('/', 0x2F), ('b', 0x08), ('f', 0x0C), ('n', 0x0A), ('r', 0x0D),
  ('t', 0x09)]

/-- Reads what follows a backslash. Two escaped surrogates that belong together are one
character. -/
def escaped? (t : Text) : Option (CodePoint × Text) :=
  match hexUnit? t with
  | some (high, rest) =>
    match escapedUnit? rest with
    | some (low, after) =>
      if 0xD800 ≤ high ∧ high < 0xDC00 ∧ 0xDC00 ≤ low ∧ low < 0xE000 then
        (CodePoint.ofNat? (0x10000 + (high - 0xD800) * 0x400 + (low - 0xDC00))).map (·, after)
      else (CodePoint.ofNat? high).map (·, rest)
    | none => (CodePoint.ofNat? high).map (·, rest)
  | none =>
    match t with
    | [] => none
    | c :: rest =>
      match escapes.find? fun e => c = CodePoint.ofChar e.1 with
      | some e => (CodePoint.ofNat? e.2).map (·, rest)
      | none => none

/-- Reads one character of a string. -/
def character? : Text → Option (CodePoint × Text)
  | [] => none
  | c :: rest =>
    if c = '\\' then escaped? rest
    else if c = '"' ∨ c.toNat < 0x20 then none
    else some (c, rest)

theorem length_lt_of_hexUnit? {t rest : Text} {n : Nat} (h : hexUnit? t = some (n, rest)) :
    rest.length < t.length := by
  unfold hexUnit? at h
  split at h
  · split at h
    · simp only [Option.some.injEq, Prod.mk.injEq] at h
      simp only [← h.2, List.length_cons]
      omega
    · cases h
  · cases h

theorem length_lt_of_escapedUnit? {t rest : Text} {n : Nat} (h : escapedUnit? t = some (n, rest)) :
    rest.length < t.length := by
  unfold escapedUnit? at h
  split at h
  · cases h
  · split at h
    · exact Nat.lt_succ_of_lt (length_lt_of_hexUnit? h)
    · cases h

theorem snd_eq_of_map_pair {o : Option CodePoint} {r rest : Text} {c : CodePoint}
    (h : o.map (·, r) = some (c, rest)) : rest = r := by
  obtain ⟨_, _, h⟩ := Option.map_eq_some_iff.1 h
  exact (Prod.mk.inj h).2.symm

theorem length_lt_of_escaped? {t rest : Text} {c : CodePoint} (h : escaped? t = some (c, rest)) :
    rest.length < t.length := by
  unfold escaped? at h
  split at h
  next hu =>
    have hu := length_lt_of_hexUnit? hu
    split at h
    next hl =>
      have hl := length_lt_of_escapedUnit? hl
      split at h <;> rw [snd_eq_of_map_pair h] <;> omega
    next => rw [snd_eq_of_map_pair h]; exact hu
  next =>
    split at h
    · cases h
    · split at h
      · rw [snd_eq_of_map_pair h]; exact Nat.lt_succ_self _
      · cases h

/-- A character of a string takes a character at least. -/
theorem length_lt_of_character? {t rest : Text} {c : CodePoint}
    (h : character? t = some (c, rest)) : rest.length < t.length := by
  unfold character? at h
  split at h
  · cases h
  · split at h
    · exact Nat.lt_succ_of_lt (length_lt_of_escaped? h)
    · split at h
      · cases h
      · simp only [Option.some.injEq, Prod.mk.injEq] at h
        simp [h.2]

/-- Reads the rest of a string behind `done`, which holds the characters before it, the last one
first. -/
def stringOnto? (done t : Text) : Option (Text × Text) :=
  match h : character? t with
  | some (c, rest) =>
    have : rest.length < t.length := length_lt_of_character? h
    stringOnto? (c :: done) rest
  | none =>
    match t with
    | [] => none
    | c :: rest => if c = '"' then some (done.reverse, rest) else none
termination_by t.length

/-- Reads a string from behind its opening quote on. -/
def string? (t : Text) : Option (Text × Text) := stringOnto? [] t

/-- The digits at the start. -/
def digits (t : Text) : Text := t.takeWhile CodePoint.isAsciiDigit

/-- The digits before the point of a numeral: a zero, or digits that do not start with one. -/
def wholeDigits (t : Text) : Text :=
  if t.head? = some (CodePoint.ofChar '0') then t.take 1 else digits t

/-- The point of a numeral and the digits behind it, if there are any. -/
def fraction (t : Text) : Text :=
  match t with
  | [] => []
  | c :: rest => if c = '.' ∧ ¬ (digits rest).isEmpty then c :: digits rest else []

/-- The exponent of a numeral, if there is one. -/
def exponent (t : Text) : Text :=
  match t with
  | [] => []
  | c :: rest =>
    if c = 'e' ∨ c = 'E' then
      let sign := Numeral.sign rest
      let ds := digits (rest.drop sign.length)
      if ds.isEmpty then [] else c :: sign ++ ds
    else []

/-- Reads a number. One without a point and an exponent is an integer. -/
def number (t : Text) : Except Error (Json × Text) :=
  let sign : Text := if t.head? = some (CodePoint.ofChar '-') then "-" else []
  let body := t.drop sign.length
  let whole := wholeDigits body
  if whole.isEmpty then .error .malformed
  else
    let rest := body.drop whole.length
    let f := fraction rest
    let e := exponent (rest.drop f.length)
    let rest := rest.drop (f.length + e.length)
    if f.isEmpty && e.isEmpty then
      match Integer.ofText 10 (sign ++ whole) with
      | .ok n => .ok (.int n, rest)
      | .error _ => .error .longNumeral
    else
      match Numeral.ofText? (sign ++ whole ++ f ++ e) with
      | some n => .ok (.real n.toBinary64, rest)
      | none => .error .malformed

/-- The words that are values. -/
def words : List (Text × Json) := [
  ("null", .null), ("true", .bool true), ("false", .bool false), ("NaN", .real .nan),
  ("Infinity", .real (.infinite false)), ("-Infinity", .real (.infinite true))]

/-- Reads a word that is a value. -/
def word? (t : Text) : Option (Json × Text) :=
  (words.find? fun w => w.1.isPrefixOf t).map fun w => (w.2, t.drop w.1.length)

/-- Reads a member's name and the colon behind it. -/
def name? (t : Text) : Option (Text × Text) :=
  match t with
  | [] => none
  | c :: rest =>
    if c = '"' then do
      let (name, rest) ← string? rest
      match skipSpace rest with
      | [] => none
      | c :: rest => if c = ':' then some (name, skipSpace rest) else none
    else none

mutual

/-- Reads a value with so many levels of nesting left. -/
def value (depth : Nat) : Nat → Text → Except Error (Json × Text)
  | 0, _ => .error .malformed
  | fuel + 1, t =>
    match t with
    | [] => .error .malformed
    | c :: rest =>
      if c = '"' then
        match string? rest with
        | some (s, rest) => .ok (.text s, rest)
        | none => .error .malformed
      else if c = '[' then
        match depth with
        | 0 => .error .tooDeep
        | depth + 1 =>
          let rest := skipSpace rest
          if rest.head? = some (CodePoint.ofChar ']') then .ok (.array [], rest.drop 1)
          else items depth [] fuel rest
      else if c = '\x7b' then
        match depth with
        | 0 => .error .tooDeep
        | depth + 1 =>
          let rest := skipSpace rest
          if rest.head? = some (CodePoint.ofChar '\x7d') then .ok (.object [], rest.drop 1)
          else members depth [] fuel rest
      else
        match word? t with
        | some result => .ok result
        | none => number t

/-- Reads the items of an array behind `done`, which holds the items before them, the last one
first. -/
def items (depth : Nat) (done : List Json) : Nat → Text → Except Error (Json × Text)
  | 0, _ => .error .malformed
  | fuel + 1, t =>
    match value depth fuel t with
    | .error e => .error e
    | .ok (j, rest) =>
      match skipSpace rest with
      | [] => .error .malformed
      | c :: rest =>
        if c = ',' then items depth (j :: done) fuel (skipSpace rest)
        else if c = ']' then .ok (.array (j :: done).reverse, rest)
        else .error .malformed

/-- Reads the members of an object behind `done`, which holds the members before them, the last
one first. -/
def members (depth : Nat) (done : List (Text × Json)) : Nat → Text → Except Error (Json × Text)
  | 0, _ => .error .malformed
  | fuel + 1, t =>
    match name? t with
    | none => .error .malformed
    | some (name, rest) =>
      match value depth fuel rest with
      | .error e => .error e
      | .ok (j, rest) =>
        match skipSpace rest with
        | [] => .error .malformed
        | c :: rest =>
          if c = ',' then members depth ((name, j) :: done) fuel (skipSpace rest)
          else if c = '\x7d' then .ok (.object ((name, j) :: done).reverse, rest)
          else .error .malformed

end

/-- The value of a text. Every value takes a character at least, which bounds the steps. -/
def ofText (t : Text) : Except Error Json :=
  match value maxDepth (2 * t.length + 2) (skipSpace t) with
  | .error e => .error e
  | .ok (j, rest) => if (skipSpace rest).isEmpty then .ok j else .error .malformed

end RobotsExclusion.Json
