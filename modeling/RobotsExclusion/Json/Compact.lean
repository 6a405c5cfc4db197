import RobotsExclusion.Json

/-!
# Compact JSON

Values written on a single line with all characters as they are. A number that is not finite
cannot be written.

## Main definitions

* `Json.compact?` — the text of a value
-/

namespace RobotsExclusion.Json

/-- A character as it stands between quotes. Only controls, quotes and backslashes are escaped. -/
def escapeLittle (c : CodePoint) : Text :=
  if c.toNat < 0x20 ∨ c = '"' ∨ c = '\\' then escape c else [c]

/-- A text between quotes. -/
def quoteLittle (t : Text) : Text := "\"" ++ t.flatMap escapeLittle ++ "\""

/-- The numeral of a finite number. -/
def finite? : Binary64 → Option Text
  | .nan => none
  | .infinite _ => none
  | x => some x.toText

/-- What the name of a member starts with that is not written. -/
def privateStart : Text := "_sa"

/-- Puts a member behind others, or in the place of the one with its name. -/
def putMember {α : Type} (done : List (Text × α)) (m : Text × α) : List (Text × α) :=
  if done.any fun d => d.1 = m.1 then done.map fun d => if d.1 = m.1 then m else d
  else done ++ [m]

/-- The members that are written: each name once, at its first place and with its last value. -/
def writtenMembers {α : Type} (members : List (Text × α)) : List (Text × α) :=
  (members.foldl putMember []).filter fun m => !privateStart.isPrefixOf m.1

/-- Members of which each has been written, between braces. -/
def braces? (members : List (Text × Option Text)) : Option Text := do
  let written ← (writtenMembers members).mapM fun m => m.2.map fun t => quoteLittle m.1 ++ ":" ++ t
  return "\x7b" ++ Text.join "," written ++ "\x7d"

mutual

/-- The text of a value, if all its numbers are finite. -/
def compact? : Json → Option Text
  | .null => some "null"
  | .bool b => some (if b then "true" else "false")
  | .int n => some (Text.ofInt n)
  | .real x => finite? x
  | .text t => some (quoteLittle t)
  | .array items => (compactItems? items).map fun ts => "[" ++ Text.join "," ts ++ "]"
  | .object members => braces? (compactMembers members)

/-- The texts of items. -/
def compactItems? : List Json → Option (List Text)
  | [] => some []
  | j :: rest => do return (← compact? j) :: (← compactItems? rest)

/-- The names of members with the texts of their values. -/
def compactMembers : List (Text × Json) → List (Text × Option Text)
  | [] => []
  | (name, j) :: rest => (name, compact? j) :: compactMembers rest

end

end RobotsExclusion.Json
