import RobotsExclusion.Binary64.Shortest

/-!
# JSON values

## Main definitions

* `Json` — a value
* `Json.get?` — the value of a name in an object
* `Json.print` — the text of a value, in ASCII and with two spaces of indentation for each level
-/

namespace RobotsExclusion

/-- A JSON value. An object keeps its members in order, and a name may occur more than once. -/
inductive Json where
  | null
  | bool (b : Bool)
  | int (n : Int)
  | real (x : Binary64)
  | text (t : Text)
  | array (items : List Json)
  | object (members : List (Text × Json))

namespace Json

/-- The value of a name among members; the last one counts. -/
def get? (name : Text) (members : List (Text × Json)) : Option Json :=
  (members.reverse.find? fun m => m.1 = name).map (·.2)

/-- The escape of a UTF-16 unit. -/
def escapeUnit (n : Nat) : Text := "\\u" ++ Text.hex 4 n

/-- A character as it stands between quotes. All but the visible characters of ASCII and the space
are escaped, those above `U+FFFF` as a pair of surrogates. -/
def escape (c : CodePoint) : Text :=
  if c = '"' then "\\\""
  else if c = '\\' then "\\\\"
  else if c = '\n' then "\\n"
  else if c = '\r' then "\\r"
  else if c = '\t' then "\\t"
  else if c.toNat = 0x0C then "\\f"
  else if c.toNat = 0x08 then "\\b"
  else if 0x20 ≤ c.toNat ∧ c.toNat ≤ 0x7E then [c]
  else if c.toNat < 0x10000 then escapeUnit c.toNat
  else
    escapeUnit (0xD800 + (c.toNat - 0x10000) / 0x400)
      ++ escapeUnit (0xDC00 + (c.toNat - 0x10000) % 0x400)

/-- A text between quotes. -/
def quote (t : Text) : Text := "\"" ++ t.flatMap escape ++ "\""

/-- The numeral of a number. -/
def numeral : Binary64 → Text
  | .nan => "NaN"
  | .infinite negative => if negative then "-Infinity" else "Infinity"
  | x => x.toText

/-- The start of a line at a level of indentation. -/
def newLine (level : Nat) : Text := "\n" ++ List.replicate (2 * level) (CodePoint.ofChar ' ')

/-- Items between brackets, each on a line of its own. -/
def block (level : Nat) (opening closing : Text) (items : List Text) : Text :=
  if items.isEmpty then opening ++ closing
  else
    opening ++ newLine (level + 1) ++ Text.join ("," ++ newLine (level + 1)) items
      ++ newLine level ++ closing

mutual

/-- The text of a value at a level of indentation. -/
def printAt (level : Nat) : Json → Text
  | .null => "null"
  | .bool b => if b then "true" else "false"
  | .int n => Text.ofInt n
  | .real x => numeral x
  | .text t => quote t
  | .array items => block level "[" "]" (printItems (level + 1) items)
  | .object members => block level "\x7b" "\x7d" (printMembers (level + 1) members)

/-- The texts of items at a level of indentation. -/
def printItems (level : Nat) : List Json → List Text
  | [] => []
  | j :: rest => printAt level j :: printItems level rest

/-- The texts of members at a level of indentation. -/
def printMembers (level : Nat) : List (Text × Json) → List Text
  | [] => []
  | (name, j) :: rest => (quote name ++ ": " ++ printAt level j) :: printMembers level rest

end

/-- The text of a value. -/
def print (j : Json) : Text := printAt 0 j

end Json

end RobotsExclusion
