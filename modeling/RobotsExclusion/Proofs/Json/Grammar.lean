import RobotsExclusion.Json.Parser
import RobotsExclusion.Proofs.Text.Numeral

/-!
# The grammar of JSON

Which texts stand for a value, told without a reader. A string gives the characters that are written
between its quotes; two units that belong together give one. A numeral is an integer if it consists
of digits, and otherwise the nearest binary floating-point number.

## Main definitions

* `Json.Mark`, `Json.characters` — what is written between quotes, and the characters that it gives
* `Json.IsString`, `Json.IsNumeral` — strings and numerals
* `Json.Spells` — values and what stands between brackets
* `Json.Denotes` — the texts of a value

## Main results

* `Json.IsString.unique` — a string is read in one way, whatever follows it
* `Json.IsNumeral.exists_head` — what a numeral starts with
-/

namespace RobotsExclusion

namespace Json

variable {c : CodePoint} {s s' t t' u u' v v' r r' : Text}

/-! ### Strings -/

/-- A unit of UTF-16. -/
abbrev Unit16 := Fin 0x10000

/-- What is written between quotes: a character, or a unit by its number. -/
inductive Mark where
  | character (c : CodePoint)
  | unit (n : Unit16)
deriving DecidableEq

/-- The character of a unit by itself. -/
def ofUnit (n : Unit16) : CodePoint := ⟨n, by omega⟩

/-- The character of two units that belong together. -/
def pair? (high low : Unit16) : Option CodePoint :=
  if h : 0xD800 ≤ high.val ∧ high.val < 0xDC00 ∧ 0xDC00 ≤ low.val ∧ low.val < 0xE000 then
    some ⟨0x10000 + (high - 0xD800) * 0x400 + (low - 0xDC00), by omega⟩
  else none

/-- The characters that marks give. -/
def characters : List Mark → Text
  | [] => []
  | .character c :: rest => c :: characters rest
  | .unit high :: .unit low :: rest =>
    match pair? high low with
    | some c => c :: characters rest
    | none => ofUnit high :: characters (.unit low :: rest)
  | .unit n :: rest => ofUnit n :: characters rest

/-- How a mark is written. -/
inductive Mark.Spells : Mark → Text → Prop
  /-- A character by itself. -/
  | plain (c : CodePoint) : c ≠ CodePoint.ofChar '"' → c ≠ CodePoint.ofChar '\\' →
    0x20 ≤ c.toNat → Spells (.character c) [c]
  /-- A letter behind a backslash. -/
  | short (e : Char × Nat) (c : CodePoint) : e ∈ escapes → c.toNat = e.2 →
    Spells (.character c) [CodePoint.ofChar '\\', CodePoint.ofChar e.1]
  /-- Four hexadecimal digits behind a backslash and a `u`. -/
  | unit (ds : Text) (n : Unit16) : ds.length = 4 → (∀ d ∈ ds, d.isHexDigit = true) →
    ds.natOfHex = n.val →
    Spells (.unit n) (CodePoint.ofChar '\\' :: CodePoint.ofChar 'u' :: ds)

/-- How marks are written, one after another. -/
inductive Marks : List Mark → Text → Prop
  | nil : Marks [] []
  | cons {m : Mark} {ms : List Mark} {v u : Text} : m.Spells v → Marks ms u → Marks (m :: ms) (v ++ u)

/-- A string with the characters that it stands for. -/
def IsString (s t : Text) : Prop :=
  ∃ ms u, Marks ms u ∧ characters ms = s ∧ t = CodePoint.ofChar '"' :: u ++ [CodePoint.ofChar '"']

/-- No letter stands for two characters, and none is the one for units. -/
theorem escapes_unique :
    ∀ e ∈ escapes, e.1 ≠ 'u' ∧ ∀ e' ∈ escapes, e.1 = e'.1 → e = e' := by decide

theorem Mark.Spells.exists_head {m : Mark} (h : m.Spells v) :
    ∃ c rest, v = c :: rest ∧ c ≠ CodePoint.ofChar '"' := by
  cases h with
  | plain c quote _ _ => exact ⟨c, [], rfl, quote⟩
  | short e c _ _ => exact ⟨_, _, rfl, by decide⟩
  | unit ds n _ _ _ => exact ⟨_, _, rfl, by decide⟩

/-- A mark is read in one way, whatever follows it. -/
theorem Mark.Spells.unique {m m' : Mark} (h : m.Spells v) (h' : m'.Spells v')
    (same : v ++ r = v' ++ r') : m = m' ∧ r = r' := by
  cases h with
  | plain c _ backslash _ =>
    cases h' with
    | plain c' _ _ _ =>
      obtain ⟨rfl, rest⟩ := List.cons.inj same
      exact ⟨rfl, rest⟩
    | short e' c' _ _ => exact absurd (List.cons.inj same).1 backslash
    | unit ds' n' _ _ _ => exact absurd (List.cons.inj same).1 backslash
  | short e c known stands =>
    cases h' with
    | plain c' _ backslash _ => exact absurd (List.cons.inj same).1.symm backslash
    | short e' c' known' stands' =>
      obtain ⟨letter, rest⟩ := List.cons.inj (List.cons.inj same).2
      obtain rfl := (escapes_unique e known).2 e' known' (CodePoint.ofChar_injective letter)
      have number : c.toNat = c'.toNat := stands.trans stands'.symm
      cases c
      cases number
      exact ⟨rfl, rest⟩
    | unit ds' n' _ _ _ =>
      have letter := (List.cons.inj (List.cons.inj same).2).1
      exact absurd (CodePoint.ofChar_injective letter) (escapes_unique e known).1
  | unit ds n length _ value =>
    cases h' with
    | plain c' _ backslash _ => exact absurd (List.cons.inj same).1.symm backslash
    | short e' c' known' _ =>
      have letter := (List.cons.inj (List.cons.inj same).2).1
      exact absurd (CodePoint.ofChar_injective letter.symm) (escapes_unique e' known').1
    | unit ds' n' length' _ value' =>
      have digits := (List.cons.inj (List.cons.inj same).2).2
      obtain ⟨rfl, rest⟩ := List.append_inj digits (length.trans length'.symm)
      have number : n = n' := Fin.ext (value.symm.trans value')
      exact ⟨congrArg _ number, rest⟩

/-- Marks end at the first quote that they do not escape. -/
theorem Marks.unique {ms ms' : List Mark} (h : Marks ms u) (h' : Marks ms' u')
    (same : u ++ CodePoint.ofChar '"' :: r = u' ++ CodePoint.ofChar '"' :: r') :
    ms = ms' ∧ r = r' := by
  induction h generalizing ms' u' with
  | nil =>
    cases h' with
    | nil => exact ⟨rfl, (List.cons.inj same).2⟩
    | cons first _ =>
      obtain ⟨c, rest, rfl, other⟩ := first.exists_head
      exact absurd (List.cons.inj same).1.symm other
  | cons first _ ih =>
    cases h' with
    | nil =>
      obtain ⟨c, rest, rfl, other⟩ := first.exists_head
      exact absurd (List.cons.inj same).1 other
    | cons first' later' =>
      rw [List.append_assoc, List.append_assoc] at same
      obtain ⟨rfl, rest⟩ := first.unique first' same
      obtain ⟨rfl, rest⟩ := ih later' rest
      exact ⟨rfl, rest⟩

/-- A string is read in one way, whatever follows it. -/
theorem IsString.unique (h : IsString s t) (h' : IsString s' t') (same : t ++ r = t' ++ r') :
    s = s' ∧ r = r' := by
  obtain ⟨ms, u, hms, rfl, rfl⟩ := h
  obtain ⟨ms', u', hms', rfl, rfl⟩ := h'
  rw [List.cons_append, List.cons_append, List.append_assoc, List.append_assoc] at same
  obtain ⟨rfl, rest⟩ := hms.unique hms' (List.cons.inj same).2
  exact ⟨rfl, rest⟩

/-! ### Numerals -/

/-- A row of digits. -/
def IsDigits (ds : Text) : Prop := ds ≠ [] ∧ ∀ d ∈ ds, d.isAsciiDigit = true

/-- A numeral: perhaps a minus sign, digits that do not start with a zero unless it is the only one,
perhaps a point and digits, and perhaps an exponent. -/
inductive IsNumeral : Text → Prop
  | mk (sign whole fraction exponent : Text) : sign = [] ∨ sign = "-" →
    IsDigits whole → (whole.head? = some (CodePoint.ofChar '0') → whole = "0") →
    (fraction = [] ∨ ∃ ds, IsDigits ds ∧ fraction = CodePoint.ofChar '.' :: ds) →
    (exponent = [] ∨ ∃ e s ds, (e = CodePoint.ofChar 'e' ∨ e = CodePoint.ofChar 'E') ∧
      (s = [] ∨ s = "+" ∨ s = "-") ∧ IsDigits ds ∧ exponent = e :: s ++ ds) →
    IsNumeral (sign ++ whole ++ fraction ++ exponent)

/-- The characters of numerals. -/
def isNumeralCharacter (c : CodePoint) : Bool :=
  c.isAsciiDigit || c = '-' || c = '+' || c = '.' || c = 'e' || c = 'E'

/-- The value of a numeral: an integer if there are digits alone, and otherwise the nearest binary
floating-point number. -/
def valueOfNumeral? (t : Text) : Option Json :=
  if t.all fun c => c.isAsciiDigit || c = '-' then some (.int t.toInt)
  else (Numeral.ofText? t).map fun n => .real n.toBinary64

theorem isNumeralCharacter_of_isAsciiDigit (h : c.isAsciiDigit = true) :
    isNumeralCharacter c = true := by
  simp [isNumeralCharacter, h]

theorem IsNumeral.isNumeralCharacter (h : IsNumeral t) : ∀ c ∈ t, isNumeralCharacter c = true := by
  have digits {ds : Text} (h : IsDigits ds) : ∀ d ∈ ds, Json.isNumeralCharacter d = true :=
    fun d hd => isNumeralCharacter_of_isAsciiDigit (h.2 d hd)
  obtain ⟨sign, whole, fraction, exponent, hsign, hwhole, -, hfraction, hexponent⟩ := h
  simp only [List.forall_mem_append]
  refine ⟨⟨⟨?_, digits hwhole⟩, ?_⟩, ?_⟩
  · rcases hsign with rfl | rfl <;> decide
  · rcases hfraction with rfl | ⟨ds, hds, rfl⟩
    · decide
    · exact List.forall_mem_cons.2 ⟨rfl, digits hds⟩
  · rcases hexponent with rfl | ⟨e, s, ds, he, hs, hds, rfl⟩
    · decide
    · refine List.forall_mem_cons.2 ⟨?_, List.forall_mem_append.2 ⟨?_, digits hds⟩⟩
      · rcases he with rfl | rfl <;> rfl
      · rcases hs with rfl | rfl | rfl <;> decide

theorem IsNumeral.exists_head (h : IsNumeral t) :
    ∃ c rest, t = c :: rest ∧ (c = CodePoint.ofChar '-' ∨ c.isAsciiDigit = true) := by
  obtain ⟨sign, whole, fraction, exponent, rfl | rfl, hwhole, -, -, -⟩ := h
  · obtain ⟨d, ds, rfl⟩ := List.exists_cons_of_ne_nil hwhole.1
    exact ⟨d, _, rfl, .inr (hwhole.2 d List.mem_cons_self)⟩
  · exact ⟨_, _, rfl, .inl rfl⟩

/-! ### Values -/

/-- White space between tokens. -/
def IsBlank (w : Text) : Prop := ∀ c ∈ w, isSpace c = true

instance (w : Text) : Decidable (IsBlank w) := inferInstanceAs (Decidable (∀ c ∈ w, _))

/-- What stands between brackets: an item, or a member with its name. -/
abbrev Part := Option Text × Json

/-- What is told by a rule of the grammar. -/
inductive Phrase where
  | value (j : Json)
  | part (p : Part)
  /-- All that stands between two brackets. -/
  | parts (ps : List Part)

/-- The rules of the grammar. -/
inductive Spells : Phrase → Text → Prop
  | null : Spells (.value .null) "null"
  | yes : Spells (.value (.bool true)) "true"
  | no : Spells (.value (.bool false)) "false"
  | number {j : Json} {t : Text} : IsNumeral t → valueOfNumeral? t = some j → Spells (.value j) t
  | text {s t : Text} : IsString s t → Spells (.value (.text s)) t
  | array {items : List Json} {u : Text} : Spells (.parts (items.map fun j => (none, j))) u →
    Spells (.value (.array items)) (CodePoint.ofChar '[' :: u ++ [CodePoint.ofChar ']'])
  | object {members : List (Text × Json)} {u : Text} :
    Spells (.parts (members.map fun m => (some m.1, m.2))) u →
    Spells (.value (.object members)) (CodePoint.ofChar '\x7b' :: u ++ [CodePoint.ofChar '\x7d'])
  | item {j : Json} {v : Text} : Spells (.value j) v → Spells (.part (none, j)) v
  | member {name t w w' v : Text} {j : Json} : IsString name t → IsBlank w → IsBlank w' →
    Spells (.value j) v →
    Spells (.part (some name, j)) (t ++ (w ++ CodePoint.ofChar ':' :: (w' ++ v)))
  | nothing {w : Text} : IsBlank w → Spells (.parts []) w
  | last {p : Part} {w v w' : Text} : IsBlank w → Spells (.part p) v → IsBlank w' →
    Spells (.parts [p]) (w ++ (v ++ w'))
  | more {p q : Part} {ps : List Part} {w v w' u : Text} : IsBlank w → Spells (.part p) v →
    IsBlank w' → Spells (.parts (q :: ps)) u →
    Spells (.parts (p :: q :: ps)) (w ++ (v ++ (w' ++ CodePoint.ofChar ',' :: u)))

/-- A text that stands for a value: there may be white space around it. -/
def Denotes (t : Text) (j : Json) : Prop :=
  ∃ w v w', IsBlank w ∧ Spells (.value j) v ∧ IsBlank w' ∧ t = w ++ (v ++ w')

end Json

end RobotsExclusion
