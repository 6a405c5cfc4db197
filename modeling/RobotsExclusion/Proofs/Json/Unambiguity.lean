import RobotsExclusion.Proofs.Json.Grammar

/-!
# JSON is read in one way

A text stands for one value at most. Each kind of value has first characters of its own, a string
ends at its first quote that is not escaped, a numeral goes on as long as its characters do, and what
stands between brackets ends at a comma or at the closing one. So all that follows the grammar reads
the same out of a text.

## Main definitions

* `Json.kindOf?` — what the first character of a value tells
* `Json.EndsValue`, `Json.EndsParts` — what may follow
* `Json.Phrase.IsTold` — what can be read in one way only

## Main results

* `Json.Spells.isTold` — every phrase of the grammar is read in one way, whatever follows it
* `Json.Denotes.unique` — a text stands for one value at most
-/

namespace RobotsExclusion

/-- What is cut where a condition ends is cut in one way. -/
theorem span_unique {α : Type} {p : α → Bool} {w w' x x' : List α} (hw : ∀ a ∈ w, p a = true)
    (hw' : ∀ a ∈ w', p a = true) (hx : ∀ a ∈ x.head?, p a = false)
    (hx' : ∀ a ∈ x'.head?, p a = false) (h : w ++ x = w' ++ x') : w = w' ∧ x = x' := by
  have cut {w x : List α} (hw : ∀ a ∈ w, p a = true) (hx : ∀ a ∈ x.head?, p a = false) :
      (w ++ x).takeWhile p = w := by
    rw [List.takeWhile_append_of_pos hw]
    cases x with
    | nil => exact List.append_nil w
    | cons a x => rw [List.takeWhile_cons_of_neg (by simp [hx a rfl]), List.append_nil]
  have same : w = w' := by rw [← cut hw hx, h, cut hw' hx']
  exact ⟨same, List.append_cancel_left (same ▸ h)⟩

namespace Json

variable {c : CodePoint} {s t t' u u' v v' w w' r r' : Text} {j j' : Json}

/-! ### First characters -/

/-- What the first character of a value tells about it. -/
inductive Kind where
  | null
  | bool (b : Bool)
  | number
  | text
  | array
  | object

/-- The kind of a value. -/
def kind : Json → Kind
  | .null => .null
  | .bool b => .bool b
  | .int _ | .real _ => .number
  | .text _ => .text
  | .array _ => .array
  | .object _ => .object

/-- The kind of the values that start with a character. -/
def kindOf? (c : CodePoint) : Option Kind :=
  if c.isAsciiDigit || c = '-' then some .number
  else if c = 'n' then some .null
  else if c = 't' then some (.bool true)
  else if c = 'f' then some (.bool false)
  else if c = '"' then some .text
  else if c = '[' then some .array
  else if c = '\x7b' then some .object
  else none

theorem kind_of_valueOfNumeral? (h : valueOfNumeral? t = some j) : j.kind = .number := by
  rw [valueOfNumeral?] at h
  split at h
  · cases h
    rfl
  · obtain ⟨n, -, rfl⟩ := Option.map_eq_some_iff.1 h
    rfl

/-- The first character of a value tells its kind. -/
theorem Spells.exists_head {p : Phrase} (h : Spells p t) (hp : p = .value j) :
    ∃ c rest, t = c :: rest ∧ kindOf? c = some j.kind := by
  cases h <;> cases hp
  case null => exact ⟨_, _, rfl, rfl⟩
  case yes => exact ⟨_, _, rfl, rfl⟩
  case no => exact ⟨_, _, rfl, rfl⟩
  case number numeral value =>
    obtain ⟨c, rest, rfl, head⟩ := numeral.exists_head
    refine ⟨c, rest, rfl, ?_⟩
    have first : (c.isAsciiDigit || c = '-') = true := by
      rcases head with rfl | digit
      · rfl
      · simp [digit]
    rw [kind_of_valueOfNumeral? value, kindOf?, if_pos first]
  case text isString =>
    obtain ⟨ms, u, -, -, rfl⟩ := isString
    exact ⟨_, _, rfl, rfl⟩
  case array => exact ⟨_, _, rfl, rfl⟩
  case object => exact ⟨_, _, rfl, rfl⟩

/-- What a part starts with starts a value. -/
theorem Spells.exists_head_part {p : Part} (h : Spells (.part p) t) :
    ∃ c rest k, t = c :: rest ∧ kindOf? c = some k := by
  cases h with
  | item value =>
    obtain ⟨c, rest, rfl, hc⟩ := value.exists_head rfl
    exact ⟨c, rest, _, rfl, hc⟩
  | member isString _ _ _ =>
    obtain ⟨ms, u, -, -, rfl⟩ := isString
    exact ⟨_, _, .text, rfl, rfl⟩

theorem isSpace_iff : isSpace c = true ↔ c = ' ' ∨ c = '\t' ∨ c = '\n' ∨ c = '\r' := by
  simp [isSpace, or_assoc]

theorem isSpace_of_kindOf? {k : Kind} (h : kindOf? c = some k) : isSpace c = false := by
  cases hc : isSpace c with
  | false => rfl
  | true => rcases isSpace_iff.1 hc with rfl | rfl | rfl | rfl <;> cases h

/-- No two values of different kinds start with the same character. -/
theorem Spells.kind_eq (h : Spells (.value j) t) (h' : Spells (.value j') t')
    (same : t ++ r = t' ++ r') : j.kind = j'.kind := by
  obtain ⟨c, rest, rfl, hc⟩ := h.exists_head rfl
  obtain ⟨c', rest', rfl, hc'⟩ := h'.exists_head rfl
  obtain rfl := (List.cons.inj same).1
  exact Option.some.inj (hc.symm.trans hc')

/-! ### Values of a kind -/

theorem Spells.eq_null (h : Spells (.value .null) t) : t = "null" := by
  cases h with
  | null => rfl
  | number _ value => cases kind_of_valueOfNumeral? value

theorem Spells.eq_bool {b : Bool} (h : Spells (.value (.bool b)) t) :
    t = if b then "true" else "false" := by
  cases h with
  | yes | no => rfl
  | number _ value => cases kind_of_valueOfNumeral? value

theorem Spells.isNumeral (h : Spells (.value j) t) (hj : j.kind = .number) :
    IsNumeral t ∧ valueOfNumeral? t = some j := by
  cases h with
  | number numeral value => exact ⟨numeral, value⟩
  | null | yes | no | text | array | object => cases hj

theorem Spells.isString (h : Spells (.value (.text s)) t) : IsString s t := by
  cases h with
  | text isString => exact isString
  | number _ value => cases kind_of_valueOfNumeral? value

theorem Spells.exists_items {items : List Json} (h : Spells (.value (.array items)) t) :
    ∃ u, Spells (.parts (items.map fun j => (none, j))) u ∧
      t = CodePoint.ofChar '[' :: u ++ [CodePoint.ofChar ']'] := by
  cases h with
  | array parts => exact ⟨_, parts, rfl⟩
  | number _ value => cases kind_of_valueOfNumeral? value

theorem Spells.exists_members {members : List (Text × Json)}
    (h : Spells (.value (.object members)) t) :
    ∃ u, Spells (.parts (members.map fun m => (some m.1, m.2))) u ∧
      t = CodePoint.ofChar '\x7b' :: u ++ [CodePoint.ofChar '\x7d'] := by
  cases h with
  | object parts => exact ⟨_, parts, rfl⟩
  | number _ value => cases kind_of_valueOfNumeral? value

/-! ### What follows -/

/-- What may follow a value: nothing, white space, a comma or a closing bracket. -/
def EndsValue (r : Text) : Prop :=
  ∀ c ∈ r.head?, isSpace c = true ∨ c = ',' ∨ c = ']' ∨ c = '\x7d'

/-- What follows the parts between brackets: the closing one. -/
def EndsParts (r : Text) : Prop := ∃ c rest, r = c :: rest ∧ (c = ']' ∨ c = '\x7d')

theorem EndsParts.endsValue (h : EndsParts r) : EndsValue r := by
  obtain ⟨c, rest, rfl, closing⟩ := h
  rintro c' hc'
  obtain rfl := Option.some.inj hc'
  exact .inr (.inr closing)

theorem EndsParts.beyond_space (h : EndsParts r) : ∀ c ∈ r.head?, isSpace c = false := by
  obtain ⟨c, rest, rfl, rfl | rfl⟩ := h <;> (rintro c' hc'; cases hc'; rfl)

theorem EndsValue.beyond_numeral (h : EndsValue r) :
    ∀ c ∈ r.head?, isNumeralCharacter c = false := by
  intro c hc
  rcases h c hc with space | rfl | rfl | rfl
  · rcases isSpace_iff.1 space with rfl | rfl | rfl | rfl <;> rfl
  · rfl
  · rfl
  · rfl

theorem EndsValue.blank_append (hw : IsBlank w) (hr : EndsValue r) : EndsValue (w ++ r) := by
  cases w with
  | nil => exact hr
  | cons c w =>
    rintro c' hc'
    obtain rfl := Option.some.inj hc'
    exact .inl (hw c List.mem_cons_self)

theorem endsValue_comma (r : Text) : EndsValue (CodePoint.ofChar ',' :: r) := by
  rintro c hc
  obtain rfl := Option.some.inj hc
  exact .inr (.inl rfl)

theorem comma_beyond_space (r : Text) :
    ∀ c ∈ (CodePoint.ofChar ',' :: r).head?, isSpace c = false := by
  rintro c hc
  obtain rfl := Option.some.inj hc
  rfl

theorem not_endsParts_comma (r : Text) : ¬ EndsParts (CodePoint.ofChar ',' :: r) := by
  rintro ⟨c, rest, same, closing⟩
  obtain rfl := (List.cons.inj same).1
  rcases closing with closing | closing <;> cases closing

theorem Spells.beyond_space {p : Part} (h : Spells (.part p) v) (r : Text) :
    ∀ c ∈ (v ++ r).head?, isSpace c = false := by
  obtain ⟨c, rest, k, rfl, hc⟩ := h.exists_head_part
  rintro c' hc'
  obtain rfl := Option.some.inj hc'
  exact isSpace_of_kindOf? hc

/-- No part starts with a closing bracket. -/
theorem Spells.not_endsParts {p : Part} (h : Spells (.part p) v) (r : Text) :
    ¬ EndsParts (v ++ r) := by
  obtain ⟨c, rest, k, rfl, hc⟩ := h.exists_head_part
  rintro ⟨c', rest', same, closing⟩
  obtain rfl := (List.cons.inj same).1
  rcases closing with rfl | rfl <;> cases hc

/-! ### Constants and numerals -/

/-- A constant is read in one way. -/
theorem Spells.constant_unique (h : Spells (.value j) t) (h' : Spells (.value j') t')
    (constant : j = .null ∨ ∃ b, j = .bool b) (same : t ++ r = t' ++ r') : j = j' ∧ r = r' := by
  -- The kind of a constant is the constant itself, and so is its text.
  have kind := h.kind_eq h' same
  rcases constant with rfl | ⟨b, rfl⟩
  · cases j' <;> cases kind
    obtain rfl := h.eq_null
    obtain rfl := h'.eq_null
    exact ⟨rfl, List.append_cancel_left same⟩
  · cases j' <;> cases kind
    obtain rfl := h.eq_bool
    obtain rfl := h'.eq_bool
    exact ⟨rfl, List.append_cancel_left same⟩

/-- A numeral is read in one way: it goes on as long as its characters do. -/
theorem Spells.number_unique (h : Spells (.value j) t) (h' : Spells (.value j') t')
    (number : j.kind = .number) (ends : EndsValue r) (ends' : EndsValue r')
    (same : t ++ r = t' ++ r') : j = j' ∧ r = r' := by
  obtain ⟨numeral, value⟩ := h.isNumeral number
  obtain ⟨numeral', value'⟩ := h'.isNumeral ((h.kind_eq h' same).symm.trans number)
  obtain ⟨rfl, rest⟩ := span_unique numeral.isNumeralCharacter numeral'.isNumeralCharacter
    ends.beyond_numeral ends'.beyond_numeral same
  exact ⟨Option.some.inj (value.symm.trans value'), rest⟩

/-! ### Reading in one way -/

/-- Phrases of rules for the same place. -/
def Phrase.Alike : Phrase → Phrase → Prop
  | .value _, .value _ => True
  | .part p, .part p' => p.1.isSome = p'.1.isSome
  | .parts ps, .parts ps' => ∀ p ∈ ps, ∀ p' ∈ ps', p.1.isSome = p'.1.isSome
  | _, _ => False

/-- What follows a phrase. -/
def Phrase.Ends : Phrase → Text → Prop
  | .parts _, r => EndsParts r
  | _, r => EndsValue r

/-- A phrase that is told by its text, whatever follows. -/
def Phrase.IsTold (p : Phrase) (t : Text) : Prop :=
  ∀ ⦃p' : Phrase⦄ ⦃t' r r' : Text⦄, Spells p' t' → p.Alike p' → p.Ends r → p'.Ends r' →
    t ++ r = t' ++ r' → p = p' ∧ r = r'

namespace Phrase

variable {p q : Part} {ps : List Part}

theorem Alike.head {p' : Part} {ps' : List Part}
    (h : (parts (p :: ps)).Alike (.parts (p' :: ps'))) : (part p).Alike (.part p') :=
  h p List.mem_cons_self p' List.mem_cons_self

theorem Alike.tail {p' : Part} {ps' : List Part}
    (h : (parts (p :: ps)).Alike (.parts (p' :: ps'))) : (parts ps).Alike (.parts ps') :=
  fun q hq q' hq' => h q (List.mem_cons_of_mem _ hq) q' (List.mem_cons_of_mem _ hq')

theorem isTold_value (unique : ∀ ⦃j' t' r r'⦄, Spells (.value j') t' → EndsValue r → EndsValue r' →
    t ++ r = t' ++ r' → j = j' ∧ r = r') : (value j).IsTold t := by
  intro p' t' r r' h' alike ends ends' same
  cases p' with
  | value j' =>
    obtain ⟨rfl, rest⟩ := unique h' ends ends' same
    exact ⟨rfl, rest⟩
  | part | parts => cases alike

theorem isTold_text (h : IsString s t) : (value (.text s)).IsTold t := by
  refine isTold_value fun j' t' r r' h' _ _ same => ?_
  have kind := (Spells.text h).kind_eq h' same
  cases j' <;> cases kind
  obtain ⟨rfl, rest⟩ := h.unique h'.isString same
  exact ⟨rfl, rest⟩

/-- What stands between brackets is told together with them. -/
theorem IsTold.brackets {α : Type} {f : α → Part} {l l' : List α} {d : CodePoint}
    (injective : Function.Injective f) (alike : ∀ a b, (f a).1.isSome = (f b).1.isSome)
    (h : (parts (l.map f)).IsTold u) (closing : d = ']' ∨ d = '\x7d')
    (h' : Spells (.parts (l'.map f)) u') (same : c :: u ++ [d] ++ r = c :: u' ++ [d] ++ r') :
    l = l' ∧ r = r' := by
  have alike : (parts (l.map f)).Alike (.parts (l'.map f)) := by
    simp only [Alike, List.forall_mem_map]
    exact fun a _ b _ => alike a b
  simp only [List.cons_append, List.append_assoc, List.nil_append] at same
  -- The closing bracket belongs to what follows the parts.
  obtain ⟨told, rest⟩ :=
    h h' alike ⟨d, r, rfl, closing⟩ ⟨d, r', rfl, closing⟩ (List.cons.inj same).2
  exact ⟨injective.list_map (parts.inj told), (List.cons.inj rest).2⟩

theorem IsTold.array {items : List Json} (spells : Spells (.parts (items.map fun j => (none, j))) u)
    (h : (parts (items.map fun j => (none, j))).IsTold u) :
    (value (.array items)).IsTold (CodePoint.ofChar '[' :: u ++ [CodePoint.ofChar ']']) := by
  refine isTold_value fun j' t' r r' h' _ _ same => ?_
  have kind := (Spells.array spells).kind_eq h' same
  cases j' <;> cases kind
  obtain ⟨u', spells', rfl⟩ := h'.exists_items
  have injective : Function.Injective fun j : Json => ((none, j) : Part) :=
    fun _ _ h => (Prod.mk.inj h).2
  obtain ⟨rfl, rest⟩ := h.brackets injective (fun _ _ => rfl) (.inl rfl) spells' same
  exact ⟨rfl, rest⟩

theorem IsTold.object {members : List (Text × Json)}
    (spells : Spells (.parts (members.map fun m => (some m.1, m.2))) u)
    (h : (parts (members.map fun m => (some m.1, m.2))).IsTold u) :
    (value (.object members)).IsTold
      (CodePoint.ofChar '\x7b' :: u ++ [CodePoint.ofChar '\x7d']) := by
  refine isTold_value fun j' t' r r' h' _ _ same => ?_
  have kind := (Spells.object spells).kind_eq h' same
  cases j' <;> cases kind
  obtain ⟨u', spells', rfl⟩ := h'.exists_members
  have injective : Function.Injective fun m : Text × Json => ((some m.1, m.2) : Part) :=
    fun _ _ h => Prod.ext (Option.some.inj (Prod.mk.inj h).1) (Prod.mk.inj h).2
  obtain ⟨rfl, rest⟩ := h.brackets injective (fun _ _ => rfl) (.inr rfl) spells' same
  exact ⟨rfl, rest⟩

theorem IsTold.item (h : (value j).IsTold v) : (part (none, j)).IsTold v := by
  intro p' t' r r' h' alike ends ends' same
  cases h' with
  | item value' =>
    obtain ⟨told, rest⟩ := h value' trivial ends ends' same
    cases told
    exact ⟨rfl, rest⟩
  | _ => cases alike

theorem IsTold.member (isString : IsString s t) (hw : IsBlank w) (hw' : IsBlank w')
    (spells : Spells (.value j) v) (h : (value j).IsTold v) :
    (part (some s, j)).IsTold (t ++ (w ++ CodePoint.ofChar ':' :: (w' ++ v))) := by
  intro p' t' r r' h' alike ends ends' same
  cases h' with
  | member isString' hx hx' spells' =>
    simp only [List.append_assoc, List.cons_append] at same
    have colon (t : Text) : ∀ c ∈ (CodePoint.ofChar ':' :: t).head?, isSpace c = false := by
      rintro c hc
      obtain rfl := Option.some.inj hc
      rfl
    obtain ⟨rfl, same⟩ := isString.unique isString' same
    obtain ⟨-, same⟩ := span_unique hw hx (colon _) (colon _) same
    obtain ⟨-, same⟩ := span_unique hw' hx' ((Spells.item spells).beyond_space _)
      ((Spells.item spells').beyond_space _) (List.cons.inj same).2
    obtain ⟨told, rest⟩ := h spells' trivial ends ends' same
    cases told
    exact ⟨rfl, rest⟩
  | _ => cases alike

/-- A part is told together with the white space around it. -/
theorem IsTold.part {p' : Part} {x x' y y' : Text} (h : (part p).IsTold v)
    (spells : Spells (.part p) v) (spells' : Spells (.part p') v') (alike : (part p).Alike (.part p'))
    (hw : IsBlank w) (hw' : IsBlank w') (hx : IsBlank x) (hx' : IsBlank x') (hy : EndsValue y)
    (hy' : EndsValue y') (beyond : ∀ c ∈ y.head?, isSpace c = false)
    (beyond' : ∀ c ∈ y'.head?, isSpace c = false)
    (same : w ++ (v ++ (x ++ y)) = w' ++ (v' ++ (x' ++ y'))) : p = p' ∧ y = y' := by
  obtain ⟨-, same⟩ := span_unique hw hw' (spells.beyond_space _) (spells'.beyond_space _) same
  obtain ⟨told, same⟩ := h spells' alike (.blank_append hx hy) (.blank_append hx' hy') same
  exact ⟨part.inj told, (span_unique hx hx' beyond beyond' same).2⟩

/-- There are parts between brackets or there is nothing. -/
theorem nothing_ne_part {x y : Text} (spells : Spells (.part p) v) (hw : IsBlank w) (hx : IsBlank x)
    (ends : EndsParts r) : w ++ r ≠ x ++ (v ++ y) := by
  intro same
  obtain ⟨-, rfl⟩ := span_unique hw hx ends.beyond_space (spells.beyond_space y) same
  exact spells.not_endsParts y ends

theorem isTold_nothing (hw : IsBlank w) : (parts []).IsTold w := by
  intro p' t' r r' h' alike ends ends' same
  -- The other rules for what stands between brackets begin with a part.
  cases h' with
  | nothing hw' => exact ⟨rfl, (span_unique hw hw' ends.beyond_space ends'.beyond_space same).2⟩
  | last hx spells' _ | more hx spells' _ _ =>
    simp only [List.append_assoc] at same
    exact absurd same (nothing_ne_part spells' hw hx ends)
  | _ => cases alike

theorem IsTold.last (hw : IsBlank w) (spells : Spells (.part p) v) (hw' : IsBlank w')
    (h : (Phrase.part p).IsTold v) : (parts [p]).IsTold (w ++ (v ++ w')) := by
  intro p' t' r r' h' alike ends ends' same
  -- The part is told whatever follows, and then a closing bracket or a comma decides on the rule.
  cases h' with
  | nothing hx =>
    simp only [List.append_assoc] at same
    exact absurd same.symm (nothing_ne_part spells hx hw ends')
  | last hx spells' hx' =>
    simp only [List.append_assoc] at same
    obtain ⟨rfl, rest⟩ := h.part spells spells' alike.head hw hx hw' hx' ends.endsValue
      ends'.endsValue ends.beyond_space ends'.beyond_space same
    exact ⟨rfl, rest⟩
  | more hx spells' hx' _ =>
    simp only [List.append_assoc, List.cons_append] at same
    obtain ⟨-, rfl⟩ := h.part spells spells' alike.head hw hx hw' hx' ends.endsValue
      (endsValue_comma _) ends.beyond_space (comma_beyond_space _) same
    exact absurd ends (not_endsParts_comma _)
  | _ => cases alike

theorem IsTold.more (hw : IsBlank w) (spells : Spells (.part p) v) (hw' : IsBlank w')
    (h : (Phrase.part p).IsTold v) (later : (parts (q :: ps)).IsTold u) :
    (parts (p :: q :: ps)).IsTold (w ++ (v ++ (w' ++ CodePoint.ofChar ',' :: u))) := by
  intro p' t' r r' h' alike ends ends' same
  cases h' with
  | nothing hx =>
    simp only [List.append_assoc] at same
    exact absurd same.symm (nothing_ne_part spells hx hw ends')
  | last hx spells' hx' =>
    simp only [List.append_assoc, List.cons_append] at same
    obtain ⟨-, rfl⟩ := h.part spells spells' alike.head hw hx hw' hx' (endsValue_comma _)
      ends'.endsValue (comma_beyond_space _) ends'.beyond_space same
    exact absurd ends' (not_endsParts_comma _)
  | more hx spells' hx' later' =>
    simp only [List.append_assoc, List.cons_append] at same
    obtain ⟨rfl, rest⟩ := h.part spells spells' alike.head hw hx hw' hx' (endsValue_comma _)
      (endsValue_comma _) (comma_beyond_space _) (comma_beyond_space _) same
    obtain ⟨told, rest⟩ := later later' alike.tail ends ends' (List.cons.inj rest).2
    cases told
    exact ⟨rfl, rest⟩
  | _ => cases alike

end Phrase

/-- By the grammar, all phrases are told by their texts. -/
theorem Spells.isTold {p : Phrase} (h : Spells p t) : p.IsTold t := by
  -- The induction is on the rules of the one reading. Those of the other are taken apart in each case.
  induction h with
  | null =>
    exact Phrase.isTold_value fun _ _ _ _ h' _ _ => Spells.null.constant_unique h' (.inl rfl)
  | yes =>
    exact Phrase.isTold_value fun _ _ _ _ h' _ _ =>
      Spells.yes.constant_unique h' (.inr ⟨true, rfl⟩)
  | no =>
    exact Phrase.isTold_value fun _ _ _ _ h' _ _ =>
      Spells.no.constant_unique h' (.inr ⟨false, rfl⟩)
  | number numeral value =>
    exact Phrase.isTold_value fun _ _ _ _ h' =>
      (Spells.number numeral value).number_unique h' (kind_of_valueOfNumeral? value)
  | text isString => exact Phrase.isTold_text isString
  | array parts ih => exact .array parts ih
  | object parts ih => exact .object parts ih
  | item _ ih => exact .item ih
  | member isString hw hw' value ih => exact .member isString hw hw' value ih
  | nothing hw => exact Phrase.isTold_nothing hw
  | last hw part hw' ih => exact .last hw part hw' ih
  | more hw part hw' _ ih ih' => exact .more hw part hw' ih ih'

/-- A text stands for one value at most. -/
theorem Denotes.unique (h : Denotes t j) (h' : Denotes t j') : j = j' := by
  obtain ⟨w, v, x, hw, value, hx, rfl⟩ := h
  obtain ⟨w', v', x', hw', value', hx', same⟩ := h'
  have same : w ++ (v ++ (x ++ [])) = w' ++ (v' ++ (x' ++ [])) := by
    simpa only [List.append_nil] using same
  -- The text ends behind the white space, which is what a part may be followed by.
  have ends : EndsValue [] := fun _ h => nomatch h
  have beyond : ∀ c ∈ ([] : Text).head?, isSpace c = false := fun _ h => nomatch h
  obtain ⟨parts, -⟩ := (Spells.item value).isTold.part (.item value) (.item value') rfl hw hw' hx hx'
    ends ends beyond beyond same
  exact (Prod.mk.inj parts).2

end Json

end RobotsExclusion
