import RobotsExclusion.Proofs.Diagnostic

/-!
# Where the lines of a document lie

A position of a document belongs to the line whose number is one more than the number of line feeds
before it. So the line with a given number has one span and no other, whatever the lines are: empty
ones, the one behind a line feed at the end, or the only one of an empty document. The spans that
are counted up while the document is cut are these, and a finding is tied to the span of its own line
wherever there is such a line.

## Main definitions

* `Text.feedsBefore` — the number of line feeds before a position
* `Span.IsLine` — the span of the line with a number
* `Span.Tile` — spans that cover a document line by line
* `Diagnostic.IsAnchored` — a diagnostic that stands at the line of a finding

## Main results

* `Span.IsLine.contains_iff` — the positions of a line are those with one line feed less before them
  than its number
* `Span.isLine_iff` — the spans of the lines of a text
* `Text.tile_lineSpans` — they cover the text without gaps and without overlaps
* `Diagnostic.ofReport_anchors` — the diagnostics of any report on any document
-/

namespace RobotsExclusion

/-! ### Line feeds before a position -/

namespace Text

variable {t : Text} {i j : Nat}

/-- The number of line feeds before a position. -/
def feedsBefore (t : Text) (i : Nat) : Nat := (t.take i).count (CodePoint.ofChar '\n')

@[simp] theorem feedsBefore_zero (t : Text) : t.feedsBefore 0 = 0 := by
  simp [feedsBefore]

@[simp] theorem feedsBefore_length (t : Text) :
    t.feedsBefore t.length = t.count (CodePoint.ofChar '\n') := by
  simp [feedsBefore]

theorem feedsBefore_le (h : i ≤ j) : t.feedsBefore i ≤ t.feedsBefore j :=
  (List.take_sublist_take_left h).count_le _

/-- A line feed counts for every position behind it. -/
theorem feedsBefore_lt (h : t[i]? = some (CodePoint.ofChar '\n')) (hij : i < j) :
    t.feedsBefore i < t.feedsBefore j := by
  have counted : t.feedsBefore (i + 1) = t.feedsBefore i + 1 := by
    simp [feedsBefore, List.take_add_one, h]
  have later : t.feedsBefore (i + 1) ≤ t.feedsBefore j := feedsBefore_le hij
  omega

/-- Where no line feed stands between two positions, as many stand before both. -/
theorem feedsBefore_eq {s : Span} (h : CodePoint.ofChar '\n' ∉ t.slice s) (hi : s.start ≤ i)
    (hj : i ≤ s.stop) : t.feedsBefore i = t.feedsBefore s.start := by
  have between : CodePoint.ofChar '\n' ∉ (t.take i).drop s.start := by
    intro feed
    apply h
    exact ((List.take_sublist_take_left hj).drop s.start).subset feed
  have parts : (t.take i).take s.start ++ (t.take i).drop s.start = t.take i :=
    List.take_append_drop _ _
  rw [feedsBefore, ← parts, List.count_append, List.count_eq_zero.2 between, List.take_take,
    Nat.min_eq_left hi]
  rfl

end Text

/-! ### The span of a line -/

namespace Span

variable {t : Text} {s next : Span} {n i : Nat}

/-- The span of the line with this number, counted from one. -/
structure IsLine (t : Text) (n : Nat) (s : Span) : Prop where
  start_le_stop : s.start ≤ s.stop
  stop_le : s.stop ≤ t.length
  feed_not_mem : CodePoint.ofChar '\n' ∉ t.slice s
  /-- As many line feeds precede the line as there are lines before it. -/
  number : t.feedsBefore s.start + 1 = n
  starts : s.start = 0 ∨ t[s.start - 1]? = some (CodePoint.ofChar '\n')
  ends : s.stop = t.length ∨ t[s.stop]? = some (CodePoint.ofChar '\n')

/-- The positions of a line are those with one line feed less before them than its number. -/
theorem IsLine.contains_iff (h : s.IsLine t n) (hi : i ≤ t.length) :
    s.start ≤ i ∧ i ≤ s.stop ↔ t.feedsBefore i + 1 = n := by
  have number := h.number
  constructor
  · rintro ⟨start, stop⟩
    rw [Text.feedsBefore_eq h.feed_not_mem start stop, number]
  · intro same
    constructor
    · by_contra before
      -- A line feed stands right before the line, and the position is not behind it.
      rcases h.starts with first | feed
      · omega
      · have fewer := Text.feedsBefore_lt feed (show s.start - 1 < s.start by omega)
        have := Text.feedsBefore_le (t := t) (show i ≤ s.start - 1 by omega)
        omega
    · by_contra behind
      -- The line feed that ends the line stands before the position.
      rcases h.ends with last | feed
      · omega
      · have more := Text.feedsBefore_lt feed (show s.stop < i by omega)
        have := Text.feedsBefore_eq h.feed_not_mem h.start_le_stop le_rfl
        omega

/-- A line has one span. -/
theorem IsLine.unique (h : s.IsLine t n) (h' : next.IsLine t n) : s = next := by
  have same (i : Nat) (hi : i ≤ t.length) :
      s.start ≤ i ∧ i ≤ s.stop ↔ next.start ≤ i ∧ i ≤ next.stop := by
    rw [h.contains_iff hi, h'.contains_iff hi]
  have := h.start_le_stop
  have := h.stop_le
  have := h'.start_le_stop
  have := h'.stop_le
  -- Each end of one span is a position of the other.
  have start := (same s.start (by omega)).1 (by omega)
  have stop := (same s.stop (by omega)).1 (by omega)
  have start' := (same next.start (by omega)).2 (by omega)
  have stop' := (same next.stop (by omega)).2 (by omega)
  cases s
  cases next
  simp only [mk.injEq]
  simp only at start stop start' stop'
  omega

/-- The line feed between a line and the next one is all that lies between their spans. -/
theorem IsLine.start_eq (h : s.IsLine t n) (h' : next.IsLine t (n + 1)) :
    next.start = s.stop + 1 := by
  have stop := (h.contains_iff h.stop_le).1 ⟨h.start_le_stop, le_rfl⟩
  have start := h'.number
  have bound : next.start ≤ t.length := h'.start_le_stop.trans h'.stop_le
  have later : s.stop < next.start := by
    by_contra before
    have := Text.feedsBefore_le (t := t) (Nat.le_of_not_lt before)
    omega
  rcases h.ends with last | feed
  · omega
  · -- The position behind the line feed belongs to the next line already.
    have counted := Text.feedsBefore_lt feed (show s.stop < s.stop + 1 by omega)
    have := Text.feedsBefore_le (t := t) (show s.stop + 1 ≤ next.start by omega)
    have := (h'.contains_iff (show s.stop + 1 ≤ t.length by omega)).2 (by omega)
    omega

theorem IsLine.start_eq_zero (h : s.IsLine t 1) : s.start = 0 := by
  have first := (h.contains_iff (Nat.zero_le t.length)).2 (by simp)
  omega

/-- The last line ends where the text does. -/
theorem IsLine.stop_eq_length (h : s.IsLine t (t.count (CodePoint.ofChar '\n') + 1)) :
    s.stop = t.length := by
  have last := (h.contains_iff le_rfl).2 (by simp)
  exact le_antisymm h.stop_le last.2

end Span

/-! ### The spans that are counted up -/

section Lines

variable {t : Text} {s : Span} {line : Text} {lines : List Text} {offset i k n : Nat}

theorem length_spansOnto (offset : Nat) (lines : List Text) :
    (spansOnto [] offset lines).length = lines.length := by
  induction lines generalizing offset with
  | nil => rfl
  | cons line rest ih => rw [spansOnto_cons, List.length_cons, List.length_cons, ih]

/-- A line is found between what precedes it and what follows it. -/
theorem isLine_append (before after : Text) (hline : CodePoint.ofChar '\n' ∉ line)
    (hbefore : before = [] ∨ before.getLast? = some (CodePoint.ofChar '\n'))
    (hafter : after = [] ∨ after.head? = some (CodePoint.ofChar '\n')) :
    Span.IsLine (before ++ (line ++ after)) (before.count (CodePoint.ofChar '\n') + 1)
      ⟨before.length, before.length + line.length⟩ := by
  constructor
  · simp
  · simp
  · rwa [Text.slice_append]
  · simp [Text.feedsBefore]
  · rcases hbefore with rfl | feed
    · simp
    · right
      obtain ⟨front, rfl⟩ := List.getLast?_eq_some_iff.1 feed
      simp
  · rcases hafter with rfl | feed
    · simp
    · right
      obtain ⟨behind, rfl⟩ := List.head?_eq_some_iff.1 feed
      simp

/-- The spans of lines are those of the text that the lines make up, whatever lines precede it. The
offset is counted up with the line feeds. -/
theorem isLine_of_mem_spansOnto (before : Text)
    (hlines : ∀ line ∈ lines, CodePoint.ofChar '\n' ∉ line)
    (hbefore : before = [] ∨ before.getLast? = some (CodePoint.ofChar '\n'))
    (h : (spansOnto [] before.length lines)[k]? = some s) :
    s.IsLine (before ++ Text.join [CodePoint.ofChar '\n'] lines)
      (before.count (CodePoint.ofChar '\n') + k + 1) := by
  induction lines generalizing before k with
  | nil => simp [spansOnto] at h
  | cons line rest ih =>
    obtain ⟨hline, hrest⟩ := List.forall_mem_cons.1 hlines
    rw [spansOnto_cons] at h
    cases rest with
    | nil =>
      cases k with
      | zero =>
        obtain rfl := Option.some.inj h
        have last := isLine_append before [] hline hbefore (.inl rfl)
        simpa [Text.join] using last
      | succ k => simp [spansOnto] at h
    | cons next rest =>
      rw [Text.join, List.intercalate_cons_cons, ← Text.join]
      cases k with
      | zero =>
        obtain rfl := Option.some.inj h
        have later : (CodePoint.ofChar '\n' :: Text.join [CodePoint.ofChar '\n']
            (next :: rest)).head? = some (CodePoint.ofChar '\n') := rfl
        have first := isLine_append before _ hline hbefore (.inr later)
        simpa using first
      | succ k =>
        -- For the later lines, this one and its line feed are part of what precedes them.
        have none : line.count (CodePoint.ofChar '\n') = 0 := List.count_eq_zero.2 hline
        have later := ih (before ++ line ++ [CodePoint.ofChar '\n']) (k := k) hrest
          (.inr (by simp)) (by simpa [Nat.add_assoc] using h)
        simpa [none, Nat.add_assoc, Nat.add_comm, Nat.add_left_comm] using later

/-- The spans of a text are the spans of its lines. -/
theorem Text.isLine_of_lineSpans (h : t.lineSpans[k]? = some s) : s.IsLine t (k + 1) := by
  have feeds : ∀ line ∈ t.lines, CodePoint.ofChar '\n' ∉ line :=
    fun line hline => lineFeed_not_mem_of_mem_lines hline
  rw [lineSpans, List.getElem?_toArray] at h
  have found := isLine_of_mem_spansOnto [] feeds (.inl rfl) h
  simpa [join_lines] using found

@[simp] theorem Text.size_lineSpans (t : Text) :
    t.lineSpans.size = t.count (CodePoint.ofChar '\n') + 1 := by
  rw [lineSpans, List.size_toArray, length_spansOnto, length_lines]

/-- There is a span for each line of a text, and for no number but those of its lines. -/
theorem Span.isLine_iff : s.IsLine t (k + 1) ↔ t.lineSpans[k]? = some s := by
  constructor
  · intro h
    -- The line with this number has a span among those of the text, and there is no other.
    have number := h.number
    have bound : t.feedsBefore s.start ≤ t.feedsBefore t.length :=
      Text.feedsBefore_le (h.start_le_stop.trans h.stop_le)
    rw [Text.feedsBefore_length] at bound
    have counted : k < t.lineSpans.size := by
      rw [Text.size_lineSpans]
      omega
    have found := Array.getElem?_eq_getElem counted
    rw [found, (Text.isLine_of_lineSpans found).unique h]
  · exact Text.isLine_of_lineSpans

end Lines

/-- Spans that cover a text line by line. -/
structure Span.Tile (t : Text) (spans : Array Span) : Prop where
  size : spans.size = t.count (CodePoint.ofChar '\n') + 1
  isLine_iff : ∀ (k : Nat) (s : Span), spans[k]? = some s ↔ s.IsLine t (k + 1)
  first : ∃ s, spans[0]? = some s ∧ s.start = 0
  next : ∀ (k : Nat) (s s' : Span), spans[k]? = some s → spans[k + 1]? = some s' →
    s'.start = s.stop + 1
  last : ∃ s, spans.back? = some s ∧ s.stop = t.length
  /-- Each position belongs to one line. -/
  covers : ∀ i ≤ t.length, ∃! k : Nat, ∃ s, spans[k]? = some s ∧ s.start ≤ i ∧ i ≤ s.stop

/-- The spans of a text cover it without gaps and without overlaps. -/
theorem Text.tile_lineSpans (t : Text) : Span.Tile t t.lineSpans := by
  have size := t.size_lineSpans
  have found (k : Nat) (hk : k ≤ t.count (CodePoint.ofChar '\n')) :
      ∃ s, t.lineSpans[k]? = some s ∧ s.IsLine t (k + 1) := by
    have span := Array.getElem?_eq_getElem (show k < t.lineSpans.size by omega)
    exact ⟨_, span, isLine_of_lineSpans span⟩
  constructor
  · exact size
  · exact fun k s => Span.isLine_iff.symm
  · obtain ⟨s, hs, first⟩ := found 0 (Nat.zero_le _)
    exact ⟨s, hs, first.start_eq_zero⟩
  · intro k s s' hs hs'
    exact (isLine_of_lineSpans hs).start_eq (isLine_of_lineSpans hs')
  · obtain ⟨s, hs, last⟩ := found _ le_rfl
    refine ⟨s, ?_, last.stop_eq_length⟩
    rw [Array.back?_eq_getElem?, size, Nat.add_sub_cancel, hs]
  · intro i hi
    have bound : t.feedsBefore i ≤ t.feedsBefore t.length := feedsBefore_le hi
    rw [feedsBefore_length] at bound
    obtain ⟨s, hs, line⟩ := found _ bound
    refine ⟨t.feedsBefore i, ⟨s, hs, (line.contains_iff hi).2 rfl⟩, ?_⟩
    rintro k ⟨s', hs', inside⟩
    have number := ((isLine_of_lineSpans hs').contains_iff hi).1 inside
    omega

/-! ### Diagnostics of any report -/

namespace Diagnostic

variable {content : Text} {f : Finding}

/-- A diagnostic stands at the line of a finding, or at the first line if the finding is about no
line. -/
structure IsAnchored (content : Text) (d : Diagnostic) (f : Finding) : Prop where
  message : d.message = f.message
  severity : d.severity = f.severity
  line : (d.line : Int) = max 1 f.line
  span : d.span.IsLine content d.line

theorem exists_isAnchored (h : max 1 f.line ≤ content.count (CodePoint.ofChar '\n') + 1) :
    ∃ d, ofFinding? content.lineSpans f = some d ∧ IsAnchored content d f := by
  -- The line that the finding is shown at, from one on.
  obtain ⟨k, hk⟩ : ∃ k : Nat, max 1 f.line = k + 1 := ⟨(max 1 f.line).toNat - 1, by omega⟩
  have number : (if 0 < f.line then f.line.toNat else 1) = k + 1 := by
    split <;> omega
  have bound : k < content.lineSpans.size := by
    rw [Text.size_lineSpans]
    omega
  obtain ⟨span, hspan⟩ : ∃ span, content.lineSpans[k]? = some span :=
    ⟨_, Array.getElem?_eq_getElem bound⟩
  refine ⟨⟨k + 1, span, f.severity, f.message⟩, ?_, ?_⟩
  · simp only [ofFinding?, number, Nat.add_sub_cancel, hspan, Option.map_some]
  · exact ⟨rfl, rfl, hk.symm, Text.isLine_of_lineSpans hspan⟩

theorem ofFinding?_eq_none (h : content.count (CodePoint.ofChar '\n') + 1 < max 1 f.line) :
    ofFinding? content.lineSpans f = none := by
  have behind : content.lineSpans.size ≤ (if 0 < f.line then f.line.toNat else 1) - 1 := by
    rw [Text.size_lineSpans]
    split <;> omega
  simp only [ofFinding?, Array.getElem?_eq_none behind, Option.map_none]

/-- A report on a document is shown in full as far as the document has lines: the errors and then the
warnings have one diagnostic each, at the span of the line that they name, and those that name a
line behind the last one have none. The spans of the lines cover the document. -/
theorem ofReport_anchors (content : Text) (r : Report) :
    List.Forall₂ (IsAnchored content) (ofReport content r)
        ((r.errors ++ r.warnings).filter fun f =>
          max 1 f.line ≤ content.count (CodePoint.ofChar '\n') + 1) ∧
      Span.Tile content content.lineSpans := by
  refine ⟨?_, content.tile_lineSpans⟩
  rw [ofReport, Report.findings]
  induction r.errors ++ r.warnings with
  | nil => exact .nil
  | cons f fs ih =>
    by_cases within : max 1 f.line ≤ content.count (CodePoint.ofChar '\n') + 1
    · obtain ⟨d, hd, anchored⟩ := exists_isAnchored within
      rw [List.filterMap_cons_some hd, List.filter_cons_of_pos (by simpa using within)]
      exact .cons anchored ih
    · rw [List.filterMap_cons_none (ofFinding?_eq_none (by omega)),
        List.filter_cons_of_neg (by simpa using within)]
      exact ih

/-- An empty line in the middle, a line feed at the end, and findings about no line and about a line
that is not there. -/
example : ofReport "a\n\nb\n"
      ⟨[.error 5 "e", .error (-2) "f"], [.warning 4 "g", .warning 2 "h"]⟩ =
    [⟨1, ⟨0, 1⟩, .error, "f"⟩, ⟨4, ⟨5, 5⟩, .warning, "g"⟩, ⟨2, ⟨2, 2⟩, .warning, "h"⟩] := by
  decide

end Diagnostic

end RobotsExclusion
