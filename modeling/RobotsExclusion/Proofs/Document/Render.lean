import RobotsExclusion.Proofs.Document.Attempt
import RobotsExclusion.Proofs.Document.Message
import RobotsExclusion.Proofs.Document.Order
import RobotsExclusion.Proofs.Report.Render
import RobotsExclusion.Proofs.Text.LowerCase.Blank
import Mathlib.Tactic.FinCases

/-!
# Reports told by their text

Every message of a report fits a line of its text and can be encoded. Most messages are fixed. The
one about an unknown name shows what stands before the first colon of a line: the line has no line
feed, lower-casing does not bring one in, and surrogates are spelled out in digits. So the text of a
report on a document tells all of it.

## Main definitions

* `Text.IsPlain` — no line feed and no surrogate
* `Finding.ArePlain` — findings whose messages are plain

## Main results

* `Document.isPlain_of_isFixed`, `Line.isPlain_of_shows` — fixed messages, and those with a name
* `Document.arePlain_check` — the messages of every report are plain
* `Document.render_loses_nothing` — what the text tells, and that it tells all of a report
-/

namespace RobotsExclusion

namespace Text

variable {t u name : Text} {c d : CodePoint}

/-- A text without line feeds and without surrogates. -/
def IsPlain (t : Text) : Prop := ∀ c ∈ t, c ≠ CodePoint.ofChar '\n' ∧ c.isSurrogate = false

instance (t : Text) : Decidable t.IsPlain := inferInstanceAs (Decidable (∀ c ∈ t, _ ∧ _))

theorem IsPlain.append (h : t.IsPlain) (h' : u.IsPlain) : (t ++ u).IsPlain :=
  fun c hc => (List.mem_append.1 hc).elim (h c) (h' c)

/-- A string has no surrogates, so that only its line feeds count. It is given by its characters, to
which a literal is opened at once. -/
theorem isPlain_ofList {cs : List Char} (h : '\n' ∉ cs) : (ofString (String.ofList cs)).IsPlain := by
  rw [ofString, String.toList_ofList]
  intro c hc
  obtain ⟨x, hx, rfl⟩ := List.mem_map.1 hc
  exact ⟨fun feed => h (CodePoint.ofChar_injective feed ▸ hx), CodePoint.isSurrogate_ofChar x⟩

/-- A surrogate is spelled out in digits. -/
theorem isPlain_spelled (c : CodePoint) : (spelled c).IsPlain := by
  refine fun d hd => ⟨?_, isSurrogate_of_mem_spelled hd⟩
  rintro rfl
  rw [spelled, List.mem_append] at hd
  rcases hd with start | digits
  · revert start
    decide
  · cases isHexDigit_of_mem_hex digits

theorem isPlain_escapeSurrogates (h : CodePoint.ofChar '\n' ∉ name) :
    name.escapeSurrogates.IsPlain := by
  intro d hd
  obtain ⟨c, hc, hd⟩ := List.mem_flatMap.1 hd
  split at hd
  case isTrue => exact isPlain_spelled c d hd
  case isFalse plain =>
    obtain rfl := List.mem_singleton.1 hd
    exact ⟨fun feed => h (feed ▸ hc), eq_false_of_ne_true plain⟩

end Text

/-! ### Plain messages -/

/-- The messages of the findings are plain. -/
def Finding.ArePlain (fs : List Finding) : Prop := ∀ f ∈ fs, f.message.IsPlain

/-- The messages that are the same for all documents are plain. -/
theorem Document.isPlain_of_isFixed {message : Text} (h : IsFixed message) : message.IsPlain := by
  obtain ⟨s, hs, rfl⟩ := h
  fin_cases hs <;> exact Text.isPlain_ofList (by decide)

theorem Directive.isPlain_token (d : Directive) : d.token.IsPlain := by cases d <;> decide

/-! ### Lines -/

namespace Line

variable {line : Text}

/-- A line feed in a name stood in the line before. -/
theorem lineFeed_not_mem_nameOf (h : CodePoint.ofChar '\n' ∉ line) :
    CodePoint.ofChar '\n' ∉ nameOf line := by
  intro feed
  -- A line feed is below the letters, so that lower-casing does not lead to it.
  have trimmed := Text.mem_of_mem_trim (Text.mem_of_mem_lower feed (by decide))
  exact h ((List.takeWhile_sublist _).subset trimmed)

/-- What is put around a name does not spoil it. -/
theorem isPlain_around {before after : List Char} {t : Text} (h : t.IsPlain)
    (hbefore : '\n' ∉ before) (hafter : '\n' ∉ after) :
    Text.IsPlain (String.ofList before ++ t ++ String.ofList after) :=
  .append (.append (Text.isPlain_ofList hbefore) h) (Text.isPlain_ofList hafter)

/-- A message that shows the name in a line is plain. -/
theorem isPlain_of_shows {message : Text} (h : CodePoint.ofChar '\n' ∉ line)
    (shows : Shows line message) : message.IsPlain := by
  cases shows with
  | unknown _ =>
    have shown := Text.isPlain_escapeSurrogates (lineFeed_not_mem_nameOf h)
    exact isPlain_around shown (by decide) (by decide)
  | @nonstandard d _ _ => exact isPlain_around d.isPlain_token (by decide) (by decide)
  | @orphan d _ _ => exact isPlain_around d.isPlain_token (by decide) (by decide)

end Line

/-! ### Documents -/

namespace Document

/-- The messages of every report are plain: lines have no line feeds, and so the names in them have
none. -/
theorem arePlain_check (content : Text) : Finding.ArePlain (check content).findings := by
  intro f hf
  rcases message_of_mem_check hf with fixed | ⟨k, line, -, hline, shows⟩
  · exact isPlain_of_isFixed fixed
  · obtain ⟨raw, hraw, rfl⟩ := List.mem_map.1 (List.mem_of_getElem? hline)
    have feed := Text.lineFeed_not_mem_of_mem_lines hraw
    exact Line.isPlain_of_shows (mt Text.mem_of_mem_trim feed) shows

theorem fitsLines_check (content : Text) : (check content).FitsLines :=
  fun f hf feed => (arePlain_check content f hf _ feed).1 rfl

/-- Reports with the same text are the same. -/
theorem check_eq_of_render_eq {a b : Text} (h : (check a).render = (check b).render) :
    check a = check b := by
  obtain ⟨errors, warnings⟩ :=
    Report.contents_eq_of_render_eq (fitsLines_check a) (fitsLines_check b) h
  -- The severity is not in the text, but the section tells it.
  have orderly := (check_isOrderly a).1
  have orderly' := (check_isOrderly b).1
  have errors := Finding.eq_of_map_content orderly.errors_severity orderly'.errors_severity errors
  have warnings :=
    Finding.eq_of_map_content orderly.warnings_severity orderly'.warnings_severity warnings
  calc check a
      = ⟨(check a).errors, (check a).warnings⟩ := rfl
    _ = ⟨(check b).errors, (check b).warnings⟩ := congrArg₂ Report.mk errors warnings
    _ = check b := rfl

/-- The text of a report loses nothing. If no message has a line feed, the line numbers and the
messages of the errors and of the warnings are told by the text. No message of a report on a
document has a line feed or a surrogate, and so two documents have the same report exactly if they
have the same text. -/
theorem render_loses_nothing :
    (∀ r s : Report, r.FitsLines → s.FitsLines → r.render = s.render →
      r.errors.map Finding.content = s.errors.map Finding.content ∧
        r.warnings.map Finding.content = s.warnings.map Finding.content) ∧
    (∀ content, ∀ f ∈ (check content).findings, f.message.IsPlain) ∧
    ∀ a b, (check a).render = (check b).render ↔ check a = check b :=
  ⟨fun _ _ hr hs h => Report.contents_eq_of_render_eq hr hs h, arePlain_check,
    fun _ _ => ⟨check_eq_of_render_eq, congrArg Report.render⟩⟩

/-- An error and a warning in the section of the errors. The text does not tell them apart, but it
does tell what they say. -/
theorem render_loses_nothing_severity :
    let r : Report := ⟨[.error 1 "a: b"], []⟩
    let s : Report := ⟨[.warning 1 "a: b"], []⟩
    r.FitsLines ∧ s.FitsLines ∧ r.render = s.render ∧ r ≠ s ∧
      r.errors.map Finding.content = s.errors.map Finding.content ∧
      r.warnings.map Finding.content = s.warnings.map Finding.content := by
  intro r s
  have hr : r.FitsLines := by decide
  have hs : s.FitsLines := by decide
  have same : r.render = s.render := rfl
  exact ⟨hr, hs, same, by decide, render_loses_nothing.1 r s hr hs same⟩

/-- A message with a line feed can look like two findings. -/
example : (Report.mk [.error 1 "a\n  Line 2: b"] []).render =
    (Report.mk [.error 1 "a", .error 2 "b"] []).render := by
  decide +kernel

end Document

end RobotsExclusion
