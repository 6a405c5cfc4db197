import RobotsExclusion.CommandLine.Check
import RobotsExclusion.Proofs.Document.Json
import RobotsExclusion.Proofs.Text.ControlSequence

/-!
# What can be written

The standard output is encoded as UTF-8, which has no surrogates. Reports on documents can be written,
in JSON, which is ASCII alone, and in plain text, since no message has a surrogate. Names of files can
hold surrogates, and a heading shows its name as it is.

## Main definitions

* `Text.IsEncodable` — a text without surrogates
* `Reports.AreOnDocuments` — reports that come from documents
* `OutputFormat.CanShow` — names that can be shown in a format

## Main results

* `Outcome.writing_of_isEncodable`, `Outcome.writing_append_cons` — texts that are all written, and
  one at which a run breaks off
* `Reports.isEncodable_heading_iff` — a heading can be written exactly if its name can
* `Reports.isEncodable_of_mem_output` — reports can be written if their names can be shown
* `Reports.exists_ending_of_not_canShow` — where a run breaks off if they cannot
-/

namespace RobotsExclusion

/-! ### Texts without surrogates -/

namespace Text

variable {t u : Text}

/-- A text that UTF-8 can hold. -/
def IsEncodable (t : Text) : Prop := ∀ c ∈ t, c.isSurrogate = false

instance (t : Text) : Decidable t.IsEncodable := inferInstanceAs (Decidable (∀ c ∈ t, _))

theorem isEncodable_append_iff : (t ++ u).IsEncodable ↔ t.IsEncodable ∧ u.IsEncodable :=
  List.forall_mem_append

theorem isEncodable_ofString (s : String) : (ofString s).IsEncodable := by
  intro c hc
  obtain ⟨x, -, rfl⟩ := List.mem_map.1 hc
  exact CodePoint.isSurrogate_ofChar x

theorem isAscii_eq_false_of_isSurrogate {c : CodePoint} (h : c.isSurrogate = true) :
    c.isAscii = false := by
  simp only [CodePoint.isSurrogate, CodePoint.isAscii, Bool.and_eq_true, decide_eq_true_eq,
    decide_eq_false_iff_not] at h ⊢
  omega

theorem IsAscii.isEncodable (h : t.IsAscii) : t.IsEncodable := by
  intro c hc
  by_contra surrogate
  cases (h c hc).symm.trans (isAscii_eq_false_of_isSurrogate (eq_true_of_ne_false surrogate))

/-- Control sequences have no surrogates. -/
theorem isEncodable_dropControlSequences_iff :
    t.dropControlSequences.IsEncodable ↔ t.IsEncodable := by
  have kept {c : CodePoint} (h : ¬ c.isSurrogate = false) : c ∈ t.dropControlSequences ↔ c ∈ t :=
    mem_dropControlSequences_iff (isAscii_eq_false_of_isSurrogate (eq_true_of_ne_false h))
  constructor
  · intro h c hc
    by_contra surrogate
    exact surrogate (h c ((kept surrogate).2 hc))
  · intro h c hc
    by_contra surrogate
    exact surrogate (h c ((kept surrogate).1 hc))

end Text

theorem Utf8.unencodable?_eq_none_iff {t : Text} : unencodable? t = none ↔ t.IsEncodable := by
  have plain : t.dropWhile (fun c => !c.isSurrogate) = [] ↔ t.IsEncodable := by
    simp [List.dropWhile_eq_nil_iff, Text.IsEncodable]
  rw [← plain, unencodable?]
  split
  case h_1 h => exact iff_of_true rfl h
  case h_2 c rest h =>
    rw [h]
    exact iff_of_false (Option.some_ne_none _) (List.cons_ne_nil c rest)

/-! ### Runs that write -/

namespace Outcome

variable {texts before : List Text} {t : Text} {u : Utf8.Unencodable}

/-- Texts without surrogates are written before everything else, and the run goes on. -/
theorem writing_append (h : ∀ t ∈ before, t.IsEncodable) (after : List Text) (messages : Text)
    (ending : Ending) :
    writing (before ++ after) messages ending =
      ⟨before.flatten ++ (writing after messages ending).output, messages.escapeSurrogates,
        (writing after messages ending).ending, none⟩ := by
  have accepted : ∀ t ∈ before, Utf8.unencodable? t = none :=
    fun t ht => Utf8.unencodable?_eq_none_iff.2 (h t ht)
  rw [writing, List.findSome?_append, List.findSome?_eq_none_iff.2 accepted, Option.none_or,
    List.takeWhile_append_of_pos, List.flatten_append]
  · rfl
  · exact fun t ht => Option.isNone_iff_eq_none.2 (accepted t ht)

/-- Texts without surrogates are all written. -/
theorem writing_of_isEncodable (h : ∀ t ∈ texts, t.IsEncodable) (messages : Text)
    (ending : Ending) :
    writing texts messages ending = ⟨texts.flatten, messages.escapeSurrogates, ending, none⟩ := by
  have all := writing_append h [] messages ending
  rw [List.append_nil] at all
  rw [all]
  simp [writing]

/-- A text with surrogates breaks a run off. What stands before it is written. -/
theorem writing_append_cons (h : ∀ t ∈ before, t.IsEncodable) (hu : Utf8.unencodable? t = some u)
    (after : List Text) (messages : Text) (ending : Ending) :
    writing (before ++ t :: after) messages ending =
      ⟨before.flatten, messages.escapeSurrogates, .failure (.unencodable u), none⟩ := by
  rw [writing_append h]
  simp [writing, hu]

end Outcome

/-! ### Reports -/

theorem Report.isEncodable_renderSection (heading : String) {fs : List Finding}
    (h : ∀ f ∈ fs, f.message.IsEncodable) : (renderSection heading fs).IsEncodable := by
  rw [renderSection]
  split
  case isTrue => exact List.forall_mem_nil _
  case isFalse =>
    refine Text.isEncodable_append_iff.2 ⟨Text.isEncodable_append_iff.2
      ⟨Text.isEncodable_ofString heading, by decide⟩, fun c hc => ?_⟩
    obtain ⟨f, hf, hc⟩ := List.mem_flatMap.1 hc
    have number : (Text.ofInt f.line).IsEncodable := (Json.isAscii_ofInt f.line).isEncodable
    have finding : (renderFinding f).IsEncodable := by
      simp only [renderFinding, Text.isEncodable_append_iff, number, h f hf]
      decide
    exact finding c hc

/-- A report can be written if its messages can. -/
theorem Report.isEncodable_render {r : Report} (h : ∀ f ∈ r.findings, f.message.IsEncodable) :
    r.render.IsEncodable := by
  have errors := isEncodable_renderSection "Errors" fun f hf => h f (List.mem_append_left _ hf)
  have warnings := isEncodable_renderSection "Warnings" fun f hf => h f (List.mem_append_right _ hf)
  rw [render]
  split
  case isTrue => exact Text.isEncodable_ofString _
  case isFalse =>
    dsimp only
    split
    case isTrue => exact Text.isEncodable_append_iff.2 ⟨errors, warnings⟩
    case isFalse =>
      refine Text.isEncodable_append_iff.2 ⟨Text.isEncodable_append_iff.2 ⟨errors, ?_⟩, warnings⟩
      decide

namespace Reports

variable {rs before : Reports} {r : Report} {name : Text} {headed : Bool}

/-- All reports come from documents. -/
def AreOnDocuments (rs : Reports) : Prop := ∀ entry ∈ rs, ∃ content, entry.2 = Document.check content

/-- A report on a document can be written. -/
theorem isEncodable_body (content : Text) : (body (Document.check content)).IsEncodable := by
  have rendered : (Document.check content).render.IsEncodable :=
    Report.isEncodable_render fun f hf c hc => (Document.arePlain_check content f hf c hc).2
  refine Text.isEncodable_dropControlSequences_iff.2 (Text.isEncodable_append_iff.2 ⟨?_, by decide⟩)
  intro c hc
  have within := (List.dropWhile_sublist _).subset (List.mem_reverse.1 hc)
  exact rendered c (List.mem_reverse.1 within)

/-- A heading can be written exactly if its name can. -/
theorem isEncodable_heading_iff : (heading name).IsEncodable ↔ name.IsEncodable := by
  have before : Text.IsEncodable "==> " := by decide
  have after : Text.IsEncodable " <==\n" := by decide
  rw [heading, Text.isEncodable_dropControlSequences_iff, Text.isEncodable_append_iff,
    Text.isEncodable_append_iff, and_iff_left after, and_iff_right before]

/-- JSON is ASCII alone, whatever the names are. -/
theorem isAscii_json (h : rs.AreOnDocuments) : rs.json.IsAscii := by
  refine .append (Json.isAscii_printAt_object (List.forall_mem_map.2 fun entry hentry => ?_))
    (by decide)
  obtain ⟨content, report⟩ := h entry hentry
  rw [report]
  exact Json.isAscii_printAt (Document.isLegible_toJson content) 1

theorem isEncodable_of_mem_texts (h : rs.AreOnDocuments)
    (names : headed = true → ∀ entry ∈ rs, entry.1.IsEncodable) :
    ∀ t ∈ rs.texts headed, t.IsEncodable := by
  intro t ht
  obtain ⟨⟨name, r⟩, hentry, ht⟩ := List.mem_flatMap.1 ht
  obtain ⟨content, rfl⟩ := h _ hentry
  cases headed with
  | false =>
    obtain rfl := List.mem_singleton.1 ht
    exact isEncodable_body content
  | true =>
    rcases List.mem_pair.1 ht with rfl | rfl
    · exact isEncodable_heading_iff.2 (names rfl _ hentry)
    · exact isEncodable_body content

end Reports

/-- Names that a format can show: plain text shows them if there are several, and cannot show
surrogates. -/
def OutputFormat.CanShow (format : OutputFormat) (names : List Text) : Prop :=
  format = .text → 1 < names.length → ∀ name ∈ names, name.IsEncodable

/-- A name that stands alone is not shown. -/
theorem OutputFormat.canShow_singleton (format : OutputFormat) (name : Text) :
    format.CanShow [name] :=
  fun _ several => absurd several (Nat.lt_irrefl 1)

namespace Reports

variable {rs : Reports} {format : OutputFormat}

/-- Reports on documents can be written if their names can be shown. -/
theorem isEncodable_of_mem_output (h : rs.AreOnDocuments)
    (names : format.CanShow (rs.map (·.1))) : ∀ t ∈ rs.output format, t.IsEncodable := by
  cases format with
  | table => exact List.forall_mem_nil _
  | json => exact List.forall_mem_singleton.2 (isAscii_json h).isEncodable
  | text =>
    refine isEncodable_of_mem_texts h fun several => ?_
    rw [decide_eq_true_eq, ← List.length_map (·.1)] at several
    exact List.forall_mem_map.1 (names rfl several)

/-- If they cannot be shown, a run breaks off at the heading of the first one that cannot. -/
theorem exists_ending_of_not_canShow (h : rs.AreOnDocuments)
    (names : ¬ format.CanShow (rs.map (·.1))) (messages : Text) (ending : Ending) :
    ∃ before name after u, rs.map (·.1) = before ++ name :: after ∧
      (∀ n ∈ before, n.IsEncodable) ∧ Utf8.unencodable? (heading name) = some u ∧
      (Outcome.writing (rs.output format) messages ending).ending = .failure (.unencodable u) := by
  simp only [OutputFormat.CanShow, Classical.not_imp, not_forall] at names
  obtain ⟨rfl, several, name, hname, surrogate⟩ := names
  obtain ⟨entry, hentry, rfl⟩ := List.mem_map.1 hname
  have some_unfit : ∃ entry ∈ rs, decide (¬ entry.1.IsEncodable) = true :=
    ⟨entry, hentry, decide_eq_true surrogate⟩
  -- A name that cannot be shown need not be the first one, and it is the first one that counts.
  obtain ⟨first, hfirst⟩ := Option.isSome_iff_exists.1 (List.find?_isSome.2 some_unfit)
  obtain ⟨unfit, before, after, rfl, fit⟩ := List.find?_eq_some_iff_append.1 hfirst
  have encodable : ∀ entry ∈ before, entry.1.IsEncodable := fun entry hentry => by
    simpa using fit entry hentry
  have refused : Utf8.unencodable? (heading first.1) ≠ none := fun accepted =>
    of_decide_eq_true unfit (isEncodable_heading_iff.1 (Utf8.unencodable?_eq_none_iff.1 accepted))
  obtain ⟨u, hu⟩ := Option.ne_none_iff_exists'.1 refused
  rw [List.length_map] at several
  have split : output (before ++ first :: after) .text =
      texts true before ++ heading first.1 :: body first.2 :: texts true after := by
    rw [output, decide_eq_true several]
    exact List.flatMap_append
  have written : ∀ t ∈ texts true before, t.IsEncodable :=
    isEncodable_of_mem_texts (fun entry hentry => h entry (List.mem_append_left _ hentry))
      fun _ => encodable
  refine ⟨before.map (·.1), first.1, after.map (·.1), u, List.map_append, ?_, hu, ?_⟩
  · exact List.forall_mem_map.2 encodable
  · rw [split, Outcome.writing_append_cons written hu]

end Reports

end RobotsExclusion
