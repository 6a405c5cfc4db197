import RobotsExclusion.Line
import RobotsExclusion.Proofs.Check
import RobotsExclusion.Proofs.Text.Blank
import RobotsExclusion.Proofs.Text.Cut
import RobotsExclusion.Proofs.Text.LowerCase

/-!
# What a line means

A trimmed line is silent, lacks a colon, or has a name and a value around its first colon. What is
found in it depends on nothing else but whether an earlier line names a user agent, and splits into
errors and warnings that are stated here case by case.

## Main definitions

* `Line.IsSilent` — an empty line or a comment
* `Line.nameOf`, `Line.valueOf` — what stands around the first colon
* `Line.Names` — the line is a rule with the name of a directive
* `Directive.ofToken?` — the directive with exactly this name
* `Line.errors`, `Line.warnings` — what is wrong with a line

## Main results

* `Directive.ofName?_lower` — looking a lower-case name up does not lower-case it any further
* `Line.opensGroup_ofText_iff` — a line opens a group if and only if it names a user agent
* `Line.filter_error_findings`, `Line.filter_warning_findings` — the findings by severity
* `Line.line_eq_of_mem_findings` — every finding of a line carries its number
* `Line.finds_errors`, `Line.finds_warnings`, `Line.errors_eq_nil_or_warnings_eq_nil` — how much can
  be found in a line
-/

namespace RobotsExclusion

namespace Text

variable {c : CodePoint}

theorem exists_trim_cons (h : c.isBlank = false) (t : Text) :
    ∃ rest, trim (c :: t) = c :: rest :=
  ⟨t.trimRight, trim_append_cons h [] t⟩

end Text

namespace Directive

variable {d : Directive} {name : Text}

/-- The directive with exactly this name. -/
def ofToken? (name : Text) : Option Directive := all.find? fun d => d.token = name

theorem mem_all (d : Directive) : d ∈ all := by cases d <;> decide

theorem token_injective : ∀ d ∈ all, ∀ e ∈ all, d.token = e.token → d = e := by decide

theorem ofToken?_eq_some_iff : ofToken? name = some d ↔ d.token = name := by
  unfold ofToken?
  constructor
  · intro h
    simpa using List.find?_some h
  · rintro rfl
    cases h : all.find? fun e => e.token = d.token with
    | none =>
      have := List.find?_eq_none.1 h d (mem_all d)
      simp at this
    | some e =>
      have same : e.token = d.token := by simpa using List.find?_some h
      rw [token_injective e (mem_all e) d (mem_all d) same]

/-- Looking a lower-case name up does not lower-case it any further. -/
theorem ofName?_lower (t : Text) : ofName? t.lower = ofToken? t.lower := by
  rw [ofName?, Text.lower_lower, ofToken?]

theorem needsGroup_iff : d.needsGroup = true ↔ d = .allow ∨ d = .disallow := by
  cases d <;> decide

end Directive

namespace Line

variable {d : Directive} {line t : Text} {opened : Bool} {number : Int}

/-- A trimmed line without content: an empty one or a comment. -/
def IsSilent (line : Text) : Prop := line = [] ∨ line.head? = some (CodePoint.ofChar '#')

/-- What stands before the first colon of a trimmed line, without outer blanks and in lower
case. -/
def nameOf (line : Text) : Text := (line.before ':').trim.lower

/-- What stands behind the first colon of a trimmed line, without outer blanks. -/
def valueOf (line : Text) : Text := (line.after ':').trim

/-- The trimmed line has a colon, and the name of the directive before it. -/
def Names (d : Directive) (line : Text) : Prop :=
  CodePoint.ofChar ':' ∈ line ∧ nameOf line = d.token

instance (line : Text) : Decidable (IsSilent line) := inferInstanceAs (Decidable (_ ∨ _))

instance (d : Directive) (line : Text) : Decidable (Names d line) :=
  inferInstanceAs (Decidable (_ ∧ _))

theorem ofToken?_nameOf_iff (hcolon : CodePoint.ofChar ':' ∈ line) :
    Directive.ofToken? (nameOf line) = some d ↔ Names d line := by
  rw [Directive.ofToken?_eq_some_iff, Names, and_iff_right hcolon, eq_comm]

/-- What follows the mark of a comment is no rule, even if it has a colon. -/
theorem IsSilent.not_names (h : IsSilent line) : ¬ Names d line := by
  rintro ⟨hcolon, hname⟩
  rcases h with rfl | hash
  · cases hcolon
  · cases line with
    | nil => cases hash
    | cons c rest =>
      obtain rfl := Option.some.inj hash
      -- The mark of the comment stays in front of the name, and no directive starts with it.
      obtain ⟨after, htrim⟩ := Text.exists_trim_cons (c := CodePoint.ofChar '#') (by decide)
        (Text.before ':' rest)
      have hbefore : Text.before ':' (CodePoint.ofChar '#' :: rest) =
          CodePoint.ofChar '#' :: Text.before ':' rest :=
        List.takeWhile_cons_of_pos (by decide)
      have hhead := Text.head?_lower_of_isLower (c := CodePoint.ofChar '#') (by decide) after
      rw [nameOf, hbefore, htrim] at hname
      rw [hname] at hhead
      revert hhead
      cases d <;> decide

/-! ### Reading -/

theorem ofText_eq (t : Text) :
    ofText t = if IsSilent t.trim then .empty
      else if CodePoint.ofChar ':' ∈ t.trim then .rule (nameOf t.trim) (valueOf t.trim)
      else .malformed := by
  have hsilent : (t.trim.isEmpty || t.trim.head? = some (CodePoint.ofChar '#')) = true ↔
      IsSilent t.trim := by
    simp [IsSilent]
  rw [ofText]
  by_cases silent : IsSilent t.trim
  · rw [if_pos silent]
    exact if_pos (hsilent.2 silent)
  · rw [if_neg silent]
    refine (if_neg (mt hsilent.1 silent)).trans ?_
    by_cases hcolon : CodePoint.ofChar ':' ∈ t.trim
    · rw [if_pos hcolon, Text.cut?_of_mem hcolon]
      rfl
    · rw [if_neg hcolon, Text.cut?_of_not_mem hcolon]

/-- A line is trimmed before it is read. -/
theorem ofText_trim (t : Text) : ofText t.trim = ofText t := by
  rw [ofText_eq, Text.trim_trim, ofText_eq]

/-- A line opens a group if and only if it names a user agent. -/
theorem opensGroup_ofText_iff : (ofText t).opensGroup = true ↔ Names .userAgent t.trim := by
  rw [ofText_eq]
  by_cases silent : IsSilent t.trim
  · rw [if_pos silent]
    exact iff_of_false (by decide) silent.not_names
  · rw [if_neg silent]
    by_cases hcolon : CodePoint.ofChar ':' ∈ t.trim
    · rw [if_pos hcolon, opensGroup, decide_eq_true_iff, nameOf, Directive.ofName?_lower]
      exact ofToken?_nameOf_iff hcolon
    · rw [if_neg hcolon]
      exact iff_of_false (by decide) fun h => hcolon h.1

/-! ### Findings -/

/-- The warning about a name that the standard does not define. -/
def classification (name : Text) (number : Int) : List Finding :=
  match Directive.ofToken? name with
  | none =>
    [.warning number <| "Unknown directive '" ++ name.escapeSurrogates ++ "' (not in RFC 9309)"]
  | some d =>
    if d.category = .nonstandard then
      [.warning number <|
        "'" ++ d.token ++ "' is not part of RFC 9309 standard (may be ignored by some crawlers)"]
    else []

/-- A rule that needs a group has none. -/
def IsOrphan (opened : Bool) (d : Directive) : Prop := (d = .allow ∨ d = .disallow) ∧ opened = false

instance (opened : Bool) (d : Directive) : Decidable (IsOrphan opened d) :=
  inferInstanceAs (Decidable (_ ∧ _))

/-- The errors in a trimmed line. `opened` tells whether an earlier line names a user agent. -/
def errors (opened : Bool) (line : Text) (number : Int) : List Finding :=
  if IsSilent line then []
  else if CodePoint.ofChar ':' ∉ line then
    [.error number "Invalid format: directive must contain colon separator"]
  else
    match Directive.ofToken? (nameOf line) with
    | none => []
    | some d =>
      if IsOrphan opened d then
        [.error number <|
          "'" ++ d.token ++ "' must follow a user-agent directive (RFC 9309 Section 2.2.1)"]
      else (d.checked (valueOf line) number).filter (·.severity = .error)

/-- The warnings in a trimmed line. -/
def warnings (opened : Bool) (line : Text) (number : Int) : List Finding :=
  if IsSilent line ∨ CodePoint.ofChar ':' ∉ line then []
  else
    classification (nameOf line) number ++
      match Directive.ofToken? (nameOf line) with
      | none => []
      | some d =>
        if IsOrphan opened d then []
        else (d.checked (valueOf line) number).filter (·.severity = .warning)

theorem nameFindings_nameOf (line : Text) (number : Int) :
    nameFindings (nameOf line) number = classification (nameOf line) number := by
  rw [nameFindings, Category.ofName, nameOf, Directive.ofName?_lower, classification]
  cases hd : Directive.ofToken? (line.before ':').trim.lower with
  | none => rfl
  | some d =>
    rw [← Directive.ofToken?_eq_some_iff.1 hd]
    cases d <;> rfl

theorem valueFindings_nameOf (opened : Bool) (line value : Text) (number : Int) :
    valueFindings opened (nameOf line) value number =
      match Directive.ofToken? (nameOf line) with
      | none => []
      | some d =>
        if IsOrphan opened d then
          [.error number <|
            "'" ++ d.token ++ "' must follow a user-agent directive (RFC 9309 Section 2.2.1)"]
        else d.checked value number := by
  rw [valueFindings, nameOf, Directive.ofName?_lower]
  cases hd : Directive.ofToken? (line.before ':').trim.lower with
  | none => rfl
  | some d =>
    have horphan : (d.needsGroup && !opened) = true ↔ IsOrphan opened d := by
      rw [Bool.and_eq_true, Directive.needsGroup_iff, Bool.not_eq_true', IsOrphan]
    simp only [horphan, ← Directive.ofToken?_eq_some_iff.1 hd, Directive.checked]
    cases d.check? <;> rfl

theorem severity_of_mem_classification {name : Text} {f : Finding}
    (h : f ∈ classification name number) : f.severity = .warning := by
  unfold classification at h
  split at h
  · obtain rfl := List.mem_singleton.1 h
    rfl
  · split at h
    · obtain rfl := List.mem_singleton.1 h
      rfl
    · cases h

/-- The errors among the findings of a line. -/
theorem filter_error_findings (opened : Bool) (t : Text) (number : Int) :
    ((ofText t).findings opened number).filter (·.severity = .error) =
      errors opened t.trim number := by
  rw [ofText_eq, errors]
  by_cases silent : IsSilent t.trim
  · rw [if_pos silent, if_pos silent]
    rfl
  · rw [if_neg silent, if_neg silent]
    by_cases hcolon : CodePoint.ofChar ':' ∈ t.trim
    · have hname : (classification (nameOf t.trim) number).filter (·.severity = .error) = [] :=
        Finding.filter_error_eq_nil fun f hf => severity_of_mem_classification hf
      rw [if_pos hcolon, if_neg (not_not.2 hcolon), findings, nameFindings_nameOf,
        valueFindings_nameOf, List.filter_append, hname, List.nil_append]
      cases Directive.ofToken? (nameOf t.trim) with
      | none => rfl
      | some d =>
        dsimp only
        by_cases orphan : IsOrphan opened d
        · rw [if_pos orphan, if_pos orphan]
          rfl
        · rw [if_neg orphan, if_neg orphan]
    · rw [if_neg hcolon, if_pos hcolon]
      rfl

/-- The warnings among the findings of a line. -/
theorem filter_warning_findings (opened : Bool) (t : Text) (number : Int) :
    ((ofText t).findings opened number).filter (·.severity = .warning) =
      warnings opened t.trim number := by
  rw [ofText_eq, warnings]
  by_cases silent : IsSilent t.trim
  · rw [if_pos silent, if_pos (.inl silent)]
    rfl
  · by_cases hcolon : CodePoint.ofChar ':' ∈ t.trim
    · have hname : (classification (nameOf t.trim) number).filter (·.severity = .warning) =
          classification (nameOf t.trim) number :=
        Finding.filter_warning_eq_self fun f hf => severity_of_mem_classification hf
      rw [if_neg silent, if_pos hcolon, if_neg (by simp [silent, hcolon]), findings,
        nameFindings_nameOf, valueFindings_nameOf, List.filter_append, hname]
      cases Directive.ofToken? (nameOf t.trim) with
      | none => rfl
      | some d =>
        dsimp only
        by_cases orphan : IsOrphan opened d
        · rw [if_pos orphan, if_pos orphan]
          rfl
        · rw [if_neg orphan, if_neg orphan]
    · rw [if_neg silent, if_neg hcolon, if_pos (.inr hcolon)]
      rfl

/-! ### How much is found in a line -/

theorem finds_nameFindings (name : Text) : Finds 1 (nameFindings name) := by
  unfold nameFindings
  cases Category.ofName name with
  | standard => exact .nil
  | nonstandard => exact .warning _
  | unknown => exact .warning _

theorem finds_valueFindings (opened : Bool) (name value : Text) :
    Finds 3 (valueFindings opened name value) := by
  unfold valueFindings
  cases Directive.ofName? name with
  | none => exact .nil
  | some d =>
    have checked : Finds 3 (d.checked value) := (d.finds_checked value).mono (by split <;> decide)
    have one : 1 ≤ 3 := by decide
    refine .ite ((Finds.error _).mono one) ?_
    unfold Directive.checked at checked
    cases hcheck : d.check? with
    | none => exact .nil
    | some check => simpa only [hcheck, Option.map_some, Option.getD_some] using checked

/-- Every finding of a line carries its number. -/
theorem line_eq_of_mem_findings {l : Line} {f : Finding} (h : f ∈ l.findings opened number) :
    f.line = number := by
  cases l with
  | empty => cases h
  | malformed =>
    obtain rfl := List.mem_singleton.1 h
    rfl
  | rule name value =>
    have rule := (finds_nameFindings name).append (finds_valueFindings opened name value)
    exact rule.line_eq_of_mem h

theorem finds_classification (name : Text) : Finds 1 (classification name) := by
  unfold classification
  cases Directive.ofToken? name with
  | none => exact .warning _
  | some d => exact .ite (.warning _) .nil

/-- The names that the standard defines are not warned about. -/
theorem classification_eq_nil {name : Text} (hd : Directive.ofToken? name = some d)
    (standard : d.category = .standard) (number : Int) : classification name number = [] := by
  have other : d.category ≠ .nonstandard := by
    rw [standard]
    exact Category.noConfusion
  rw [classification, hd]
  exact if_neg other

theorem category_of_isOrphan (h : IsOrphan opened d) : d.category = .standard := by
  rcases h.1 with rfl | rfl
  · rfl
  · rfl

/-- There is one error in a line at most. -/
theorem finds_errors (opened : Bool) (line : Text) : Finds 1 (errors opened line) := by
  unfold errors
  refine .ite .nil (.ite (.error _) ?_)
  cases Directive.ofToken? (nameOf line) with
  | none => exact .nil
  | some d =>
    have value := (d.finds_checked (valueOf line)).filter .error
    refine .ite (.error _) ⟨value.eq_map, fun number => ?_⟩
    rcases d.filter_error_checked_eq_nil_or (valueOf line) with none | ⟨-, one⟩
    · rw [none]
      exact Nat.zero_le 1
    · exact (one.filter .error).length_le number

/-- There are three warnings in a line at most: three about a path, or one about the name and one
about the value. -/
theorem finds_warnings (opened : Bool) (line : Text) : Finds 3 (warnings opened line) := by
  unfold warnings
  refine .ite .nil ?_
  cases hd : Directive.ofToken? (nameOf line) with
  | none =>
    have nothing : Finds 2 fun _ => [] := .nil
    exact (finds_classification (nameOf line)).append nothing
  | some d =>
    have value : Finds (if d.category = .standard then 3 else 1) fun number =>
        if IsOrphan opened d then []
        else (d.checked (valueOf line) number).filter (·.severity = .warning) :=
      .ite .nil ((d.finds_checked (valueOf line)).filter .warning)
    by_cases standard : d.category = .standard
    · rw [if_pos standard] at value
      simpa only [classification_eq_nil hd standard, List.nil_append] using value
    · rw [if_neg standard] at value
      exact ((finds_classification (nameOf line)).append value).mono (by decide)

/-- No line has both errors and warnings. -/
theorem errors_eq_nil_or_warnings_eq_nil (opened : Bool) (line : Text) (number : Int) :
    errors opened line number = [] ∨ warnings opened line number = [] := by
  unfold errors warnings
  by_cases silent : IsSilent line
  · exact .inl (if_pos silent)
  · by_cases hcolon : CodePoint.ofChar ':' ∈ line
    · rw [if_neg silent, if_neg (not_not.2 hcolon), if_neg (by simp [silent, hcolon])]
      cases hd : Directive.ofToken? (nameOf line) with
      | none => exact .inl rfl
      | some d =>
        dsimp only
        by_cases orphan : IsOrphan opened d
        · right
          rw [if_pos orphan, classification_eq_nil hd (category_of_isOrphan orphan)]
          rfl
        · rw [if_neg orphan, if_neg orphan]
          rcases d.filter_error_checked_eq_nil_or (valueOf line) with none | ⟨standard, one⟩
          · exact .inl (none number)
          -- What is found in the value is a single finding, which has one severity.
          · rw [classification_eq_nil hd standard, List.nil_append]
            have single := one.length_le number
            cases hfs : d.checked (valueOf line) number with
            | nil => exact .inl rfl
            | cons f rest =>
              have alone : rest = [] := by
                rw [hfs, List.length_cons] at single
                exact List.eq_nil_of_length_eq_zero (by omega)
              rw [alone]
              cases hf : f.severity with
              | error => exact .inr (by simp [hf])
              | warning => exact .inl (by simp [hf])
    · exact .inr (if_pos (.inr hcolon))

/-- The lines in which no error is found. -/
theorem errors_eq_nil_iff :
    errors opened line number = [] ↔
      (IsSilent line ∨ CodePoint.ofChar ':' ∈ line) ∧
      (Names .userAgent line → valueOf line ≠ []) ∧
      (Names .allow line ∨ Names .disallow line → opened = true) ∧
      (Names .sitemap line → Url.absoluteScheme? (valueOf line) = some ("http" : Text) ∨
        Url.absoluteScheme? (valueOf line) = some ("https" : Text)) := by
  unfold errors
  by_cases silent : IsSilent line
  · simp [silent, silent.not_names]
  · by_cases hcolon : CodePoint.ofChar ':' ∈ line
    · rw [if_neg silent, if_neg (not_not.2 hcolon), and_iff_right (.inr hcolon)]
      cases hd : Directive.ofToken? (nameOf line) with
      | none =>
        have unnamed (e : Directive) : ¬ Names e line := fun h => by
          rw [← ofToken?_nameOf_iff hcolon, hd] at h
          cases h
        simp [unnamed]
      | some d =>
        have named (e : Directive) : Names e line ↔ d = e := by
          rw [← ofToken?_nameOf_iff hcolon, hd, Option.some.injEq]
        simp only [named]
        by_cases orphan : IsOrphan opened d
        · rw [if_pos orphan]
          refine iff_of_false (by simp) fun ⟨_, grouped, _⟩ => ?_
          exact Bool.false_ne_true (orphan.2.symm.trans (grouped orphan.1))
        · have grouped : d = .allow ∨ d = .disallow → opened = true := fun needs =>
            Bool.not_eq_false _ ▸ fun closed => orphan ⟨needs, closed⟩
          rw [if_neg orphan, Directive.filter_error_checked_eq_nil_iff, and_iff_right grouped]
    · simp [silent, hcolon]

end Line

end RobotsExclusion
