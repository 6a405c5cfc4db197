import RobotsExclusion.Proofs.Document.Scan
import RobotsExclusion.Proofs.Text.LowerCase.Ascii

/-!
# Names in documents and in messages

A name is looked up after it has been lower-cased, once for the line and once more for the name. The
tokens of the directives are ASCII and have no `k`, so that nothing but the letters `A` to `Z` can
differ from them. A name that is shown as that of a directive therefore is its token, and every other
name that is shown is unknown.

## Main definitions

* `Document.messages` — the messages that are the same for all documents
* `Line.Shows` — the messages that show a name

## Main results

* `Directive.ofName?_eq_some_iff` — the names of a directive
* `Line.eq_token_of_ofText` — the name that a line keeps
* `Document.message_of_mem_check` — every message of a report
* `Document.names_are_tokens` — what is recognised, and what is shown of it
-/

namespace RobotsExclusion

/-! ### Names -/

namespace Directive

variable {d : Directive} {name : Text}

/-- No directive has a letter that is lower-cased from beyond ASCII. -/
theorem isAscii_token (d : Directive) : ∀ x ∈ d.token, x.isAscii = true ∧ x ≠ CodePoint.smallK := by
  cases d <;> decide

/-- A directive is named by its token, whatever the case of the letters of ASCII. -/
theorem ofName?_eq_some_iff : ofName? name = some d ↔ name.map CodePoint.asciiLower = d.token := by
  rw [← Text.lower_eq_iff_of_isAscii d.isAscii_token]
  exact ofToken?_eq_some_iff.trans eq_comm

theorem ofName?_eq_none_iff :
    ofName? name = none ↔ ∀ d : Directive, name.map CodePoint.asciiLower ≠ d.token := by
  simp only [Option.eq_none_iff_forall_ne_some, ne_eq, ofName?_eq_some_iff]

theorem category_ne_unknown (d : Directive) : d.category ≠ .unknown := by cases d <;> decide

/-- A name has no category of its own exactly if it names no directive. -/
theorem category_ofName_eq_unknown_iff : Category.ofName name = .unknown ↔ ofName? name = none := by
  rw [Category.ofName]
  cases ofName? name with
  | none => exact iff_of_true rfl rfl
  | some d => exact iff_of_false d.category_ne_unknown (Option.some_ne_none d)

/-- A name with a character beyond ASCII is no directive. -/
theorem ofName?_of_not_isAscii (h : ∃ c ∈ name, c.isAscii = false) : ofName? name = none := by
  rw [ofName?_eq_none_iff]
  rintro d same
  obtain ⟨c, hc, beyond⟩ := h
  have within := (d.isAscii_token c.asciiLower (same ▸ List.mem_map_of_mem hc)).1
  rw [CodePoint.isAscii_asciiLower, beyond] at within
  cases within

end Directive

/-- A line keeps the name of a directive as its token. -/
theorem Line.eq_token_of_ofText {d : Directive} {t name value : Text}
    (h : Line.ofText t = .rule name value) (hd : Directive.ofName? name = some d) :
    name = d.token := by
  rw [ofText_eq] at h
  split at h
  · cases h
  · split at h
    · cases h
      rw [nameOf, Directive.ofName?_lower] at hd
      exact (Directive.ofToken?_eq_some_iff.1 hd).symm
    · cases h

/-! ### Messages -/

/-- The messages of the findings have a property. -/
def Finding.AllSay (P : Text → Prop) (fs : List Finding) : Prop := ∀ f ∈ fs, P f.message

namespace Finding.AllSay

variable {P Q : Text → Prop} {fs gs : List Finding} {number : Int} {message : Text}

theorem nil : AllSay P [] := fun _ hf => absurd hf List.not_mem_nil

theorem error (h : P message) : AllSay P [.error number message] := List.forall_mem_singleton.2 h

theorem warning (h : P message) : AllSay P [.warning number message] :=
  List.forall_mem_singleton.2 h

theorem append (h : AllSay P fs) (h' : AllSay P gs) : AllSay P (fs ++ gs) :=
  List.forall_mem_append.2 ⟨h, h'⟩

theorem ite {p : Prop} [Decidable p] (h : AllSay P fs) (h' : AllSay P gs) :
    AllSay P (if p then fs else gs) := by
  split
  · exact h
  · exact h'

theorem mono (h : AllSay P fs) (himp : ∀ t, P t → Q t) : AllSay Q fs := fun f hf => himp _ (h f hf)

end Finding.AllSay

open Finding (AllSay)

/-- The messages that are the same for all documents. -/
def Document.messages : List String := [
  "Robots.txt file is empty",
  "File exceeds 500 KiB - crawlers may stop parsing beyond this limit (RFC 9309)",
  "File should be UTF-8 encoded (RFC 9309)",
  "File must contain at least one user-agent directive (RFC 9309)",
  "Invalid format: directive must contain colon separator",
  "user-agent value cannot be empty",
  "user-agent should contain only letters, numbers, hyphens, underscores, or * (RFC 9309)",
  "Path should start with / for proper matching (RFC 9309)",
  "Non-ASCII characters should be percent-encoded (RFC 9309 Section 2.2.2)",
  "$ should only appear at the end of the path (RFC 9309)",
  "sitemap URL cannot be empty",
  "sitemap must be a valid absolute URL",
  "sitemap must use HTTP or HTTPS protocol",
  "crawl-delay value should be a number",
  "crawl-delay should not be negative"]

/-- A message that is the same for all documents. -/
def Document.IsFixed (message : Text) : Prop := ∃ s ∈ messages, message = Text.ofString s

open Document (IsFixed messages)

namespace Finding.AllSay

variable {number : Int} {s : String}

theorem fixedError (h : s ∈ messages) : AllSay IsFixed [.error number s] := .error ⟨s, h, rfl⟩

theorem fixedWarning (h : s ∈ messages) : AllSay IsFixed [.warning number s] := .warning ⟨s, h, rfl⟩

end Finding.AllSay

namespace Check

variable (value : Text) (number : Int)

theorem allSay_userAgent : AllSay IsFixed (userAgent value number) :=
  .ite (.fixedError (by simp [messages]))
    (.ite .nil (.fixedWarning (by simp [messages])))

theorem allSay_path : AllSay IsFixed (path value number) := by
  refine .ite .nil (.append (.append ?_ ?_) ?_)
  · exact .ite .nil (.fixedWarning (by simp [messages]))
  · exact .ite .nil (.fixedWarning (by simp [messages]))
  · exact .ite (.fixedWarning (by simp [messages])) .nil

theorem allSay_sitemap : AllSay IsFixed (sitemap value number) := by
  refine .ite (.fixedError (by simp [messages])) ?_
  cases Url.absoluteScheme? value with
  | none => exact .fixedError (by simp [messages])
  | some scheme => exact .ite .nil (.fixedError (by simp [messages]))

theorem allSay_crawlDelay : AllSay IsFixed (crawlDelay value number) := by
  unfold crawlDelay
  cases delay? value with
  | none => exact .fixedWarning (by simp [messages])
  | some delay => exact .ite (.fixedWarning (by simp [messages])) .nil

end Check

theorem Directive.allSay_checked (d : Directive) (value : Text) (number : Int) :
    AllSay IsFixed (d.checked value number) := by
  cases d with
  | userAgent => exact Check.allSay_userAgent value number
  | disallow | allow => exact Check.allSay_path value number
  | sitemap => exact Check.allSay_sitemap value number
  | crawlDelay => exact Check.allSay_crawlDelay value number
  | requestRate | visitTime | host | cleanParam => exact .nil

namespace Line

/-- The messages that show the name in a trimmed line. -/
inductive Shows (line : Text) : Text → Prop
  /-- What is not recognised is shown as the line has it, in lower case. -/
  | unknown (unrecognised : Directive.ofName? (line.before ':').trim = none) :
    Shows line ("Unknown directive '" ++ (nameOf line).escapeSurrogates ++ "' (not in RFC 9309)")
  | nonstandard {d : Directive} (recognised : Directive.ofName? (line.before ':').trim = some d)
    (extension : d.category = .nonstandard) :
    Shows line <|
      "'" ++ d.token ++ "' is not part of RFC 9309 standard (may be ignored by some crawlers)"
  | orphan {d : Directive} (recognised : Directive.ofName? (line.before ':').trim = some d)
    (rule : d = .allow ∨ d = .disallow) :
    Shows line <|
      "'" ++ d.token ++ "' must follow a user-agent directive (RFC 9309 Section 2.2.1)"

/-- A name is looked up in lower case already. -/
theorem ofToken?_nameOf (line : Text) :
    Directive.ofToken? (nameOf line) = Directive.ofName? (line.before ':').trim := rfl

theorem allSay_classification (line : Text) (number : Int) :
    AllSay (Shows line) (classification (nameOf line) number) := by
  unfold classification
  -- What is found depends on the directive, and the message shows its token.
  cases hd : Directive.ofToken? (nameOf line) with
  | none => exact .warning (.unknown (ofToken?_nameOf line ▸ hd))
  | some d =>
    dsimp only
    split
    case isTrue extension => exact .warning (.nonstandard (ofToken?_nameOf line ▸ hd) extension)
    case isFalse => exact .nil

/-- What is found in a line has a fixed message or shows its name. -/
theorem allSay_findings (t : Text) (opened : Bool) (number : Int) :
    AllSay (fun message => IsFixed message ∨ Shows t.trim message)
      ((ofText t).findings opened number) := by
  rw [ofText_eq]
  split
  · exact .nil
  · split
    -- Only the findings about the name show it, and the one about a rule without a group.
    · rw [findings, nameFindings_nameOf, valueFindings_nameOf]
      refine .append ((allSay_classification _ number).mono fun _ => .inr) ?_
      cases hd : Directive.ofToken? (nameOf t.trim) with
      | none => exact .nil
      | some d =>
        dsimp only
        split
        case isTrue orphan => exact .error (.inr (.orphan (ofToken?_nameOf _ ▸ hd) orphan.1))
        case isFalse => exact (d.allSay_checked _ number).mono fun _ => .inl
    · exact .mono (.fixedError (by simp [messages])) fun _ => .inl

end Line

namespace Document

variable {content : Text} {f : Finding}

theorem allSay_wholeFindings (t : Text) : AllSay IsFixed (sizeFindings t ++ encodingFindings t) := by
  refine .append ?_ ?_
  · exact .ite (.fixedWarning (by simp [messages])) .nil
  · exact .ite .nil (.fixedWarning (by simp [messages]))

theorem allSay_groupFindings (grouped : Bool) : AllSay IsFixed (groupFindings grouped) :=
  .ite .nil (.fixedError (by simp [messages]))

/-- Every message of a report is a fixed one or shows the name in the line of the finding. -/
theorem message_of_mem_check (h : f ∈ (check content).findings) :
    IsFixed f.message ∨ ∃ (k : Nat) (line : Text), f.line = k + 1 ∧
      (trimmedLines content)[k]? = some line ∧ Line.Shows line f.message := by
  by_cases blank : content.dropByteOrderMark.isBlank = true
  · rw [check_of_isBlank blank] at h
    obtain rfl := List.mem_singleton.1 h
    exact .inl ⟨_, by simp [messages], rfl⟩
  · rw [check_of_not_isBlank (eq_false_of_ne_true blank), Report.mem_findings_ofFindings_iff,
      findings_eq] at h
    rcases List.mem_append.1 h with h | h
    · rcases List.mem_append.1 h with h | h
      · exact .inl (allSay_wholeFindings _ f h)
      · obtain ⟨k, line, hline, hf⟩ := mem_foundIn_iff.1 h
        refine (Line.allSay_findings line _ _ f hf).imp_right fun shows => ?_
        refine ⟨k, line.trim, Line.line_eq_of_mem_findings hf, ?_, shows⟩
        rw [trimmedLines, List.getElem?_map, hline, Option.map_some]
    · exact .inl (allSay_groupFindings _ f h)

/-- A name is recognised exactly if it is the token of a directive up to the case of the letters of
ASCII, and otherwise it is unknown; with a character beyond ASCII it always is. So a line keeps the
name of a directive as its token, and the messages of a report that are not fixed show the token of
a directive or a name that is not recognised. -/
theorem names_are_tokens :
    (∀ name d, Directive.ofName? name = some d ↔
      name.length = d.token.length ∧ name.map CodePoint.asciiLower = d.token) ∧
    (∀ name, Directive.ofName? name = none ↔
      ∀ d : Directive, ¬ (name.length = d.token.length ∧ name.map CodePoint.asciiLower = d.token)) ∧
    (∀ name, Category.ofName name = .unknown ↔ Directive.ofName? name = none) ∧
    (∀ name : Text, (∃ c ∈ name, c.isAscii = false) →
      Directive.ofName? name = none ∧ Category.ofName name = .unknown) ∧
    (∀ t name value d, Line.ofText t = .rule name value → Directive.ofName? name = some d →
      name = d.token) ∧
    ∀ content, ∀ f ∈ (check content).findings,
      IsFixed f.message ∨ ∃ (k : Nat) (line : Text), f.line = k + 1 ∧
        (trimmedLines content)[k]? = some line ∧ Line.Shows line f.message := by
  have names (name : Text) (d : Directive) : Directive.ofName? name = some d ↔
      name.length = d.token.length ∧ name.map CodePoint.asciiLower = d.token := by
    rw [Directive.ofName?_eq_some_iff, iff_and_self]
    intro same
    rw [← same, List.length_map]
  refine ⟨names, fun name => ?_, fun name => Directive.category_ofName_eq_unknown_iff,
    fun name beyond => ?_, fun t name value d => Line.eq_token_of_ofText,
    fun content f => message_of_mem_check⟩
  · simp only [Option.eq_none_iff_forall_ne_some, ne_eq, names]
  · have none := Directive.ofName?_of_not_isAscii beyond
    exact ⟨none, Directive.category_ofName_eq_unknown_iff.2 none⟩

/-- A name in capitals, and the same name with a dotted capital, which is lower-cased to an `i` and a
dot. The first one is the token in its line, and the second one is shown as it was lower-cased. -/
theorem names_are_tokens_dotted :
    let dotted : Text := "VİSIT-TIME"
    let content : Text := "VİSIT-TIME: 9"
    let unknown : Finding := .warning 1 "Unknown directive 'vi̇sit-time' (not in RFC 9309)"
    (∃ c ∈ dotted, c.isAscii = false) ∧ Directive.ofName? dotted = none ∧
      Line.ofText "VISIT-TIME: 9" = .rule "visit-time" "9" ∧
      Directive.ofName? "visit-time" = some .visitTime ∧
      ("visit-time" : Text) = Directive.visitTime.token ∧
      unknown ∈ (check content).findings ∧
      (IsFixed unknown.message ∨ ∃ (k : Nat) (line : Text), unknown.line = k + 1 ∧
        (trimmedLines content)[k]? = some line ∧ Line.Shows line unknown.message) := by
  intro dotted content unknown
  obtain ⟨-, -, -, beyond, kept, shown⟩ := names_are_tokens
  have hdotted : ∃ c ∈ dotted, c.isAscii = false := by decide
  have hline : Line.ofText "VISIT-TIME: 9" = .rule "visit-time" "9" := by decide +kernel
  have hname : Directive.ofName? "visit-time" = some .visitTime := by decide +kernel
  have found : unknown ∈ (check content).findings := by decide +kernel
  exact ⟨hdotted, (beyond dotted hdotted).1, hline, hname, kept _ _ _ _ hline hname, found,
    shown content unknown found⟩

end Document

end RobotsExclusion
