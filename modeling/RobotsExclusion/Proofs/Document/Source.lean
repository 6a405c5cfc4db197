import RobotsExclusion.Api
import RobotsExclusion.CommandLine.Check
import RobotsExclusion.Proofs.Utf8

/-!
# Where documents come from

A document comes from a file, from the standard input or from the body of a request. A request hands
it over as it is, and the check leaves one byte-order mark at its start out of account. The others
are read from bytes, and reading already takes a mark away, so that two of them are lost on this
way. Hence a document is reported the same wherever it comes from unless it starts with two marks.

## Main results

* `Document.check_dropByteOrderMark` — a mark that is taken away early is not missed, unless another
  one follows
* `Document.check_of_sources` — the reports on a document from each of its sources
* `Document.check_of_sources_twice_marked` — two marks are one too many for them to agree
-/

namespace RobotsExclusion.Document

variable {content t name : Text} {files : Files} {bytes body : Bytes} {target : Target}

/-- Without two marks at the start, taking one away leaves none behind. -/
theorem dropByteOrderMark_dropByteOrderMark
    (h : t.take 2 ≠ [CodePoint.byteOrderMark, CodePoint.byteOrderMark]) :
    t.dropByteOrderMark.dropByteOrderMark = t.dropByteOrderMark := by
  cases t with
  | nil => rfl
  | cons c t =>
    by_cases mark : c = CodePoint.byteOrderMark
    · have dropped : Text.dropByteOrderMark (c :: t) = t := if_pos mark
      rw [dropped]
      cases t with
      | nil => rfl
      | cons d t =>
        refine if_neg fun second => h ?_
        rw [mark, second]
        rfl
    · have kept : Text.dropByteOrderMark (c :: t) = c :: t := if_neg mark
      rw [kept, kept]

/-- A mark that is taken away early is not missed, unless another one follows. -/
theorem check_dropByteOrderMark
    (h : content.take 2 ≠ [CodePoint.byteOrderMark, CodePoint.byteOrderMark]) :
    check content.dropByteOrderMark = check content := by
  unfold check
  rw [dropByteOrderMark_dropByteOrderMark h]

/-- The report on the document in a file. -/
theorem ofDocuments_file (hname : name ≠ standardInput)
    (hfile : files.read? name = some bytes) (input : Bytes) :
    Reports.ofDocuments (CheckRequest.documents files input [name]) =
      [(name, checkBytes bytes)] := by
  rw [CheckRequest.documents, if_neg hname, hfile]
  rfl

/-- The report on the document in the standard input. -/
theorem ofDocuments_standardInput (files : Files) (input : Bytes) :
    Reports.ofDocuments (CheckRequest.documents files input [standardInput]) =
      [(standardInput, checkBytes input)] := by
  rw [CheckRequest.documents, if_pos rfl]
  rfl

/-- The answer about the document in the body of a request. -/
theorem outcome_validate (htarget : Api.Route.ofTarget? target = some .validate)
    (hbody : Api.content body = .ok content) :
    Api.outcome "POST" target body = (200, .report (check content)) := by
  rw [Api.outcome, htarget, hbody]
  rfl

theorem content_eq_ok (h : (Api.content body).toOption = some content) :
    Api.content body = .ok content := by
  cases hread : Api.content body with
  | error e =>
    rw [hread] at h
    cases h
  | ok t =>
    rw [hread] at h
    exact congrArg Except.ok (Option.some.inj h)

/-- The report on a document without surrogates from each of its sources. Encoded in a file or in
the standard input, it loses a mark before the check; in the body of a request it does not. So the
reports agree unless the document starts with two marks. -/
theorem check_of_sources (content : Text) (plain : ∀ c ∈ content, c.isSurrogate = false) :
    (∀ files name input, name ≠ standardInput → Files.read? files name = some content.utf8 →
      Reports.ofDocuments (CheckRequest.documents files input [name]) =
        [(name, check content.dropByteOrderMark)]) ∧
    (∀ files, Reports.ofDocuments (CheckRequest.documents files content.utf8 [standardInput]) =
      [(standardInput, check content.dropByteOrderMark)]) ∧
    (∀ target body, Api.Route.ofTarget? target = some .validate → Api.content body = .ok content →
      Api.outcome "POST" target body = (200, .report (check content))) ∧
    (content.take 2 ≠ [CodePoint.byteOrderMark, CodePoint.byteOrderMark] →
      check content.dropByteOrderMark = check content) := by
  have read : checkBytes content.utf8 = check content.dropByteOrderMark := by
    rw [checkBytes, Utf8.readDocument_utf8 plain]
  refine ⟨fun files name input hname hfile => ?_, fun files => ?_, fun target body => ?_,
    check_dropByteOrderMark⟩
  · rw [ofDocuments_file hname hfile, read]
  · rw [ofDocuments_standardInput, read]
  · exact outcome_validate

/-- The target of a request for a report. -/
def validateTarget : Target := ⟨[], [], [], none, "/api/validate"⟩

/-- A comment behind a mark, reported the same from a file, from the standard input and from a
request. -/
theorem check_of_sources_marked_comment :
    let content : Text := "\uFEFF#"
    let files : Files := ⟨fun _ => some (.file content.utf8)⟩
    let body : Bytes := Text.utf8 "\x7b\"content\":\"\\ufeff#\"\x7d"
    let report : Report :=
      ⟨[.error 0 "File must contain at least one user-agent directive (RFC 9309)"], []⟩
    (∀ c ∈ content, c.isSurrogate = false) ∧
      Api.Route.ofTarget? validateTarget = some .validate ∧ Api.content body = .ok content ∧
      Reports.ofDocuments (CheckRequest.documents files [] ["robots.txt"]) =
        [(("robots.txt" : Text), report)] ∧
      Reports.ofDocuments (CheckRequest.documents files content.utf8 [standardInput]) =
        [(standardInput, report)] ∧
      Api.outcome "POST" validateTarget body = (200, .report report) := by
  intro content files body report
  have plain : ∀ c ∈ content, c.isSurrogate = false := by decide
  have htarget : Api.Route.ofTarget? validateTarget = some .validate := by decide +kernel
  have hbody : Api.content body = .ok content := content_eq_ok (by decide +kernel)
  obtain ⟨fromFile, fromInput, fromRequest, same⟩ := check_of_sources content plain
  have reported : check content = report := by decide +kernel
  have unmarked : check content.dropByteOrderMark = report := (same (by decide)).trans reported
  refine ⟨plain, htarget, hbody, ?_, ?_, ?_⟩
  · rw [fromFile files "robots.txt" [] (by decide) rfl, unmarked]
  · rw [fromInput files, unmarked]
  · rw [fromRequest validateTarget body htarget hbody, reported]

/-- Two marks are one too many for the sources to agree: nothing is found in a file or in the
standard input, and in the body of a request the second mark is taken for a part of the name. -/
theorem check_of_sources_twice_marked :
    let content : Text := "\uFEFF\uFEFFUser-agent: *"
    let files : Files := ⟨fun _ => some (.file content.utf8)⟩
    let body : Bytes := Text.utf8 "\x7b\"content\":\"\\ufeff\\ufeffUser-agent: *\"\x7d"
    (∀ c ∈ content, c.isSurrogate = false) ∧
      Reports.ofDocuments (CheckRequest.documents files [] ["robots.txt"]) =
        [(("robots.txt" : Text), ⟨[], []⟩)] ∧
      Reports.ofDocuments (CheckRequest.documents files content.utf8 [standardInput]) =
        [(standardInput, ⟨[], []⟩)] ∧
      Api.outcome "POST" validateTarget body = (200, .report
        ⟨[.error 0 "File must contain at least one user-agent directive (RFC 9309)"],
          [.warning 1 "Unknown directive '\uFEFFuser-agent' (not in RFC 9309)"]⟩) := by
  intro content files body
  have plain : ∀ c ∈ content, c.isSurrogate = false := by decide
  have read : checkBytes content.utf8 = ⟨[], []⟩ := by
    rw [checkBytes, Utf8.readDocument_utf8 plain]
    decide +kernel
  have htarget : Api.Route.ofTarget? validateTarget = some .validate := by decide +kernel
  have hbody : Api.content body = .ok content := content_eq_ok (by decide +kernel)
  have reported : check content =
      ⟨[.error 0 "File must contain at least one user-agent directive (RFC 9309)"],
        [.warning 1 "Unknown directive '\uFEFFuser-agent' (not in RFC 9309)"]⟩ := by decide +kernel
  refine ⟨plain, ?_, ?_, ?_⟩
  · rw [ofDocuments_file (by decide) rfl, read]
  · rw [ofDocuments_standardInput, read]
  · rw [outcome_validate htarget hbody, reported]

end RobotsExclusion.Document
