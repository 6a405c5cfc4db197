import RobotsExclusion.Proofs.Document.Encoding
import RobotsExclusion.Proofs.Utf8.Length

/-!
# The size of a document

The size that is warned about is that of the text, encoded again. For well-formed bytes it is their
own number, less a byte-order mark. But the surrogates that stand for undecodable bytes take three
bytes each, so the warning is given to files in other encodings that are a third of the limit long.

## Main definitions

* `Document.sizeWarning` — the finding in question

## Main results

* `Document.sizeWarning_mem_check_iff` — the texts that are warned about
* `Document.sizeWarning_mem_checkBytes_iff` — the bytes that are warned about
* `Document.sizeWarning_mem_checkBytes_accents` — a file far below the limit
-/

namespace RobotsExclusion.Document

open Utf8

variable {content : Text} {bytes : Bytes}

/-- The warning about a document that is too large. -/
def sizeWarning : Finding :=
  .warning 0 "File exceeds 500 KiB - crawlers may stop parsing beyond this limit (RFC 9309)"

theorem mem_sizeFindings_iff {t : Text} : sizeWarning ∈ sizeFindings t ↔ maxSize < t.utf8.length := by
  unfold sizeFindings
  split_ifs with large
  · exact iff_of_true (List.mem_singleton.2 rfl) large
  · exact iff_of_false List.not_mem_nil large

theorem sizeWarning_not_mem_encodingFindings (t : Text) : sizeWarning ∉ encodingFindings t := by
  unfold encodingFindings
  split_ifs
  · exact List.not_mem_nil
  · decide +kernel

/-- The texts that are warned about: those that are not blank and too long when they are encoded. -/
theorem sizeWarning_mem_check_iff :
    sizeWarning ∈ (check content).findings ↔
      content.dropByteOrderMark.isBlank = false ∧
        maxSize < content.dropByteOrderMark.utf8.length := by
  cases blank : content.dropByteOrderMark.isBlank with
  | true =>
    rw [check_of_isBlank blank]
    exact iff_of_false (by decide +kernel) (by simp)
  | false =>
    -- Nothing else that is found in a document is the same: findings in lines have another number,
    -- and the one about the groups is an error.
    have lines : sizeWarning ∉ foundIn content.dropByteOrderMark.lines := not_mem_foundIn rfl
    have group (grouped : Bool) : sizeWarning ∉ groupFindings grouped := fun h =>
      Severity.noConfusion (mem_groupFindings h).2
    rw [check_of_not_isBlank blank, Report.mem_findings_ofFindings_iff, findings_eq,
      List.mem_append, List.mem_append, List.mem_append, or_iff_left (group _), or_iff_left lines,
      or_iff_left (sizeWarning_not_mem_encodingFindings _), mem_sizeFindings_iff]
    simp

/-- Two marks are taken away before a document is measured: one with the reading, and one with the
check. -/
theorem dropByteOrderMark_readDocument (bytes : Bytes) :
    (readDocument bytes).dropByteOrderMark =
      decodeLossy (dropByteOrderMark (dropByteOrderMark bytes)) :=
  dropByteOrderMark_decodeLossy _

/-- The bytes that are warned about. An undecodable byte counts as three, and two byte-order marks at
the start do not count at all. So it is the size of the file that is measured if the bytes are
well-formed and start with one mark at most. -/
theorem sizeWarning_mem_checkBytes_iff (bytes : Bytes) :
    let document := dropByteOrderMark (dropByteOrderMark bytes)
    (sizeWarning ∈ (checkBytes bytes).findings ↔
      (decodeLossy document).isBlank = false ∧
        maxSize < document.length + 2 * undecodable document) ∧
    (WellFormed bytes → ¬ mark ++ mark <+: bytes → (readDocument bytes).isBlank = false →
      (sizeWarning ∈ (checkBytes bytes).findings ↔ maxSize < (dropByteOrderMark bytes).length)) := by
  intro document
  have measured : sizeWarning ∈ (checkBytes bytes).findings ↔
      (decodeLossy document).isBlank = false ∧
        maxSize < document.length + 2 * undecodable document := by
    rw [checkBytes, sizeWarning_mem_check_iff, dropByteOrderMark_readDocument,
      length_utf8_decodeLossy]
  refine ⟨measured, fun wellFormed once text => ?_⟩
  have unmarked : document = dropByteOrderMark bytes := dropByteOrderMark_of_not_twice once
  have decodable : undecodable (dropByteOrderMark bytes) = 0 :=
    undecodable_eq_zero_iff.2 (wellFormed_dropByteOrderMark_iff.2 wellFormed)
  -- Nothing is counted more than once then, and what is left of the bytes is the text that was read.
  rw [measured, unmarked, decodable]
  exact and_iff_right text

/-! ### Files that are filled with one byte -/

/-- A file that names a user agent and then goes on with one byte in a comment. -/
def filled (count : Nat) (b : UInt8) : Bytes :=
  Text.utf8 "User-agent: *\n#" ++ List.replicate count b

variable {count : Nat} {b : UInt8}

theorem length_filled (count : Nat) (b : UInt8) : (filled count b).length = 15 + count := by
  rw [filled, List.length_append, List.length_replicate]
  rfl

theorem not_marked_filled (marks : Bytes) : ¬ mark ++ marks <+: filled count b := by
  rintro ⟨rest, marked⟩
  have first : some 0xEF = some (0x55 : UInt8) := congrArg List.head? marked
  exact absurd first (by decide)

theorem dropByteOrderMark_filled : dropByteOrderMark (filled count b) = filled count b :=
  dropByteOrderMark_of_not_starts (not_marked_filled [])

theorem decodeLossy_filled (count : Nat) (b : UInt8) :
    decodeLossy (filled count b) =
      "User-agent: *\n#" ++ decodeLossy (List.replicate count b) :=
  decodeLossy_utf8_append (by decide) _

theorem isBlank_decodeLossy_filled : (decodeLossy (filled count b)).isBlank = false := by
  rw [decodeLossy_filled]
  rfl

theorem isBlank_readDocument_filled : (readDocument (filled count b)).isBlank = false := by
  rw [readDocument, dropByteOrderMark_filled, isBlank_decodeLossy_filled]

/-- The file is well-formed if the byte is an ASCII character. -/
theorem wellFormed_filled (h : Within 0x00 0x7F b) : WellFormed (filled count b) := by
  rw [filled, wellFormed_utf8_append_iff (by decide)]
  induction count with
  | zero => exact .nil
  | succ count ih => exact .append (.one h) ih

/-- A file of ASCII characters is warned about from the byte on that is one too many. -/
theorem sizeWarning_mem_checkBytes_letters :
    let bytes := filled 511986 0x78
    WellFormed bytes ∧ ¬ mark ++ mark <+: bytes ∧ (readDocument bytes).isBlank = false ∧
      bytes.length = 512001 ∧ sizeWarning ∈ (checkBytes bytes).findings ∧
      sizeWarning ∉ (checkBytes (filled 511985 0x78)).findings := by
  have ascii : Within 0x00 0x7F 0x78 := ⟨by decide, by decide⟩
  have judged (count : Nat) : sizeWarning ∈ (checkBytes (filled count 0x78)).findings ↔
      maxSize < 15 + count := by
    have measured := (sizeWarning_mem_checkBytes_iff (filled count 0x78)).2 (wellFormed_filled ascii)
      (not_marked_filled mark) isBlank_readDocument_filled
    rwa [dropByteOrderMark_filled, length_filled] at measured
  refine ⟨wellFormed_filled ascii, not_marked_filled mark, isBlank_readDocument_filled,
    length_filled _ _, (judged _).2 (by decide), fun warned => ?_⟩
  exact absurd ((judged _).1 warned) (by decide)

/-! ### A file far below the limit -/

/-- An accented letter of Latin-1 starts a sequence that its like does not continue. -/
theorem decodeLossy_replicate_accent (count : Nat) :
    decodeLossy (List.replicate count 0xE9) = List.replicate count (escapeByte 0xE9) := by
  induction count with
  | zero => exact decodeLossy_nil
  | succ count ih =>
    have unread : sequence? (0xE9 :: List.replicate count 0xE9) = none := by
      cases count with
      | zero => rfl
      | succ => rfl
    rw [List.replicate_succ, decodeLossy_of_none unread, ih, List.replicate_succ]

theorem undecodable_filled_accent (count : Nat) : undecodable (filled count 0xE9) = count := by
  rw [undecodable, decodeLossy_filled, decodeLossy_replicate_accent, List.countP_append,
    List.countP_replicate, if_pos (isSurrogate_escapeByte _)]
  exact Nat.zero_add count

/-- A file of 167 KiB, most of it accented letters in Latin-1, is warned about as if it were larger
than 500 KiB. -/
theorem sizeWarning_mem_checkBytes_accents :
    (filled 170662 0xE9).length = 170677 ∧ (readDocument (filled 170662 0xE9)).isBlank = false ∧
      ¬ (sizeWarning ∈ (checkBytes (filled 170662 0xE9)).findings ↔
        maxSize < (dropByteOrderMark (filled 170662 0xE9)).length) := by
  have warned : sizeWarning ∈ (checkBytes (filled 170662 0xE9)).findings := by
    rw [checkBytes, sizeWarning_mem_check_iff, dropByteOrderMark_readDocument,
      dropByteOrderMark_filled, dropByteOrderMark_filled, length_utf8_decodeLossy,
      undecodable_filled_accent, length_filled]
    exact ⟨isBlank_decodeLossy_filled, by decide⟩
  refine ⟨length_filled _ _, isBlank_readDocument_filled, fun measured => ?_⟩
  have large := measured.1 warned
  rw [dropByteOrderMark_filled, length_filled] at large
  exact absurd large (by decide)

end RobotsExclusion.Document
