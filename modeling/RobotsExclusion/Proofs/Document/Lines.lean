import RobotsExclusion.Proofs.Document.Scan
import RobotsExclusion.Proofs.Text.Lines
import RobotsExclusion.Proofs.Utf8.Length

/-!
# Lines of texts that are read from bytes

A line feed is a byte of its own: it neither continues a sequence nor leads to one. So reading starts
anew behind each line feed, whatever stands before it, and cutting the bytes into lines before they
are read gives the same as cutting the text. The number of a finding counts the line feeds of the
file.

## Main definitions

* `Utf8.lineFeed` — the byte that ends a line
* `Utf8.IsLine` — bytes that are a line of some bytes

## Main results

* `Utf8.decodeLossy_append_lineFeed` — reading starts anew behind a line feed
* `Utf8.lines_decodeLossy` — cutting before and after reading
* `Document.lines_readDocument` — the lines of a document and the numbers of its findings
-/

namespace RobotsExclusion

namespace Utf8

variable {b : UInt8} {p : CodePoint} {before bytes rest : Bytes}

/-- The byte that ends a line. -/
def lineFeed : UInt8 := 0x0A

/-! ### Reading a line feed -/

theorem utf8_lineFeed : (CodePoint.ofChar '\n').utf8 = [lineFeed] := rfl

/-- No other code point has a line feed in its encoding. -/
theorem lineFeed_not_mem_utf8 (h : p ≠ CodePoint.ofChar '\n') : lineFeed ∉ p.utf8 := by
  have other : p.toNat ≠ 0x0A := fun same => h (by cases p; cases same; rfl)
  have feed : lineFeed.toNat = 0x0A := rfl
  have := p.isLt
  unfold CodePoint.utf8
  dsimp only
  -- The bytes of longer encodings are all above `7F`.
  split_ifs <;>
    simp only [List.mem_cons, List.not_mem_nil, ← UInt8.toNat_inj, UInt8.toNat_ofNat', feed,
      or_false] <;>
    omega

theorem sequence?_lineFeed (rest : Bytes) :
    sequence? (lineFeed :: rest) = some (CodePoint.ofChar '\n', rest) :=
  sequence?_utf8_append (p := CodePoint.ofChar '\n') rfl rest

theorem decodeLossy_lineFeed_cons (rest : Bytes) :
    decodeLossy (lineFeed :: rest) = CodePoint.ofChar '\n' :: decodeLossy rest :=
  decodeLossy_of_sequence? (sequence?_lineFeed rest)

/-- What has no line feed does not reach beyond one. -/
theorem isPrefix_of_isPrefix_append_lineFeed {s : Bytes} (single : lineFeed ∉ s)
    (h : s <+: before ++ lineFeed :: rest) : s <+: before := by
  obtain ⟨tail, htail⟩ := h
  rcases List.append_eq_append_iff.1 htail with ⟨more, rfl, -⟩ | ⟨more, rfl, hfeed⟩
  · exact List.prefix_append s more
  · cases more with
    | nil => exact (List.append_nil before).symm ▸ List.prefix_rfl
    | cons feed more =>
      obtain ⟨rfl, -⟩ := List.cons.inj hfeed
      exact absurd (List.mem_append_right before List.mem_cons_self) single

/-- A byte that starts no sequence before a line feed does not start one together with it. -/
theorem sequence?_append_lineFeed (h : sequence? (b :: before) = none) (rest : Bytes) :
    sequence? (b :: before ++ lineFeed :: rest) = none := by
  cases hread : sequence? (b :: before ++ lineFeed :: rest) with
  | none => rfl
  | some pair =>
    obtain ⟨p, behind⟩ := pair
    obtain ⟨plain, encoded⟩ := sequence?_eq_some hread
    -- A sequence that holds a line feed is the line feed, and any other one ends before it. Either
    -- would have been read without what is appended.
    by_cases feed : p = CodePoint.ofChar '\n'
    · rw [feed, utf8_lineFeed, List.cons_append, List.cons_append] at encoded
      rw [(List.cons.inj encoded).1, sequence?_lineFeed] at h
      cases h
    · obtain ⟨tail, htail⟩ :=
        isPrefix_of_isPrefix_append_lineFeed (lineFeed_not_mem_utf8 feed) ⟨behind, encoded.symm⟩
      rw [← htail, sequence?_utf8_append plain] at h
      cases h

/-- Reading starts anew behind a line feed. -/
theorem decodeLossy_append_lineFeed (before rest : Bytes) :
    decodeLossy (before ++ lineFeed :: rest) =
      decodeLossy before ++ CodePoint.ofChar '\n' :: decodeLossy rest := by
  -- The induction follows the reading of what stands before: each step is the same with and without
  -- the line feed behind.
  induction before using reading_induction with
  | nil =>
    rw [List.nil_append, decodeLossy_lineFeed_cons, decodeLossy_nil, List.nil_append]
  | sequence before p behind hread ih =>
    obtain ⟨plain, rfl⟩ := sequence?_eq_some hread
    rw [List.append_assoc, decodeLossy_of_sequence? (sequence?_utf8_append plain _), ih,
      decodeLossy_of_sequence? hread, List.cons_append]
  | single b before hread ih =>
    have first := sequence?_append_lineFeed hread rest
    rw [List.cons_append] at first
    rw [List.cons_append, decodeLossy_of_none first, ih, decodeLossy_of_none hread,
      List.cons_append]

/-! ### Cutting into lines -/

/-- Only line feeds are read as line feeds. -/
theorem lineFeed_not_mem_decodeLossy (h : lineFeed ∉ bytes) :
    CodePoint.ofChar '\n' ∉ decodeLossy bytes := by
  induction bytes using reading_induction with
  | nil => exact fun feed => nomatch (decodeLossy_nil ▸ feed)
  | sequence bytes p rest hread ih =>
    obtain ⟨-, rfl⟩ := sequence?_eq_some hread
    rw [decodeLossy_of_sequence? hread, List.mem_cons, not_or]
    refine ⟨fun same => h ?_, ih fun feed => h (List.mem_append_right _ feed)⟩
    rw [← same, utf8_lineFeed]
    exact List.mem_append_left _ List.mem_cons_self
  | single b rest hread ih =>
    rw [decodeLossy_of_none hread, List.mem_cons, not_or]
    refine ⟨fun same => ?_, ih fun feed => h (List.mem_cons_of_mem _ feed)⟩
    have surrogate := isSurrogate_escapeByte b
    rw [← same] at surrogate
    cases surrogate

/-- Cutting the bytes into lines before they are read gives the same as cutting the text. -/
theorem lines_decodeLossy (bytes : Bytes) :
    (decodeLossy bytes).lines = (bytes.splitOn lineFeed).map decodeLossy := by
  -- The first line may take any number of bytes, and the rest is shorter.
  generalize hlength : bytes.length = n
  induction n using Nat.strongRecOn generalizing bytes with
  | ind n ih =>
    by_cases feed : lineFeed ∈ bytes
    · obtain ⟨before, rest, rfl, single⟩ := List.eq_append_cons_of_mem feed
      have shorter : rest.length < n := by
        rw [← hlength, List.length_append, List.length_cons]
        omega
      rw [decodeLossy_append_lineFeed, Text.lines_append,
        Text.lines_of_not_mem (lineFeed_not_mem_decodeLossy single), ih _ shorter rest rfl,
        List.splitOn_append_cons_self_of_not_mem single, List.map_cons, List.singleton_append]
    · rw [Text.lines_of_not_mem (lineFeed_not_mem_decodeLossy feed), List.splitOn_eq_singleton feed,
        List.map_singleton]

/-- Bytes that are a line of some bytes, with what stands before and behind them. -/
structure IsLine (start line rest : Bytes) : Prop where
  single : lineFeed ∉ line
  starts : start = [] ∨ start.getLast? = some lineFeed
  ends : rest = [] ∨ rest.head? = some lineFeed

/-- Before the line with an index there are as many line feeds. -/
theorem exists_isLine {k : Nat} {line : Bytes} (h : (bytes.splitOn lineFeed)[k]? = some line) :
    ∃ start rest, bytes = start ++ (line ++ rest) ∧ IsLine start line rest ∧
      start.count lineFeed = k := by
  -- The first line has nothing before it, and each later one has the lines before it and their feeds.
  induction k generalizing bytes with
  | zero =>
    by_cases feed : lineFeed ∈ bytes
    · obtain ⟨before, rest, rfl, single⟩ := List.eq_append_cons_of_mem feed
      rw [List.splitOn_append_cons_self_of_not_mem single, List.getElem?_cons_zero] at h
      obtain rfl := Option.some.inj h
      exact ⟨[], lineFeed :: rest, rfl, ⟨single, .inl rfl, .inr rfl⟩, rfl⟩
    · rw [List.splitOn_eq_singleton feed, List.getElem?_cons_zero] at h
      obtain rfl := Option.some.inj h
      exact ⟨[], [], (List.append_nil _).symm, ⟨feed, .inl rfl, .inl rfl⟩, rfl⟩
  | succ k ih =>
    by_cases feed : lineFeed ∈ bytes
    · obtain ⟨before, behind, rfl, single⟩ := List.eq_append_cons_of_mem feed
      rw [List.splitOn_append_cons_self_of_not_mem single, List.getElem?_cons_succ] at h
      obtain ⟨start, rest, rfl, isLine, count⟩ := ih h
      refine ⟨before ++ lineFeed :: start, rest, by rw [List.append_assoc, List.cons_append],
        ⟨isLine.single, .inr ?_, isLine.ends⟩, ?_⟩
      · rcases isLine.starts with rfl | last
        · exact List.getLast?_concat
        · rw [List.getLast?_append, List.getLast?_cons, last]
          rfl
      · rw [List.count_append, List.count_eq_zero.2 single, List.count_cons_self, count,
          Nat.zero_add]
    · rw [List.splitOn_eq_singleton feed] at h
      cases h

/-! ### Byte-order marks -/

theorem lineFeed_not_mem_mark : lineFeed ∉ mark := by decide

/-- A mark stands before the first line feed or not at all. -/
theorem dropByteOrderMark_append_lineFeed (before rest : Bytes) :
    dropByteOrderMark (before ++ lineFeed :: rest) =
      dropByteOrderMark before ++ lineFeed :: rest := by
  by_cases marked : mark <+: before
  · obtain ⟨behind, rfl⟩ := marked
    rw [List.append_assoc, dropByteOrderMark_mark_append, dropByteOrderMark_mark_append]
  · have unmarked : ¬ mark <+: before ++ lineFeed :: rest :=
      mt (isPrefix_of_isPrefix_append_lineFeed lineFeed_not_mem_mark) marked
    rw [dropByteOrderMark_of_not_starts marked, dropByteOrderMark_of_not_starts unmarked]

/-- What is dropped is a mark or nothing. -/
theorem exists_mark_append (bytes : Bytes) :
    ∃ marks, (marks = [] ∨ marks = mark) ∧ bytes = marks ++ dropByteOrderMark bytes := by
  by_cases marked : mark <+: bytes
  · obtain ⟨rest, rfl⟩ := marked
    exact ⟨mark, .inr rfl, by rw [dropByteOrderMark_mark_append]⟩
  · exact ⟨[], .inl rfl, by rw [dropByteOrderMark_of_not_starts marked, List.nil_append]⟩

theorem count_lineFeed_dropByteOrderMark (bytes : Bytes) :
    (dropByteOrderMark bytes).count lineFeed = bytes.count lineFeed := by
  obtain ⟨marks, hmarks, hbytes⟩ := exists_mark_append bytes
  have unbroken : lineFeed ∉ marks := by rcases hmarks with rfl | rfl <;> decide
  conv_rhs => rw [hbytes, List.count_append, List.count_eq_zero.2 unbroken, Nat.zero_add]

end Utf8

namespace Document

open Utf8

variable {bytes : Bytes} {f : Finding}

/-- A finding is about the whole document, or it was made in the line that has its number. Marks at
the start do not belong to a line. -/
theorem exists_line_of_mem_checkBytes (h : f ∈ (checkBytes bytes).findings) :
    f.line = 0 ∨ ∃ marks start line rest, marks ∈ [[], mark, mark ++ mark] ∧
      bytes = marks ++ (start ++ (line ++ rest)) ∧ IsLine start line rest ∧
      f.line = (marks ++ start).count lineFeed + 1 ∧
      ∃ opened, f ∈ (Line.ofText (decodeLossy line)).findings opened f.line := by
  rcases line_of_mem_check h with whole | ⟨k, text, number, htext, found⟩
  · exact .inl whole
  · right
    -- Two marks are dropped before the lines are cut: one from the bytes and one from their text.
    rw [readDocument, dropByteOrderMark_decodeLossy, lines_decodeLossy, List.getElem?_map] at htext
    obtain ⟨line, hline, rfl⟩ := Option.map_eq_some_iff.1 htext
    obtain ⟨start, rest, hbytes, isLine, count⟩ := exists_isLine hline
    obtain ⟨first, hfirst, hdrop⟩ := exists_mark_append bytes
    obtain ⟨second, hsecond, hagain⟩ := exists_mark_append (dropByteOrderMark bytes)
    have known : first ++ second ∈ [[], mark, mark ++ mark] := by
      rcases hfirst with rfl | rfl <;> rcases hsecond with rfl | rfl <;> decide
    have unbroken : ∀ marks ∈ [[], mark, mark ++ mark], lineFeed ∉ marks := by decide
    refine ⟨first ++ second, start, line, rest, known, ?_, isLine, ?_, _, number ▸ found⟩
    · rw [← hbytes, List.append_assoc, ← hagain, ← hdrop]
    · rw [number, List.count_append, List.count_eq_zero.2 (unbroken _ known), count, Nat.zero_add]

/-- Cutting a document into lines and reading it can be done in either order, whatever the bytes of
the lines are: there is one line more than there are line feeds, and what stands behind a line feed
does not change what is read before it. A finding is about the whole document, or it was made in the
line that has its number, read by itself. -/
theorem lines_readDocument (bytes : Bytes) :
    (readDocument bytes).lines = ((dropByteOrderMark bytes).splitOn 0x0A).map decodeLossy ∧
      (readDocument bytes).lines.length = bytes.count 0x0A + 1 ∧
      (∀ before rest, bytes = before ++ 0x0A :: rest →
        readDocument bytes = readDocument before ++ CodePoint.ofChar '\n' :: decodeLossy rest) ∧
      ∀ f ∈ (checkBytes bytes).findings, f.line = 0 ∨ ∃ marks start line rest,
        marks ∈ [[], mark, mark ++ mark] ∧ bytes = marks ++ (start ++ (line ++ rest)) ∧
        IsLine start line rest ∧ f.line = (marks ++ start).count 0x0A + 1 ∧
        ∃ opened, f ∈ (Line.ofText (decodeLossy line)).findings opened f.line := by
  refine ⟨lines_decodeLossy _, ?_, ?_, fun f hf => exists_line_of_mem_checkBytes hf⟩
  · rw [readDocument, lines_decodeLossy, List.length_map, length_splitOn,
      count_lineFeed_dropByteOrderMark]
    rfl
  · rintro before rest rfl
    exact (congrArg decodeLossy (dropByteOrderMark_append_lineFeed before rest)).trans
      (decodeLossy_append_lineFeed _ _)

/-- A sequence that is cut off by a line feed. Its bytes are kept, the line feed is not taken for its
continuation, and the next line has the number two. -/
theorem lines_readDocument_truncated :
    let bytes : Bytes := [0xE2, 0x82, 0x0A, 0x61]
    let missingColon : Finding :=
      .error 2 "Invalid format: directive must contain colon separator"
    bytes = [0xE2, 0x82] ++ 0x0A :: [0x61] ∧
      readDocument bytes =
        [escapeByte 0xE2, escapeByte 0x82, CodePoint.ofChar '\n', CodePoint.ofChar 'a'] ∧
      missingColon ∈ (checkBytes bytes).findings ∧
      ∃ marks start line rest, marks ∈ [[], mark, mark ++ mark] ∧
        bytes = marks ++ (start ++ (line ++ rest)) ∧ IsLine start line rest ∧
        (2 : Int) = (marks ++ start).count 0x0A + 1 ∧
        ∃ opened, missingColon ∈ (Line.ofText (decodeLossy line)).findings opened 2 := by
  intro bytes missingColon
  obtain ⟨-, -, anew, made⟩ := lines_readDocument bytes
  have found : missingColon ∈ (checkBytes bytes).findings := by decide +kernel
  refine ⟨rfl, ?_, found, ?_⟩
  · rw [anew [0xE2, 0x82] [0x61] rfl]
    decide +kernel
  · rcases made missingColon found with whole | here
    · cases whole
    · exact here

end Document

end RobotsExclusion
