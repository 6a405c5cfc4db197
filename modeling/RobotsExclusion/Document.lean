import RobotsExclusion.Line
import RobotsExclusion.Utf8

/-!
# Documents

Checking a whole robots.txt document: its size and encoding, then its lines one by one, then
whether it names a user agent at all.

## Main definitions

* `Document.check` — the report on a document
* `Document.checkBytes` — the report on a document given as bytes
* `Document.logMessage?` — what is logged about a check
-/

namespace RobotsExclusion

namespace Document

/-- The size in bytes up to which every crawler has to read. -/
def maxSize : Nat := 500 * 1024

/-- Findings about the size of a document. -/
def sizeFindings (t : Text) : List Finding :=
  if maxSize < t.utf8.length then
    [.warning 0 <|
      "File exceeds 500 KiB - crawlers may stop parsing beyond this limit (RFC 9309)"]
  else []

/-- Findings about the encoding of a document: UTF-8 holds no surrogates. -/
def encodingFindings (t : Text) : List Finding :=
  if t.utf8?.isSome then [] else [.warning 0 "File should be UTF-8 encoded (RFC 9309)"]

/-- How far the lines have been read. -/
structure Progress where
  /-- The number of the next line. -/
  number : Nat
  /-- An earlier line names a user agent. -/
  grouped : Bool
  /-- The findings so far, the last one first. -/
  found : List Finding

/-- Reads one more line. -/
def Progress.next (p : Progress) (text : Text) : Progress :=
  let line := Line.ofText text
  ⟨p.number + 1, p.grouped || line.opensGroup,
    (line.findings p.grouped p.number).reverse ++ p.found⟩

/-- Reads all lines. -/
def readLines (lines : List Text) : Progress := lines.foldl Progress.next ⟨1, false, []⟩

/-- The finding about a document that names no user agent. -/
def groupFindings (grouped : Bool) : List Finding :=
  if grouped then []
  else [.error 0 "File must contain at least one user-agent directive (RFC 9309)"]

/-- The findings about a document that is not blank. -/
def findings (t : Text) : List Finding :=
  let progress := readLines t.lines
  sizeFindings t ++ encodingFindings t ++ progress.found.reverse ++ groupFindings progress.grouped

/-- The report on a document. One byte-order mark at its start does not count, and a document of
blanks alone is an error of its own. -/
def check (content : Text) : Report :=
  let t := content.dropByteOrderMark
  if t.isBlank then ⟨[.error 0 "Robots.txt file is empty"], []⟩ else .ofFindings (findings t)

/-- The report on a document given as bytes. -/
def checkBytes (bytes : Bytes) : Report := check (Utf8.readDocument bytes)

/-- What is logged about the check of a document that is not blank: its length in code points and
the numbers of errors and warnings. -/
def logMessage? (content : Text) (r : Report) : Option Text :=
  let t := content.dropByteOrderMark
  if t.isBlank then none
  else some <| "Validated " ++ Text.ofNat t.length ++ " bytes: "
    ++ Text.ofNat r.errors.length ++ " error(s), "
    ++ Text.ofNat r.warnings.length ++ " warning(s)"

end Document

end RobotsExclusion
