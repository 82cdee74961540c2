import ShopQuery.Proofs.Document.RoundTrip
import ShopQuery.Proofs.Json.Controls

/-!
# Documents as lines

A document is written as one line that begins with its kind and ends with a brace
(`text_eq_opening_append`). There is no line end in it, and no other control, whatever its names,
messages and criteria hold; so a reader that stops at the first line end has the whole document and
nothing else (`text_single_line`).

## How the proof goes

The kind is the first member of the object, in front of all others, and its name is one of three
words in which nothing is escaped; so the opening is the same text for all documents of a kind. That
no control is left is a property of the printer (`Json.noControls_write`), for any value at all:
names and messages come from outside, and so do the criteria.

The line end is not part of the text but written behind it. So it is the first one of the file
(`takeWhile_fileText`), and stays the first whatever is written behind. A file that held more before
is not longer afterwards: what is written replaces the octets, all of them
(`Files.readOctets_write`).
-/

namespace ShopQuery.Document

/-- How the text of a document of a kind begins. -/
def opening (kind : String) : List Char := ("\x7b\"type\":\"" ++ kind ++ "\"").toList

/-- Nothing in the name of a kind is escaped. -/
theorem opening_kind (d : Document) :
    opening d.kind = '\x7b' :: (Json.quote "type" ++ ':' :: Json.quote d.kind) := by
  have hkinds : ∀ kind ∈ ["search", "stat", "error"],
      opening kind = '\x7b' :: (Json.quote "type" ++ ':' :: Json.quote kind) := by decide
  apply hkinds
  cases d <;> simp [kind]

/-- A text is its opening, the other members and a brace. -/
theorem text_eq_opening_append (d : Document) :
    d.text.toList = opening d.kind ++ (Json.writeMoreMembers d.members ++ ['\x7d']) := by
  rw [text, Json.print, String.toList_ofList, opening_kind]
  simp [toJson, Json.write, Json.writeMembers]

/-- There are no controls in the text of a document. -/
theorem noControls_text (d : Document) : NoControls d.text.toList := by
  rw [text, Json.print, String.toList_ofList]
  exact Json.noControls_write d.toJson

/-- A file has the text and a line end. -/
theorem toList_fileText (d : Document) : d.fileText.toList = d.text.toList ++ ['\n'] := by
  rw [fileText, String.toList_append]
  rfl

/-- What stands before the first line end is the document, whatever may follow the file's text. -/
theorem takeWhile_fileText (d : Document) (rest : List Char) :
    (d.fileText.toList ++ rest).takeWhile (· != '\n') = d.text.toList := by
  have hline : ∀ c ∈ d.text.toList, (c != '\n') = true := by
    intro c hc
    have hcontrol := d.noControls_text c hc
    rw [bne_iff_ne]
    rintro rfl
    exact absurd hcontrol (by decide)
  rw [toList_fileText, List.append_assoc, List.takeWhile_append_of_pos hline]
  simp

/-- **The output file is a single line that tells where it ends.** The text of a document begins
with its kind, ends with a brace and has no controls, so that the line end after it is the first
one; and a file that the document was written to has this text and nothing else, whatever it held
before. -/
theorem text_single_line (d : Document) :
    opening d.kind <+: d.text.toList ∧
    d.text.toList.getLast? = some '\x7d' ∧
    (∀ c ∈ d.text.toList, 0x20 ≤ c.toNat) ∧
    (∀ rest, (d.fileText.toList ++ rest).takeWhile (· != '\n') = d.text.toList) ∧
    ∀ {files written : Files} {path : String}, files.writeDocument path d = .ok written →
      written.readOctets path = .ok (Utf8.encode (d.text ++ "\n")) ∧
      written.readText path = .ok (d.text ++ "\n") := by
  refine ⟨?opening, ?brace, d.noControls_text, d.takeWhile_fileText, ?file⟩
  case opening => exact ⟨_, d.text_eq_opening_append.symm⟩
  case brace => simp [text_eq_opening_append]
  case file =>
    intro files written path h
    have hwrite := Files.writeDocument_eq_ok_iff.mp h
    exact ⟨Files.readOctets_write hwrite, Files.readText_writeDocument h⟩

/-- A file that holds more than one line. -/
def twoLines : Files where
  workingDirectory := []
  entries := [(["out"], .file (Utf8.encode "a line longer than what is written\na second\n"))]

/-- A message with a line end and another control is written over it in one line. -/
theorem text_single_line_twoLines :
    ∃ written, twoLines.writeDocument "out" (.error "no\nsuch\x01file") = .ok written ∧
      written.readText "out" =
        .ok "\x7b\"type\":\"error\",\"message\":\"no\\nsuch\\u0001file\"\x7d\n" := by
  have hwrite : twoLines.writeDocument "out" (.error "no\nsuch\x01file") =
      .ok (twoLines.put ["out"] (.file (Utf8.encode
        (Document.error "no\nsuch\x01file").fileText))) := by
    decide +kernel
  obtain ⟨-, -, -, -, hfile⟩ := text_single_line (.error "no\nsuch\x01file")
  exact ⟨_, hwrite, (hfile hwrite).2.trans (by decide +kernel)⟩

end ShopQuery.Document
