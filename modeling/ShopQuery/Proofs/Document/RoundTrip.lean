import ShopQuery.Document.Decode
import ShopQuery.Files.Documents
import ShopQuery.Proofs.Files.Tree
import ShopQuery.Proofs.Json.RoundTrip
import ShopQuery.Proofs.Json.Values

/-!
# Written documents decoded

A document is decoded from the text that it is written as (`decode_fileText`). Everything in it but
its criteria has a form that the document itself gives; the criteria have to be values that survive
writing and reading, with integers for numbers and no key repeated.

## How the proof goes

Text and document are two steps apart, with a JSON value between them. From the text to the value it
is `Json.readTree_print_append`: what is printed is read back, also with the line end behind it.
From the value to the document it is `Decode.document_toJson`: the decoder looks each member up by
its name and finds it once, so that it gives back what the document has there. Lists are decoded
item by item, by induction (`Decode.list_map`).

Names, totals and messages need no condition: strings of any characters are escaped and unescaped,
and 64-bit numbers are integers that the reader takes.

## The side conditions

* Integers for numbers: a floating-point number that is printed and read again may come out as
  another, since its digits and its power of ten are rounded one after the other.
* No key repeated: a decoder of values keeps the last member of a name, so criteria that name one
  twice come back shorter.
* The depth: what is nested in more than 127 levels is written without complaint, but not read.

That a text is decoded says nothing of files yet. `Files.exists_writeDocument` says that a document
is written wherever anything can be written, and `Files.readText_writeDocument` that it is its text
that the file holds then. `decode_written` has all of it: what is in the file decodes to what was to
be written.
-/

namespace ShopQuery

/-! ## 1. Criteria -/

/-- The criteria that a document repeats. -/
def Document.criteria : Document → List Json
  | .search entries => entries.map (·.criteria)
  | _ => []

/-! ## 2. Forms -/

/-- An array is integral where what it lists is. -/
theorem Json.integral_map {α : Type} {f : α → Json} {list : List α}
    (h : ∀ a ∈ list, (f a).Integral) : (array (list.map f)).Integral :=
  .array (List.forall_mem_map.mpr h)

/-- Names have no numbers. -/
theorem CustomerName.integral_toJson (c : CustomerName) : c.toJson.Integral := by
  refine .object ?_
  simp [Json.Integral.string]

/-- An entry has the numbers of its criteria alone. -/
theorem SearchEntry.integral_toJson {e : SearchEntry} (h : e.criteria.Integral) :
    e.toJson.Integral := by
  refine .object ?_
  simp [h, Json.integral_map fun c _ => CustomerName.integral_toJson c]

theorem CustomerExpense.integral_toJson (c : CustomerExpense) : c.toJson.Integral := by
  refine .object ?_
  simp [Json.Integral.string, Json.Integral.ofInt64]

/-- A document has integers for numbers where its criteria do. -/
theorem Document.integral_toJson {d : Document} (h : ∀ c ∈ d.criteria, c.Integral) :
    d.toJson.Integral := by
  refine .object (List.forall_mem_cons.mpr ⟨.string _, ?_⟩)
  cases d with
  | search entries =>
    have hentries : ∀ e ∈ entries, e.criteria.Integral := List.forall_mem_map.mp h
    simpa [members] using Json.integral_map fun e he => SearchEntry.integral_toJson (hentries e he)
  | stat totalDays customers =>
    simpa [members, Json.Integral.ofInt64] using
      Json.integral_map fun c _ => CustomerExpense.integral_toJson c
  | error message => simpa [members] using Json.Integral.string message

/-! ## 3. Decoding -/

namespace Decode

/-- A list is decoded where its items are, one by one. -/
theorem list_map {α : Type} {item : Json → Option α} {f : α → Json} {values : List α}
    (h : ∀ a ∈ values, item (f a) = some a) : list item (.array (values.map f)) = some values := by
  unfold list
  simp only [Json.items?, Option.bind_eq_bind, Option.bind_some]
  induction values with
  | nil => rfl
  | cons a rest ih =>
    obtain ⟨ha, hrest⟩ := List.forall_mem_cons.mp h
    rw [List.map_cons, List.mapM_cons, ha, ih hrest]
    rfl

theorem customerName_toJson (c : CustomerName) : customerName c.toJson = some c := rfl

/-- An entry is decoded with its criteria as they were, if no key is repeated in them. -/
theorem searchEntry_toJson {e : SearchEntry} (h : e.criteria.DistinctKeys) :
    searchEntry e.toJson = some e := by
  have hnames : list customerName (.array (e.results.map CustomerName.toJson)) = some e.results :=
    list_map fun c _ => customerName_toJson c
  have hfields : fields ["criteria", "results"] e.toJson =
      some [e.criteria, .array (e.results.map CustomerName.toJson)] := rfl
  unfold searchEntry
  rw [hfields]
  simp [hnames, Json.collapse_of_distinctKeys h]

theorem customerExpense_toJson (c : CustomerExpense) : customerExpense c.toJson = some c := by
  have hfields : fields ["name", "totalExpenses"] c.toJson =
      some [.string c.name, .ofInt64 c.totalExpenses] := rfl
  have hnumber : (Json.ofInt64 c.totalExpenses).int64? = some c.totalExpenses :=
    Json.int64?_eq_some_iff.mpr rfl
  unfold customerExpense
  rw [hfields]
  simp [hnumber, Json.string?]

theorem tagged_toJson (d : Document) : tagged d.toJson = some (d.kind, .object d.members) := by
  cases d <;> rfl

/-- A document is decoded from its value, kind by kind. -/
theorem document_toJson {d : Document} (h : ∀ c ∈ d.criteria, c.DistinctKeys) :
    document d.toJson = some d := by
  unfold document
  rw [tagged_toJson]
  cases d with
  | search entries =>
    have hentries : list searchEntry (.array (entries.map SearchEntry.toJson)) = some entries :=
      list_map fun e he => searchEntry_toJson (List.forall_mem_map.mp h e he)
    have hfields : fields ["results"] (.object (Document.search entries).members) =
        some [.array (entries.map SearchEntry.toJson)] := rfl
    simp [Document.kind, hfields, hentries]
  | stat totalDays customers =>
    have hcustomers : list customerExpense (.array (customers.map CustomerExpense.toJson)) =
        some customers := list_map fun c _ => customerExpense_toJson c
    have hfields : fields ["totalDays", "customers"]
        (.object (Document.stat totalDays customers).members) =
        some [.ofInt64 totalDays, .array (customers.map CustomerExpense.toJson)] := rfl
    have hnumber : (Json.ofInt64 totalDays).int64? = some totalDays :=
      Json.int64?_eq_some_iff.mpr rfl
    simp [Document.kind, hfields, hnumber, hcustomers]
  | error message => rfl

end Decode

/-! ## 4. Texts and files -/

namespace Document

/-- A document is decoded from its text. -/
theorem decode_fileText {d : Document} (hintegral : ∀ c ∈ d.criteria, c.Integral)
    (hkeys : ∀ c ∈ d.criteria, c.DistinctKeys) (hdepth : d.toJson.depth ≤ Json.maxDepth) :
    decode d.fileText = some d := by
  have hread : Json.readTree d.fileText = .ok d.toJson :=
    Json.readTree_print_append (integral_toJson hintegral) hdepth "\n" (by simp [Json.isSpace])
  rw [decode, hread]
  exact Decode.document_toJson hkeys

end Document

/-- To write a document is to write the octets of its text. -/
theorem Files.writeDocument_eq_ok_iff {files written : Files} {path : String} {d : Document} :
    files.writeDocument path d = .ok written ↔
      files.write path (Utf8.encode d.fileText) = .ok written :=
  mapError_eq_ok_iff

/-- A document that was written to a file leaves its text there. -/
theorem Files.readText_writeDocument {files written : Files} {path : String} {d : Document}
    (h : files.writeDocument path d = .ok written) : written.readText path = .ok d.fileText :=
  readText_write (writeDocument_eq_ok_iff.mp h)

/-- A document is written wherever anything else can be. -/
theorem Files.exists_writeDocument {files blank : Files} {path : String} {octets : List UInt8}
    (h : files.write path octets = .ok blank) (d : Document) :
    ∃ written, files.writeDocument path d = .ok written := by
  obtain ⟨written, hwrite⟩ := write_of_write h (Utf8.encode d.fileText)
  exact ⟨written, writeDocument_eq_ok_iff.mpr hwrite⟩

/-- **Decoding undoes writing.** The text of a document decodes to the document, of the same kind,
and what is decoded is written as the same text. That text is what the file has that the document
was written to; and wherever anything can be written, the document is, and what the file has then
decodes to it. -/
theorem Document.decode_written {d : Document}
    (hcriteria : ∀ c ∈ d.criteria, c.Integral ∧ c.DistinctKeys)
    (hdepth : d.toJson.depth ≤ Json.maxDepth) :
    (∃ decoded, decode d.fileText = some decoded ∧ decoded = d ∧ decoded.kind = d.kind ∧
      decoded.fileText = d.fileText) ∧
    (∀ {files written : Files} {path : String}, files.writeDocument path d = .ok written →
      written.readText path = .ok d.fileText) ∧
    ∀ {files blank : Files} {path : String} {octets : List UInt8},
      files.write path octets = .ok blank →
      ∃ written text, files.writeDocument path d = .ok written ∧
        written.readText path = .ok text ∧ decode text = some d := by
  have hdecode : decode d.fileText = some d :=
    decode_fileText (fun c hc => (hcriteria c hc).1) (fun c hc => (hcriteria c hc).2) hdepth
  refine ⟨⟨d, hdecode, rfl, rfl, rfl⟩, Files.readText_writeDocument, ?_⟩
  intro files blank path octets hwritable
  obtain ⟨written, hwrite⟩ := Files.exists_writeDocument hwritable d
  exact ⟨written, d.fileText, hwrite, Files.readText_writeDocument hwrite, hdecode⟩

/-- Criteria with nested values, keys out of order, characters to escape and the greatest number. -/
def nestedCriteria : Json :=
  .object [("z\"\\\n", .array [.number (.integer 18446744073709551615),
    .object [("b", .null), ("a", .bool true)]]), ("\x01é", .ofInt64 (-5))]

theorem integral_nestedCriteria : nestedCriteria.Integral := by
  have hgreatest : Json.FitsNumber 18446744073709551615 := ⟨by decide, by decide⟩
  have hobject : (Json.object [("b", .null), ("a", .bool true)]).Integral := by
    refine .object ?_
    simp [Json.Integral.null, Json.Integral.bool]
  refine .object ?_
  simp only [List.forall_mem_cons, List.not_mem_nil, false_implies, implies_true, and_true]
  refine ⟨.array ?_, Json.Integral.ofInt64 _⟩
  simp only [List.forall_mem_cons, List.not_mem_nil, false_implies, implies_true, and_true]
  exact ⟨.integer hgreatest, hobject⟩

theorem distinctKeys_nestedCriteria : nestedCriteria.DistinctKeys :=
  Json.collapse_eq_self_iff.mp rfl

/-- A search with such criteria that found a name with a quote in it. -/
def nestedSearch : Document := .search [⟨nestedCriteria, [⟨"Zoë", "O\"Neil"⟩]⟩]

/-- The search is written to an empty tree, and is found again in the file and in its text. -/
theorem decode_nestedSearch :
    (∀ c ∈ nestedSearch.criteria, c.Integral ∧ c.DistinctKeys) ∧
      nestedSearch.toJson.depth ≤ Json.maxDepth ∧
      Document.decode nestedSearch.fileText = some nestedSearch ∧
      ∃ written text, Files.writeDocument ⟨[], []⟩ "found" nestedSearch = .ok written ∧
        written.readText "found" = .ok text ∧ Document.decode text = some nestedSearch := by
  have hcriteria : ∀ c ∈ nestedSearch.criteria, c.Integral ∧ c.DistinctKeys := fun c hc => by
    rw [List.mem_singleton.mp hc]
    exact ⟨integral_nestedCriteria, distinctKeys_nestedCriteria⟩
  have hdepth : nestedSearch.toJson.depth ≤ Json.maxDepth := by decide
  have hwritable : Files.write ⟨[], []⟩ "found" [] = .ok ⟨[], [(["found"], .file [])]⟩ := by decide
  obtain ⟨⟨decoded, hdecode, hsame, -, -⟩, -, hwritten⟩ := Document.decode_written hcriteria hdepth
  exact ⟨hcriteria, hdepth, hdecode.trans (congrArg some hsame), hwritten hwritable⟩

end ShopQuery
