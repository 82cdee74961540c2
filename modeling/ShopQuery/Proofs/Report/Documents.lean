import ShopQuery.Proofs.Document.RoundTrip
import ShopQuery.Proofs.Report.Values
import ShopQuery.Proofs.Request.Relisting

/-!
# Documents of reports

Every document that a report comes to is decoded from its text (`decode_answer`), and so is that of
every error (`Document.decode_error`). So a file with such a text holds this document and no other.

A document is decoded from its text where its criteria survive writing and reading
(`Document.decode_fileText`). What a document of statistics or an error has to show for this is its
depth alone: it repeats no criteria. A search repeats the items of its plan (`search_eq_ok`), by
induction on the plan; these are flat wherever the request was read with distinct keys
(`Plan.flat_of_ofRequest`), which is why that is asked of the request. Every request that is read
from a text has them (`Json.distinctKeys_of_read`).
-/

namespace ShopQuery

open Database Report

/-! ## 1. Depths -/

theorem CustomerName.depth_toJson (c : CustomerName) : c.toJson.depth = 1 := by
  simp [toJson, Json.depth, Json.depthOfMembers]

theorem SearchEntry.depth_toJson_le {e : SearchEntry} (h : e.criteria.Flat) :
    e.toJson.depth ≤ 3 := by
  have hnames : Json.depthOfItems (e.results.map CustomerName.toJson) ≤ 1 :=
    Json.depthOfItems_le_iff.mpr (List.forall_mem_map.mpr fun c _ => c.depth_toJson.le)
  have hcriteria := h.depth_le
  simp only [toJson, Json.depth, Json.depthOfMembers]
  omega

theorem CustomerExpense.depth_toJson (c : CustomerExpense) : c.toJson.depth = 1 := by
  simp [toJson, Json.ofInt64, Json.depth, Json.depthOfMembers]

/-! ## 2. Kinds of documents -/

namespace Document

/-- A document of flat items is decoded from its text. -/
theorem decode_search {entries : List SearchEntry} (h : ∀ e ∈ entries, e.criteria.Flat) :
    decode (search entries).fileText = some (search entries) := by
  have hflat : ∀ c ∈ (search entries).criteria, c.Flat := List.forall_mem_map.mpr h
  have hentries : Json.depthOfItems (entries.map SearchEntry.toJson) ≤ 3 :=
    Json.depthOfItems_le_iff.mpr (List.forall_mem_map.mpr fun e he =>
      SearchEntry.depth_toJson_le (h e he))
  have hdepth : (search entries).toJson.depth ≤ Json.maxDepth := by
    simp only [toJson, members, Json.depth, Json.depthOfMembers, Json.maxDepth]
    omega
  exact decode_fileText (fun c hc => (hflat c hc).integral) (fun c hc => (hflat c hc).distinctKeys)
    hdepth

/-- Statistics are decoded from their text. -/
theorem decode_stat (totalDays : Int64) (customers : List CustomerExpense) :
    decode (stat totalDays customers).fileText = some (stat totalDays customers) := by
  have hcustomers : Json.depthOfItems (customers.map CustomerExpense.toJson) ≤ 1 :=
    Json.depthOfItems_le_iff.mpr (List.forall_mem_map.mpr fun c _ => c.depth_toJson.le)
  have hdepth : (stat totalDays customers).toJson.depth ≤ Json.maxDepth := by
    simp only [toJson, members, Json.ofInt64, Json.depth, Json.depthOfMembers, Json.maxDepth]
    omega
  have hcriteria : (stat totalDays customers).criteria = [] := rfl
  exact decode_fileText (by simp [hcriteria]) (by simp [hcriteria]) hdepth

/-- An error is decoded from its text. -/
theorem decode_error (message : String) :
    decode (error message).fileText = some (error message) := by
  have hdepth : (error message).toJson.depth ≤ Json.maxDepth := by
    simp [toJson, members, Json.depth, Json.depthOfMembers, Json.maxDepth]
  have hcriteria : (error message).criteria = [] := rfl
  exact decode_fileText (by simp [hcriteria]) (by simp [hcriteria]) hdepth

end Document

/-! ## 3. Answers -/

namespace Report

variable {σ : Type} {db : Database σ} {state last : σ} {request : Json} {document : Document}

/-- Entries repeat the items of the plan, in order. -/
theorem criteria_of_searchEntries {plan : List PlannedQuery} {entries : List SearchEntry}
    (h : run (searchEntries db plan) state = (.ok entries, last)) :
    entries.map (·.criteria) = plan.map (·.item) := by
  induction plan generalizing state entries with
  | nil =>
    cases h
    rfl
  | cons query rest ih =>
    rw [searchEntries, run_bind_eq_ok_iff] at h
    obtain ⟨result, answered, -, h⟩ := h
    rw [run_bind_eq_ok_iff] at h
    obtain ⟨names, named, -, h⟩ := h
    rw [run_bind_eq_ok_iff] at h
    obtain ⟨others, reached, hrest, h⟩ := h
    cases h
    rw [List.map_cons, List.map_cons, ih hrest]

/-- A search that succeeds gives entries that repeat the items of its plan. -/
theorem search_eq_ok (h : run (search db request) state = (.ok document, last)) :
    ∃ plan entries, Plan.ofRequest request = .ok plan ∧ document = .search entries ∧
      entries.map (·.criteria) = plan.map (·.item) := by
  unfold search at h
  obtain ⟨plan, planned, hplan, h⟩ := run_bind_eq_ok_iff.mp h
  obtain ⟨entries, reached, hentries, h⟩ := run_bind_eq_ok_iff.mp h
  cases h
  exact ⟨plan, entries, (run_pureValue_eq_ok_iff.mp hplan).1, rfl,
    criteria_of_searchEntries hentries⟩

theorem stat_eq_ok (h : run (stat db request) state = (.ok document, last)) :
    ∃ totalDays customers, document = .stat totalDays customers := by
  unfold stat at h
  obtain ⟨period, parsed, -, h⟩ := run_bind_eq_ok_iff.mp h
  obtain ⟨days, asked, -, h⟩ := run_bind_eq_ok_iff.mp h
  obtain ⟨total, counted, -, h⟩ := run_bind_eq_ok_iff.mp h
  obtain ⟨expenses, answered, -, h⟩ := run_bind_eq_ok_iff.mp h
  obtain ⟨customers, read, -, h⟩ := run_bind_eq_ok_iff.mp h
  cases h
  exact ⟨total, customers, rfl⟩

/-- The items that a search repeats are flat, if no object of the request has a key twice. -/
theorem flat_of_search {entries : List SearchEntry} (hkeys : request.DistinctKeys)
    (h : run (search db request) state = (.ok (.search entries), last)) :
    ∀ e ∈ entries, e.criteria.Flat := by
  obtain ⟨plan, _, hplan, ⟨⟩, hcriteria⟩ := search_eq_ok h
  have hflat : ∀ item ∈ plan.map (·.item), item.Flat :=
    List.forall_mem_map.mpr (Plan.flat_of_ofRequest hkeys hplan)
  rw [← hcriteria] at hflat
  exact List.forall_mem_map.mp hflat

variable {mode : Mode}

/-- The document of an answer is never that of an error. -/
theorem answer_ne_error (h : run (answer db mode request) state = (.ok document, last))
    (message : String) : document ≠ .error message := by
  cases mode with
  | search =>
    obtain ⟨plan, entries, -, rfl, -⟩ := search_eq_ok h
    exact nofun
  | stat =>
    obtain ⟨totalDays, customers, rfl⟩ := stat_eq_ok h
    exact nofun

/-- **The document of an answer is decoded from its text.** -/
theorem decode_answer (hkeys : request.DistinctKeys)
    (h : run (answer db mode request) state = (.ok document, last)) :
    Document.decode document.fileText = some document := by
  cases mode with
  | search =>
    obtain ⟨plan, entries, -, rfl, -⟩ := search_eq_ok h
    exact Document.decode_search (flat_of_search hkeys h)
  | stat =>
    obtain ⟨totalDays, customers, rfl⟩ := stat_eq_ok h
    exact Document.decode_stat totalDays customers

end Report

end ShopQuery
