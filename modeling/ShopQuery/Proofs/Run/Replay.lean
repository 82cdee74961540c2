import ShopQuery.Proofs.Report.Search
import ShopQuery.Proofs.Request.Relisting
import ShopQuery.Proofs.Run.Stages
import ShopQuery.Shop.Evaluate

/-!
# Searches replayed

A search document repeats the items that were searched for. The request that lists them again has
the same plan, so a run with it comes to the same document, octet by octet (`search_replayed`).

## How the proof goes

Three round trips are put together. The octets that a run has written are those of its document, and
the document is decoded from them (`Document.decode_answer`). The criteria of its entries are the
items of the request in their order, as every entry keeps the item of its query. And the request
that lists these items, written in compact form, is read as itself and has the plan of the request
they come from (`Plan.read_relist`, `Plan.ofRequest_relist`). The last one holds for flat items
only; those of a plan are.

The second run may read from another tree of files and write to another place. So
`answerFile_replayed` leaves the tree open and asks only for the text of the request in it. The shop
is the same, because asking a shop does not change it: the second run starts in the state in which
the first one started.

Keys that the request repeats are gone from the document: of several members with one key only the
last is read. The theorem speaks of the request as it is read; `search_replayed_repeatedKey` has
such a request.
-/

namespace ShopQuery

open Database Report

namespace Run

variable {σ : Type} {db : Database σ} {state last : σ} {files : Files} {input output : String}

/-! ## 1. Searches from files -/

/-- A search run that gives a document gives entries of the items of its request, all of them flat,
and the request that lists these items again gives the same document. -/
theorem answerFile_replayed {document : Document}
    (h : run (answerFile db files .search input) state = (.ok document, last)) :
    ∃ request plan entries, files.readJson input = .ok request ∧
      Plan.ofRequest request = .ok plan ∧ Plan.items request = .ok (plan.map (·.item)) ∧
      document = .search entries ∧ entries.map (·.criteria) = plan.map (·.item) ∧
      (∀ e ∈ entries, e.criteria.Flat) ∧
      ∀ (again : Files) (input : String),
        again.readText input = .ok (Plan.relist (entries.map (·.criteria))).print →
        run (answerFile db again .search input) state = (.ok document, last) := by
  obtain ⟨request, reached, hpure, hsearch⟩ := run_bind_eq_ok_iff.mp h
  obtain ⟨hrequest, rfl⟩ := run_pureValue_eq_ok_iff.mp hpure
  obtain ⟨plan, entries, hplan, rfl, hcriteria⟩ := search_eq_ok hsearch
  have hkeys := distinctKeys_of_readJson hrequest
  have hitems := items_eq_of_plan hplan
  have hflat : ∀ item ∈ plan.map (·.item), item.Flat :=
    List.forall_mem_map.mpr (Plan.flat_of_ofRequest hkeys hplan)
  refine ⟨request, plan, entries, hrequest, hplan, hitems, rfl, hcriteria,
    flat_of_search hkeys hsearch, ?_⟩
  intro again input' hagain
  rw [hcriteria] at hagain
  have hread : again.readJson input' = .ok (Plan.relist (plan.map (·.item))) :=
    readJson_eq_ok_iff.mpr ⟨_, hagain, Plan.read_relist hflat⟩
  rw [run_answerFile_of_readJson hread, ← hsearch]
  show run (search db _) reached = run (search db request) reached
  unfold search
  rw [(Plan.ofRequest_relist hitems).2]

theorem onDatabase_fst (db : Database σ) (files : Files) (mode : Mode) (input output : String)
    (state : σ) : (onDatabase db files mode input output state).1 =
      finish files output (run (answerFile db files mode input) state).1 := rfl

/-! ## 2. Runs -/

/-- **A search is replayed from its own document.** What a search run over a shop has written
decodes. If it is a search document, its criteria are the items of the request, which is read with
every key once; and where the request that lists them is run over the same shop, from any file and
to any file that can be written, the same octets are written again. -/
theorem search_replayed {shop : Shop} {written : Files}
    (hrun : (onDatabase Shop.database files .search input output shop).1 = .ok written) :
    ∃ octets text document,
      written.readOctets output = .ok octets ∧ Utf8.decode octets = .ok text ∧
      Document.decode text = some document ∧
      ∀ entries, document = .search entries →
        (∃ request plan, files.readJson input = .ok request ∧
          Plan.items request = .ok (entries.map (·.criteria)) ∧
          Plan.ofRequest request = .ok plan ∧ plan.map (·.item) = entries.map (·.criteria)) ∧
        ∀ (again : Files) (input output : String) (others : List UInt8) (blank : Files),
          again.readText input = .ok (Plan.relist (entries.map (·.criteria))).print →
          again.write output others = .ok blank →
          ∃ rewritten,
            (onDatabase Shop.database again .search input output shop).1 = .ok rewritten ∧
            rewritten.readOctets output = .ok octets := by
  rw [onDatabase_fst] at hrun
  obtain ⟨⟨outcome, left⟩, hanswer⟩ : ∃ answer,
    run (answerFile Shop.database files .search input) shop = answer := ⟨_, rfl⟩
  rw [hanswer] at hrun
  refine ⟨_, _, Document.ofOutcome outcome, readOctets_of_finish hrun, Utf8.decode_encode _, ?_⟩
  cases outcome with
  | error e =>
    exact ⟨Document.decode_error e.message, nofun⟩
  | ok document =>
    obtain ⟨request, plan, entries, hrequest, hplan, hitems, rfl, hcriteria, hflat, hreplay⟩ :=
      answerFile_replayed hanswer
    refine ⟨Document.decode_search hflat, ?_⟩
    rintro _ ⟨⟩
    refine ⟨⟨request, plan, hrequest, hcriteria ▸ hitems, hplan, hcriteria.symm⟩, ?_⟩
    intro again input' output' others blank hagain hwritable
    obtain ⟨rewritten, hfinish⟩ := exists_finish hwritable (.ok (.search entries))
    refine ⟨rewritten, ?_, readOctets_of_finish hfinish⟩
    rw [onDatabase_fst, hreplay again input' hagain, hfinish]

/-- A shop with one customer. -/
def oneCustomer : Shop where
  customers := [⟨1, "Smith", "John"⟩]
  products := []
  purchases := []

/-- A request with white space, a key that is repeated, and an escape in it. -/
def repeatedKey : Files where
  workingDirectory := []
  entries := [(["request"], .file (Utf8.encode
    " \x7b\"criterias\" : [\x7b\"lastName\": 7, \"last\\u004eame\": \"Smith\"\x7d]\x7d"))]

/-- What such a request finds in such a shop. -/
def foundSmith : List SearchEntry :=
  [⟨.object [("lastName", .string "Smith")], [⟨"Smith", "John"⟩]⟩]

/-- The request that lists the items that were found. -/
def listedAgain : Files where
  workingDirectory := []
  entries := [(["again"], .file (Utf8.encode (Plan.relist (foundSmith.map (·.criteria))).print))]

/-- The repeated key is gone from the criteria, and they find the same again. -/
theorem search_replayed_repeatedKey :
    ∃ written rewritten octets,
      (onDatabase Shop.database repeatedKey .search "request" "found" oneCustomer).1 =
        .ok written ∧ written.readOctets "found" = .ok octets ∧
      (onDatabase Shop.database listedAgain .search "again" "found" oneCustomer).1 =
        .ok rewritten ∧ rewritten.readOctets "found" = .ok octets := by
  have hrun : (onDatabase Shop.database repeatedKey .search "request" "found" oneCustomer).1 =
      .ok (repeatedKey.put ["found"]
        (.file (Utf8.encode (Document.search foundSmith).fileText))) := by
    decide +kernel
  have hagain : listedAgain.readText "again" =
      .ok (Plan.relist (foundSmith.map (·.criteria))).print := by
    decide +kernel
  have hwritable : listedAgain.write "found" [] = .ok (listedAgain.put ["found"] (.file [])) := by
    decide +kernel
  have hflat : ∀ e ∈ foundSmith, e.criteria.Flat := fun e he => by
    rw [List.mem_singleton.mp he]
    exact .object (List.nodup_singleton _) fun member hmember =>
      Or.inl ⟨"Smith", by rw [List.mem_singleton.mp hmember]⟩
  obtain ⟨octets, text, document, hoctets, htext, hdecode, hreplay⟩ := search_replayed hrun
  have hfile : (repeatedKey.put ["found"]
      (.file (Utf8.encode (Document.search foundSmith).fileText))).readOctets "found" =
      .ok (Utf8.encode (Document.search foundSmith).fileText) := by
    decide +kernel
  have hsearch : document = .search foundSmith := by
    rw [hfile] at hoctets
    rw [← Except.ok.inj hoctets, Utf8.decode_encode] at htext
    rw [← Except.ok.inj htext, Document.decode_search hflat] at hdecode
    exact (Option.some.inj hdecode).symm
  obtain ⟨rewritten, hrewritten, hsame⟩ :=
    (hreplay foundSmith hsearch).2 listedAgain "again" "found" [] _ hagain hwritable
  exact ⟨_, rewritten, octets, hrun, hoctets, hrewritten, hsame⟩

end Run

end ShopQuery
