import ShopQuery.Proofs.Files.Tree
import ShopQuery.Proofs.Report.Documents
import ShopQuery.Proofs.Server.Messages
import ShopQuery.Run
import ShopQuery.Server.Script

/-!
# Stages of runs

A run that connects to a server goes through stages: the config file is loaded, the settings are
resolved, a session is opened, the request is read, and it is answered. Either all succeed, the last
one with a document (`Succeeds`), or some stage is the first that fails (`FirstFault`). Whichever it
is, one document is written (`onServer_first_fault`): how the farewell goes plays no part in it, and
nothing is sent to the server before a session is open and the request is read (`messages_stages`).

## What a run leaves

`Leaves` says it of the files and not of the code that writes them. Wherever any octets can be
written, the run ends well, and the tree is the one that has the text of the document at that place
and is the same everywhere else. The text is read back from there, and it is decoded as this
document and as no other. So neither an empty file nor half a document would do. A place where
nothing can be written is the only way in which a run ends with an error, and that is an error of
writing.

## How the proof goes

The stages are described one by one, each with the stages before it as conditions, as the
constructors of two inductive types. Going through them in order shows that there is always a case
(`firstFault_or_succeeds`), and computing each case shows what the run comes to
(`run_stages_of_firstFault`, `run_stages_of_succeeds`). A document of success is no error document
(`Succeeds.ne_error`), so the two are never mixed up, and with that the implications turn into
equivalences (`run_stages_eq_ok_iff`).

The messages are those of a server that keeps a log beside its state (`Server.logged`). A run goes
the same way with the log and without it (`alike_stages`), so what is said of the log is said of the
run.

## What the stages rest on

How a refused config file is told and where the home directory is are parameters of the whole
module (`Toml.Diagnostics`, `CommandLine.Account`), and nothing is assumed of either. The server is
any that has a state: its replies may depend on everything that it was sent.

That a document is decoded from its text holds for every document that a report comes to
(`Document.decode_answer`) and for every error. It rests on the request having been read from a
file, as its keys are distinct then (`distinctKeys_of_readJson`).
-/

namespace ShopQuery

namespace Run

open Database Report

/-! ## 1. Writing -/

section

variable {files : Files} {output : String}

theorem finish_eq_ok_iff {outcome : Except Error Document} {written : Files} :
    finish files output outcome = .ok written ↔
      files.write output (Utf8.encode (Document.ofOutcome outcome).fileText) = .ok written :=
  Files.writeDocument_eq_ok_iff

/-- The octets that a run has written are those of its document. -/
theorem readOctets_of_finish {outcome : Except Error Document} {written : Files}
    (h : finish files output outcome = .ok written) :
    written.readOctets output = .ok (Utf8.encode (Document.ofOutcome outcome).fileText) :=
  Files.readOctets_write (finish_eq_ok_iff.mp h)

/-- A document is written wherever anything else can be. -/
theorem exists_finish {octets : List UInt8} {blank : Files}
    (h : files.write output octets = .ok blank) (outcome : Except Error Document) :
    ∃ written, finish files output outcome = .ok written :=
  Files.exists_writeDocument h (Document.ofOutcome outcome)

theorem finish_eq_error {outcome : Except Error Document} {e : Error}
    (h : finish files output outcome = .error e) : ∃ detail, e = .write detail := by
  unfold finish Files.writeDocument at h
  obtain ⟨fault, -, he⟩ := mapError_eq_error_iff.mp h
  exact ⟨_, he⟩

end

/-! ## 2. Reading and answering -/

section

variable {σ τ : Type} {db : Database σ} {files : Files} {mode : Mode} {input : String}

theorem readJson_eq_ok_iff {value : Json} :
    files.readJson input = .ok value ↔
      ∃ text, files.readText input = .ok text ∧ Json.read text = .ok value := by
  unfold Files.readJson
  simp only [bind_eq_ok_iff, mapError_eq_ok_iff]

/-- A request that is read from a file has no key twice in an object. -/
theorem distinctKeys_of_readJson {request : Json} (h : files.readJson input = .ok request) :
    request.DistinctKeys := by
  obtain ⟨text, -, hread⟩ := readJson_eq_ok_iff.mp h
  exact Json.distinctKeys_of_read hread

theorem run_answerFile_of_readJson {request : Json} (h : files.readJson input = .ok request)
    (state : σ) :
    run (answerFile db files mode input) state = run (answer db mode request) state := by
  unfold answerFile
  rw [h, pureValue_ok, pure_bind]

theorem run_answerFile_of_error {e : Error} (h : files.readJson input = .error e) (state : σ) :
    run (answerFile db files mode input) state = (.error e, state) := by
  unfold answerFile
  rw [h]
  exact run_pureValue_error_bind e _ state

/-- Databases that answer alike cannot be told apart by a request that is read from a file. -/
theorem alike_answerFile {R : σ → τ → Prop} {other : Database τ}
    (h : ∀ statement, Alike R (db.execute statement) (other.execute statement)) (files : Files)
    (mode : Mode) (input : String) :
    Alike R (answerFile db files mode input) (answerFile other files mode input) := by
  refine (Alike.pureValue _).bind ?_
  intro request
  exact Alike.answer h mode request

/-- How the farewell goes is not seen in what comes of a session. -/
theorem run_closing_fst {α : Type} (server : Server σ) (dialogue : Dialogue (Session σ) α)
    (session : Session σ) :
    (run (closing server dialogue) session).1 = (run dialogue session).1 := rfl

/-- The farewell is no message that counts. -/
theorem messages_closing {α : Type} (server : Server σ)
    (dialogue : Dialogue (Session (σ × List Message)) α) (session : Session (σ × List Message)) :
    (run (closing server.logged dialogue) session).2.state.2 =
      (run dialogue session).2.state.2 :=
  server.messages_disconnect _

/-- A farewell that goes alike makes no difference. -/
theorem alike_closing {α : Type} {R : Session σ → Session τ → Prop} {server : Server σ}
    {other : Server τ} (hdisconnect : Alike R server.disconnect other.disconnect)
    {first : Dialogue (Session σ) α} {second : Dialogue (Session τ) α} (h : Alike R first second) :
    Alike R (closing server first) (closing other second) := by
  intro a b hab
  obtain ⟨houtcome, hsession⟩ := h a b hab
  exact ⟨houtcome, (hdisconnect _ _ hsession).2⟩

end

/-! ## 3. Outcomes of stages -/

section

variable [CommandLine.Account] [Toml.Diagnostics] {σ : Type} (server : Server σ) (files : Files)
  (env : Environment) (invocation : CommandLine.Invocation) (state : σ)

/-- The config is loaded, its settings are resolved, and the server opens a session with them. -/
inductive Opens (session : Session σ) : Prop where
  | intro {config : Config} {settings : ConnectionSettings}
    (loaded : Config.load files (invocation.configPath files env) = .ok config)
    (resolved : config.resolve invocation.databaseUrl env = .ok settings)
    (connected : run (server.connect settings) (Session.start state) = (.ok (), session))

/-- A stage fails with an error, and all stages before it succeed. -/
inductive FirstFault (e : Error) : Prop where
  | config (failed : Config.load files (invocation.configPath files env) = .error e)
  | settings {config : Config}
    (loaded : Config.load files (invocation.configPath files env) = .ok config)
    (failed : config.resolve invocation.databaseUrl env = .error e)
  | connection {config : Config} {settings : ConnectionSettings}
    (loaded : Config.load files (invocation.configPath files env) = .ok config)
    (resolved : config.resolve invocation.databaseUrl env = .ok settings)
    (failed : (run (server.connect settings) (Session.start state)).1 = .error e)
  | request {session : Session σ}
    (opened : Opens server files env invocation state session)
    (failed : files.readJson invocation.input = .error e)
  | answer {session : Session σ} {request : Json}
    (opened : Opens server files env invocation state session)
    (read : files.readJson invocation.input = .ok request)
    (failed : (run (answer server.database invocation.mode request) session).1 = .error e)

/-- All stages succeed, the last one with a document. -/
inductive Succeeds (document : Document) : Prop where
  | intro {session : Session σ} {request : Json}
    (opened : Opens server files env invocation state session)
    (read : files.readJson invocation.input = .ok request)
    (answered : (run (answer server.database invocation.mode request) session).1 = .ok document)

variable {server files env invocation state}

theorem settings_eq_ok_iff {resolved : ConnectionSettings} :
    settings files env invocation = .ok resolved ↔
      ∃ config, Config.load files (invocation.configPath files env) = .ok config ∧
        config.resolve invocation.databaseUrl env = .ok resolved :=
  bind_eq_ok_iff

theorem settings_eq_error_iff {e : Error} :
    settings files env invocation = .error e ↔
      Config.load files (invocation.configPath files env) = .error e ∨
        ∃ config, Config.load files (invocation.configPath files env) = .ok config ∧
          config.resolve invocation.databaseUrl env = .error e :=
  bind_eq_error_iff

theorem run_stages_of_settings_error {e : Error} (h : settings files env invocation = .error e)
    (session : Session σ) :
    run (stages server files env invocation) session = (.error e, session) := by
  unfold stages
  rw [h]
  exact run_pureValue_error_bind e _ session

theorem run_stages_of_settings {resolved : ConnectionSettings}
    (h : settings files env invocation = .ok resolved) (session : Session σ) :
    run (stages server files env invocation) session =
      run (server.connect resolved >>= fun _ =>
        closing server (answerFile server.database files invocation.mode invocation.input))
        session := by
  unfold stages
  rw [h, pureValue_ok, pure_bind]

/-- A run without settings writes the error that they have. -/
theorem onServer_of_settings_error {e : Error} (h : settings files env invocation = .error e) :
    (onServer server files env invocation state).1 =
      finish files invocation.output (.error e) := by
  unfold onServer
  rw [run_stages_of_settings_error h]

/-- Once a session is open, what is left is to answer the request and to close the session. -/
theorem run_stages_of_opens {session : Session σ}
    (h : Opens server files env invocation state session) :
    run (stages server files env invocation) (Session.start state) =
      run (closing server (answerFile server.database files invocation.mode invocation.input))
        session := by
  obtain ⟨loaded, resolved, connected⟩ := h
  rw [run_stages_of_settings (settings_eq_ok_iff.mpr ⟨_, loaded, resolved⟩)]
  exact run_bind_of_ok connected _

theorem run_stages_of_firstFault {e : Error}
    (h : FirstFault server files env invocation state e) :
    (run (stages server files env invocation) (Session.start state)).1 = .error e := by
  cases h with
  | config failed =>
    rw [run_stages_of_settings_error (settings_eq_error_iff.mpr (Or.inl failed))]
  | settings loaded failed =>
    rw [run_stages_of_settings_error (settings_eq_error_iff.mpr (Or.inr ⟨_, loaded, failed⟩))]
  | connection loaded resolved failed =>
    rw [run_stages_of_settings (settings_eq_ok_iff.mpr ⟨_, loaded, resolved⟩),
      run_bind_of_error (Prod.ext failed rfl)]
  | request opened failed =>
    rw [run_stages_of_opens opened, run_closing_fst, run_answerFile_of_error failed]
  | answer opened read failed =>
    rw [run_stages_of_opens opened, run_closing_fst, run_answerFile_of_readJson read, failed]

theorem run_stages_of_succeeds {document : Document}
    (h : Succeeds server files env invocation state document) :
    (run (stages server files env invocation) (Session.start state)).1 = .ok document := by
  obtain ⟨opened, read, answered⟩ := h
  rw [run_stages_of_opens opened, run_closing_fst, run_answerFile_of_readJson read, answered]

theorem Succeeds.ne_error {document : Document}
    (h : Succeeds server files env invocation state document) (message : String) :
    document ≠ .error message := by
  obtain ⟨opened, read, answered⟩ := h
  exact answer_ne_error (Prod.ext answered rfl) message

variable (server files env invocation state)

theorem run_stages_farewell (close : σ → Except LinkFault Unit × σ) (session : Session σ) :
    (run (stages { server with close } files env invocation) session).1 =
      (run (stages server files env invocation) session).1 := by
  refine run_bind_fst_congr _ ?_ session
  intro resolved session
  refine run_bind_fst_congr (server.connect resolved) ?_ session
  intro _ session
  exact run_closing_fst server _ session

/-- Either a stage is the first to fail or all succeed, found by going through them in order. -/
theorem firstFault_or_succeeds :
    (∃ e, FirstFault server files env invocation state e) ∨
      ∃ document, Succeeds server files env invocation state document := by
  cases loaded : Config.load files (invocation.configPath files env) with
  | error e => exact Or.inl ⟨e, .config loaded⟩
  | ok config =>
    cases resolved : config.resolve invocation.databaseUrl env with
    | error e => exact Or.inl ⟨e, .settings loaded resolved⟩
    | ok settings =>
      -- The session that the later stages start from is the one the connection leaves, not the
      -- first.
      cases connected : (run (server.connect settings) (Session.start state)).1 with
      | error e => exact Or.inl ⟨e, .connection loaded resolved connected⟩
      | ok _ =>
        have opened : Opens server files env invocation state
            (run (server.connect settings) (Session.start state)).2 :=
          ⟨loaded, resolved, Prod.ext connected rfl⟩
        cases read : files.readJson invocation.input with
        | error e => exact Or.inl ⟨e, .request opened read⟩
        | ok request =>
          cases answered : (run (answer server.database invocation.mode request)
              (run (server.connect settings) (Session.start state)).2).1 with
          | error e => exact Or.inl ⟨e, .answer opened read answered⟩
          | ok document => exact Or.inr ⟨document, opened, read, answered⟩

variable {server files env invocation state}

theorem run_stages_eq_ok_iff {document : Document} :
    (run (stages server files env invocation) (Session.start state)).1 = .ok document ↔
      Succeeds server files env invocation state document := by
  constructor
  · intro h
    rcases firstFault_or_succeeds server files env invocation state with ⟨e, hfault⟩ | ⟨d, hd⟩
    · rw [run_stages_of_firstFault hfault] at h
      cases h
    · rw [run_stages_of_succeeds hd] at h
      cases h
      exact hd
  · exact run_stages_of_succeeds

end

/-! ## 4. Messages -/

section

variable [CommandLine.Account] [Toml.Diagnostics] {σ : Type} (server : Server σ) (files : Files)
  (env : Environment) (invocation : CommandLine.Invocation) (state : σ)

/-- A run goes the same way whether its messages are kept or not. -/
theorem alike_stages :
    Alike Server.SameSession (stages server.logged files env invocation)
      (stages server files env invocation) := by
  refine (Alike.pureValue _).bind ?_
  intro settings
  refine (server.alike_connect settings).bind ?_
  intro _
  exact alike_closing server.alike_disconnect (alike_answerFile server.alike_execute files _ _)

theorem onServer_logged :
    (onServer server.logged files env invocation (state, [])).1 =
        (onServer server files env invocation state).1 ∧
      (onServer server.logged files env invocation (state, [])).2.1 =
        (onServer server files env invocation state).2 := by
  obtain ⟨houtcome, hstate, -⟩ := alike_stages server files env invocation
    (Session.start (state, [])) (Session.start state) ⟨rfl, rfl⟩
  exact ⟨congrArg (finish files invocation.output) houtcome, hstate⟩

variable {server files env invocation state}

theorem Opens.of_logged {session : Session (σ × List Message)}
    (h : Opens server.logged files env invocation (state, []) session) :
    ∃ session, Opens server files env invocation state session := by
  obtain @⟨config, settings, loaded, resolved, connected⟩ := h
  obtain ⟨houtcome, -⟩ := server.alike_connect settings
    (Session.start (state, [])) (Session.start state) ⟨rfl, rfl⟩
  rw [connected] at houtcome
  exact ⟨_, loaded, resolved, Prod.ext houtcome.symm rfl⟩

theorem Opens.messages {log : List Message} {session : Session (σ × List Message)}
    (h : Opens server.logged files env invocation (state, log) session) :
    session.state.2 = log := by
  obtain @⟨config, settings, loaded, resolved, connected⟩ := h
  have hquiet := server.messages_connect settings (Session.start (state, log))
  rw [connected] at hquiet
  exact hquiet

/-- **Nothing is sent before a session is open and the request is read.** The stages that fail
before that leave no message, and the farewell is none. -/
theorem messages_stages
    (h : (run (stages server.logged files env invocation)
      (Session.start (state, []))).2.state.2 ≠ []) :
    ∃ session request, Opens server files env invocation state session ∧
      files.readJson invocation.input = .ok request := by
  rcases firstFault_or_succeeds server.logged files env invocation (state, []) with
    ⟨e, hfault⟩ | ⟨document, hsucceeds⟩
  -- Up to the request no stage has sent a message, so one that was sent rules these faults out.
  · cases hfault with
    | config failed =>
      rw [run_stages_of_settings_error (settings_eq_error_iff.mpr (Or.inl failed))] at h
      exact absurd rfl h
    | settings loaded failed =>
      have hsettings := settings_eq_error_iff.mpr (Or.inr ⟨_, loaded, failed⟩)
      rw [run_stages_of_settings_error hsettings] at h
      exact absurd rfl h
    | connection loaded resolved failed =>
      rw [run_stages_of_settings (settings_eq_ok_iff.mpr ⟨_, loaded, resolved⟩),
        run_bind_of_error (Prod.ext failed rfl)] at h
      exact absurd (server.messages_connect _ _) h
    | request opened failed =>
      rw [run_stages_of_opens opened, messages_closing, run_answerFile_of_error failed] at h
      exact absurd opened.messages h
    | answer opened read failed =>
      obtain ⟨session, hopens⟩ := opened.of_logged
      exact ⟨session, _, hopens, read⟩
  · obtain ⟨opened, read, -⟩ := hsucceeds
    obtain ⟨session, hopens⟩ := opened.of_logged
    exact ⟨session, _, hopens, read⟩

end

/-! ## 5. Runs -/

section

variable [CommandLine.Account] [Toml.Diagnostics] {σ : Type} (server : Server σ) (files : Files)
  (env : Environment) (invocation : CommandLine.Invocation) (state : σ)

/-- Wherever anything can be written to its output, a run writes a document there, and nothing else
anywhere. What stands in the file then is one text, which is decoded as this document. -/
def Leaves (document : Document) : Prop :=
  ∀ octets blank, files.write invocation.output octets = .ok blank →
    ∃ written, (onServer server files env invocation state).1 = .ok written ∧
      files.write invocation.output (Utf8.encode document.fileText) = .ok written ∧
      written.readOctets invocation.output = .ok (Utf8.encode document.fileText) ∧
      written.readText invocation.output = .ok document.fileText ∧
      Document.decode document.fileText = some document

/-- The document of a run is decoded from its text, whatever has come of the stages. -/
theorem decode_ofOutcome :
    let document := Document.ofOutcome
      (run (stages server files env invocation) (Session.start state)).1
    Document.decode document.fileText = some document := by
  cases houtcome : (run (stages server files env invocation) (Session.start state)).1 with
  | error e => exact Document.decode_error e.message
  | ok document =>
    obtain ⟨opened, read, answered⟩ := run_stages_eq_ok_iff.mp houtcome
    exact decode_answer (distinctKeys_of_readJson read) (Prod.ext answered rfl)

/-- **A run writes one document, with the error of the first stage that fails.** It is the document
of the report where all stages succeed, which they do just where none is the first to fail. Only
what cannot be written is an error of the run. The farewell plays no part in it, and the server is
sent messages only once a session is open and the request is read. -/
theorem onServer_first_fault :
    (∃ document, Leaves server files env invocation state document ∧
      (∀ success, Succeeds server files env invocation state success ↔
        document = success ∧ ∀ message, success ≠ .error message) ∧
      (∀ e, FirstFault server files env invocation state e → document = .error e.message) ∧
      ((∃ success, Succeeds server files env invocation state success) ↔
        ¬ ∃ e, FirstFault server files env invocation state e)) ∧
    (∀ e, (onServer server files env invocation state).1 = .error e →
      ∃ detail, e = .write detail) ∧
    (∀ close, (onServer { server with close } files env invocation state).1 =
      (onServer server files env invocation state).1) ∧
    ((onServer server.logged files env invocation (state, [])).1 =
        (onServer server files env invocation state).1 ∧
      (onServer server.logged files env invocation (state, [])).2.1 =
        (onServer server files env invocation state).2) ∧
    ((onServer server.logged files env invocation (state, [])).2.2 ≠ [] →
      ∃ session request, Opens server files env invocation state session ∧
        files.readJson invocation.input = .ok request) := by
  refine ⟨⟨Document.ofOutcome (run (stages server files env invocation) (Session.start state)).1,
    ?leaves, ?success, ?fault, ?exclusive⟩, ?written, ?farewell,
    onServer_logged server files env invocation state, messages_stages⟩
  case leaves =>
    intro octets blank hwritable
    obtain ⟨written, hfinish⟩ := exists_finish hwritable
      (run (stages server files env invocation) (Session.start state)).1
    have hwrite := finish_eq_ok_iff.mp hfinish
    exact ⟨written, hfinish, hwrite, Files.readOctets_write hwrite, Files.readText_write hwrite,
      decode_ofOutcome server files env invocation state⟩
  case success =>
    intro success
    constructor
    · intro h
      rw [run_stages_of_succeeds h]
      exact ⟨rfl, h.ne_error⟩
    · rintro ⟨hdocument, hsuccess⟩
      refine run_stages_eq_ok_iff.mp ?_
      cases houtcome : (run (stages server files env invocation) (Session.start state)).1 with
      | error e =>
        rw [houtcome] at hdocument
        exact absurd hdocument.symm (hsuccess e.message)
      | ok document =>
        rw [houtcome] at hdocument
        exact congrArg Except.ok hdocument
  case fault =>
    intro e h
    rw [run_stages_of_firstFault h]
    rfl
  case exclusive =>
    constructor
    · rintro ⟨success, hsuccess⟩ ⟨e, hfault⟩
      have hok := run_stages_of_succeeds hsuccess
      rw [run_stages_of_firstFault hfault] at hok
      cases hok
    · intro h
      exact (firstFault_or_succeeds server files env invocation state).resolve_left h
  case written =>
    intro e h
    exact finish_eq_error h
  case farewell =>
    intro close
    have houtcome := run_stages_farewell server files env invocation close (Session.start state)
    exact congrArg (finish files invocation.output) houtcome

end

/-- An invocation without options. -/
def plainSearch : CommandLine.Invocation := ⟨.search, "request", "found", none, none⟩

/-- An item that looks for a name. -/
def namedItem : Json := .object [("lastName", .string "Smith")]

/-- A tree with a request that has one such item. -/
def namedRequest : Files where
  workingDirectory := []
  entries := [(["request"], .file (Utf8.encode (Plan.relist [namedItem]).print))]

/-- A server that lets everyone in and has one row to give. -/
def welcoming : Script where
  refuses := false
  asksPassword := false
  rejection := none
  replies := [.rows ⟨[.text, .text], [[some (Utf8.encode "Smith"), some (Utf8.encode "John")]]⟩]
  deaf := false

/-- An environment that names a database, and nothing else. -/
def namingShop : Environment := ⟨[("PGDATABASE", "shop")]⟩

/-- Where no database is named, it does not count that the server is down and the request is not
there. Where one is named, the server lets the client in and the request is there, the document is
that of the search. -/
theorem onServer_first_fault_plainSearch :
    (∃ written, (onServer Server.unreachable ⟨[], []⟩ .empty plainSearch ()).1 = .ok written ∧
      written.readText "found" = .ok
        ("\x7b\"type\":\"error\",\"message\":\"Configuration error: Database name is required " ++
          "(set database.url, database.database or PGDATABASE)\"\x7d\n")) ∧
    ∃ written,
      (onServer welcoming.server namedRequest namingShop plainSearch welcoming.start).1 =
        .ok written ∧
      written.readText "found" = .ok
        ("\x7b\"type\":\"search\",\"results\":[\x7b\"criteria\":\x7b\"lastName\":\"Smith\"\x7d," ++
          "\"results\":[\x7b\"lastName\":\"Smith\",\"firstName\":\"John\"\x7d]\x7d]\x7d\n") := by
  constructor
  · obtain ⟨document, hleaves, -, hfault, -⟩ :=
      (onServer_first_fault Server.unreachable ⟨[], []⟩ .empty plainSearch ()).1
    have hunnamed := hfault (.config
        "Database name is required (set database.url, database.database or PGDATABASE)")
      (.settings (show Config.load _ _ = .ok Config.empty by decide) (by decide))
    subst hunnamed
    obtain ⟨written, hrun, -, -, hread, -⟩ := hleaves [] _ rfl
    exact ⟨written, hrun, hread.trans (congrArg Except.ok (by decide +kernel))⟩
  · obtain ⟨document, hleaves, hsuccess, -⟩ :=
      (onServer_first_fault welcoming.server namedRequest namingShop plainSearch
        welcoming.start).1
    let shop : ConnectionSettings := { ConnectionSettings.empty with database := some "shop" }
    let opened := run (welcoming.server.connect shop) (Session.start welcoming.start)
    have hconfig : Config.load namedRequest (plainSearch.configPath namedRequest namingShop) =
        .ok Config.empty := by
      decide +kernel
    have hsettings : Config.empty.resolve none namingShop = .ok shop := by decide +kernel
    have hconnected : opened = (.ok (), opened.2) := Prod.ext (by decide +kernel) rfl
    have hflat : ∀ item ∈ [namedItem], item.Flat := fun item hitem => by
      rw [List.mem_singleton.mp hitem]
      exact .object (List.nodup_singleton _) fun member hmember =>
        Or.inl ⟨"Smith", by rw [List.mem_singleton.mp hmember]⟩
    have hrequest : namedRequest.readJson "request" = .ok (Plan.relist [namedItem]) :=
      readJson_eq_ok_iff.mpr ⟨_, by decide +kernel, Plan.read_relist hflat⟩
    have hanswer : (run (answer welcoming.server.database .search (Plan.relist [namedItem]))
        opened.2).1.map Document.fileText = .ok
        ("\x7b\"type\":\"search\",\"results\":[\x7b\"criteria\":\x7b\"lastName\":\"Smith\"\x7d," ++
          "\"results\":[\x7b\"lastName\":\"Smith\",\"firstName\":\"John\"\x7d]\x7d]\x7d\n") := by
      decide +kernel
    obtain ⟨found, hfound, htext⟩ := map_eq_ok_iff.mp hanswer
    obtain ⟨rfl, -⟩ :=
      (hsuccess found).mp ⟨⟨hconfig, hsettings, hconnected⟩, hrequest, hfound⟩
    obtain ⟨written, hrun, -, -, hread, -⟩ := hleaves [] _ rfl
    exact ⟨written, hrun, hread.trans (congrArg Except.ok htext)⟩

end Run

end ShopQuery
