import ShopQuery.Proofs.CommandLine.Passwords
import ShopQuery.Proofs.Files.Shape
import ShopQuery.Proofs.Run.Stages
import ShopQuery.Proofs.Server.Passwords
import ShopQuery.Proofs.Settings.EnvFile

/-!
# What a run tells of its password

Two starts of the program may differ in the password: on the command line, in the environment or in
the config file (`Start.Twin`). If the servers react alike to it, the runs tell it in one way only:
a config file that is refused is told with a diagnostic, which repeats a line of the file. Where the
diagnostics are the same, or no file is refused, nothing shows the difference: not the display of
the settings, not how the connection is set up, and not the document. Where they are not the same,
all of these do (`Start.password_untold`).

## How the proof goes

Each stage takes starts that differ in the password to values that differ in it: the arguments to
invocations, the config files to configs, both with the environment to settings, the settings to
logins. So the two runs are followed side by side, and at each stage both fail with one error or
both go on (`SameOutcome`). What is displayed leaves the password out; what comes after the login is
the same dialogue, as the servers react alike (`Server.ReactAlike`). Only at the config file two
errors may differ (`Config.FileTwin.load_iff`). If they do, each of the three reports contains the
error of its run, and the diagnostic can be found again in it: a display as it is, a document by
decoding its text.

## Why the conditions are there

* The environments are those in which the runs go on. An environment file may copy the variable of
  the password into one that errors quote, and then the environments differ in more than the
  password. One without dollar signs copies nothing (`prepare_twin`).
* The passwords are not empty: an empty one in a url counts as none, and lets one of another source
  come through.
* Documents tell the difference only where they can be written.
-/

namespace ShopQuery

open CommandLine (Invocation ArgumentsTwin)
open Report (pureValue)

variable {p q : String} {σ τ : Type} {R : σ → τ → Prop}

namespace Run

open Database

/-! ## 1. Stages -/

section

variable [CommandLine.Account] [Toml.Diagnostics]

/-- The stages up to the open session. -/
def setup (server : Server σ) (files : Files) (env : Environment) (invocation : Invocation) :
    Dialogue (Session σ) Unit := do
  let settings ← pureValue (settings files env invocation)
  server.connect settings

theorem stages_eq_setup (server : Server σ) (files : Files) (env : Environment)
    (invocation : Invocation) :
    stages server files env invocation =
      setup server files env invocation >>= fun _ =>
        closing server (answerFile server.database files invocation.mode invocation.input) := by
  unfold stages setup
  rw [bind_assoc]

theorem run_setup_of_error {server : Server σ} {files : Files} {env : Environment}
    {invocation : Invocation} {e : Error} (h : settings files env invocation = .error e)
    (session : Session σ) :
    run (setup server files env invocation) session = (.error e, session) := by
  unfold setup
  rw [h]
  exact Report.run_pureValue_error_bind e _ session

/-- Settings that differ in the password at most lead to sessions that are set up alike. -/
theorem alike_setup {server : Server σ} {other : Server τ} {files files' : Files}
    {env env' : Environment} {invocation invocation' : Invocation}
    (hreact : server.ReactAlike (Login.Twin p q) R other)
    (h : SameOutcome (ConnectionSettings.Twin p q) (settings files env invocation)
      (settings files' env' invocation')) :
    Alike (Server.SessionsAlike R) (setup server files env invocation)
      (setup other files' env' invocation') :=
  Alike.pureValue_bind h fun _ _ hsettings => hreact.connect_twin hsettings

end

/-! ## 2. Starts -/

/-- What a program is started with. -/
structure Start where
  files : Files
  env : Environment
  args : List String

namespace Start

/-- The run that a start leads to, with the environment that it goes on in; or else the ending. -/
def asked (start : Start) : Except Ending (Environment × Invocation) :=
  match prepare start.files start.env with
  | none => .error .aborted
  | some env => ((Invocation.ofArguments env start.args).mapError .refused).map fun i => (env, i)

/-- The ending of a run that was asked for. -/
def endingOf (invocation : Invocation) : Except Error Files → Ending
  | .ok files => .written invocation.output files
  | .error error => .failed error

/-- If the start leads to a run, its output can be written. -/
def CanWrite (start : Start) : Prop :=
  ∀ env invocation, start.asked = .ok (env, invocation) →
    ∃ octets blank, start.files.write invocation.output octets = .ok blank

section

variable [CommandLine.Account] [Toml.Diagnostics]

/-- The ending of a program. -/
def ending (start : Start) (server : Server σ) (state : σ) : Ending :=
  (program server start.files start.env start.args state).1

theorem ending_eq (start : Start) (server : Server σ) (state : σ) :
    start.ending server state =
      match start.asked with
      | .error ending => ending
      | .ok (env, invocation) =>
        endingOf invocation (onServer server start.files env invocation state).1 := by
  unfold ending program asked
  cases prepare start.files start.env with
  | none => rfl
  | some env =>
    dsimp only
    cases Invocation.ofArguments env start.args with
    | error fault => rfl
    | ok invocation =>
      simp only [Except.mapError, Except.map]
      obtain ⟨outcome, last⟩ := onServer server start.files env invocation state
      cases outcome <;> rfl

/-- How the settings of the run are displayed. -/
def display (start : Start) : Except Ending (Except Error String) :=
  start.asked.map fun (env, invocation) =>
    (settings start.files env invocation).map ConnectionSettings.display

/-- How the session of the run is set up. -/
def connected (start : Start) (server : Server σ) (state : σ) : Except Ending (Except Error Unit) :=
  start.asked.map fun (env, invocation) =>
    (run (setup server start.files env invocation) (Session.start state)).1

/-- Starts that differ in the password at most, `p` in the one and `q` in the other. The environment
is that in which the run goes on. -/
structure Twin (p q : String) (a b : Start) : Prop where
  shape : a.files.SameShape b.files
  environment : Option.Rel (Environment.Twin p q) (prepare a.files a.env) (prepare b.files b.env)
  arguments : ArgumentsTwin p q a.args b.args
  config : ∀ {env invocation}, a.asked = .ok (env, invocation) →
    Config.FileTwin p q a.files b.files (invocation.configPath a.files env)
  request : ∀ {env invocation}, a.asked = .ok (env, invocation) →
    a.files.readOctets invocation.input = b.files.readOctets invocation.input

/-- If the starts lead to runs whose config files are refused, both are refused with the same
diagnostic. -/
def ToldAlike (a b : Start) : Prop :=
  ∀ env invocation, a.asked = .ok (env, invocation) →
    Config.ToldAlike a.files b.files (invocation.configPath a.files env)

end

end Start

/-! ## 3. Two runs -/

/-- Environments that differ in the password at most still do so when a program goes on with them,
if the environment file is the same and has no dollar signs. -/
theorem prepare_twin {files files' : Files} {env env' : Environment}
    (hsame : EnvFile.findAbove files files.workingDirectory.reverse =
      EnvFile.findAbove files' files'.workingDirectory.reverse)
    (hfile : ∀ octets ∈ EnvFile.findAbove files files.workingDirectory.reverse,
      UInt8.ofNat '$'.toNat ∉ octets)
    (henv : env.Twin p q env') :
    Option.Rel (Environment.Twin p q) (prepare files env) (prepare files' env') := by
  have hload := EnvFile.load_twin hsame hfile henv
  unfold prepare
  generalize EnvFile.load files env = loaded at hload ⊢
  generalize EnvFile.load files' env' = loaded' at hload ⊢
  cases hload with
  | none => exact .none
  | @some env env' henv =>
    simp only [Option.bind_eq_bind, Option.bind_some]
    rw [henv.others LogFilter.variableName (by decide) (by decide)]
    cases LogFilter.maxLevel? (env'.get? LogFilter.variableName) with
    | none => exact .none
    | some level => exact .some henv

namespace Start

/-- Both starts lead to a run, in environments and with invocations that differ in the password at
most. -/
structure BothAsk (p q : String) (a b : Start) (env env' : Environment)
    (invocation invocation' : Invocation) : Prop where
  first : a.asked = .ok (env, invocation)
  second : b.asked = .ok (env', invocation')
  environment : env.Twin p q env'
  invocation : invocation.Twin p q invocation'

namespace Twin

section

variable [CommandLine.Account] {a b : Start} (h : a.Twin p q b)
include h

/-- Both starts lead to a run, or end alike before one. -/
theorem asked :
    SameOutcome (fun x y => BothAsk p q a b x.1 y.1 x.2 y.2) a.asked b.asked := by
  have hasked : SameOutcome (fun x y => x.1.Twin p q y.1 ∧ x.2.Twin p q y.2) a.asked b.asked := by
    have henv := h.environment
    unfold Start.asked
    generalize prepare a.files a.env = prepared at henv ⊢
    generalize prepare b.files b.env = prepared' at henv ⊢
    cases henv with
    | none => exact .error _
    | some henv =>
      refine ((Invocation.ofArguments_twin h.arguments henv).mapError _).map ?_
      intro invocation invocation' hinvocation
      exact ⟨henv, hinvocation⟩
  refine hasked.with_eq.mono ?_
  rintro ⟨env, invocation⟩ ⟨env', invocation'⟩ ⟨hfirst, hsecond, henv, hinvocation⟩
  exact ⟨hfirst, hsecond, henv, hinvocation⟩

theorem bothAsk {env : Environment} {invocation : Invocation}
    (hfirst : a.asked = .ok (env, invocation)) :
    ∃ env' invocation', BothAsk p q a b env env' invocation invocation' := by
  have hasked := h.asked
  rw [hfirst] at hasked
  generalize b.asked = second at hasked
  cases hasked with
  | ok hask => exact ⟨_, _, hask⟩

variable {env env' : Environment} {invocation invocation' : Invocation}
  (hask : BothAsk p q a b env env' invocation invocation')
include hask

theorem configPath : invocation.configPath a.files env = invocation'.configPath b.files env' := by
  have hdirectory : Invocation.configDirectory env = Invocation.configDirectory env' := by
    unfold Invocation.configDirectory Invocation.homeDirectory?
    rw [hask.environment.others "XDG_CONFIG_HOME" (by decide) (by decide),
      hask.environment.others "HOME" (by decide) (by decide)]
  unfold Invocation.configPath
  rw [hask.invocation.config, h.shape.exist, hdirectory]

theorem readJson : b.files.readJson invocation'.input = a.files.readJson invocation.input := by
  unfold Files.readJson Files.readText
  rw [← hask.invocation.input, h.request hask.first]

theorem writable {octets : List UInt8} {blank : Files}
    (hwritable : a.files.write invocation.output octets = .ok blank) :
    ∃ blank', b.files.write invocation'.output octets = .ok blank' := by
  have hwrite := h.shape.write invocation.output octets
  rw [hwritable] at hwrite
  rw [← hask.invocation.output]
  generalize b.files.write invocation.output octets = second at hwrite
  cases hwrite with
  | ok _ => exact ⟨_, rfl⟩

theorem finish (outcome : Except Error Document) :
    SameOutcome (fun written written' =>
        written.readOctets invocation.output = written'.readOctets invocation'.output)
      (Run.finish a.files invocation.output outcome)
      (Run.finish b.files invocation'.output outcome) := by
  unfold Run.finish Files.writeDocument
  rw [← hask.invocation.output]
  refine ((h.shape.write _ _).mono ?_).mapError _
  rintro written written' ⟨hfirst, hsecond⟩
  exact hfirst.trans hsecond.symm

end

section

variable [CommandLine.Account] [Toml.Diagnostics] {a b : Start} {env env' : Environment}
  {invocation invocation' : Invocation} (h : a.Twin p q b)
  (hask : BothAsk p q a b env env' invocation invocation')
include h hask

/-- The config files are both refused, or the settings differ in the password at most. -/
theorem refused_or_settings (hp : p ≠ "") (hq : q ≠ "") :
    (∃ e e', Run.settings a.files env invocation = .error e ∧
      Run.settings b.files env' invocation' = .error e') ∨
    SameOutcome (ConnectionSettings.Twin p q) (Run.settings a.files env invocation)
      (Run.settings b.files env' invocation') := by
  have hload := (h.config hask.first).load
  unfold Run.settings
  rw [← h.configPath hask]
  generalize Config.load a.files _ = config at hload ⊢
  generalize Config.load b.files _ = config' at hload ⊢
  cases hload with
  | error e e' => exact Or.inl ⟨e, e', rfl, rfl⟩
  | ok hconfig =>
    exact Or.inr (Config.resolve_twin hconfig hask.invocation.databaseUrl hask.environment hp hq)

/-- What is told of the config files is told of the settings. -/
theorem settings_of_refused {text text' : String} {fault : ConfigFault}
    (hread : a.files.readText (invocation.configPath a.files env) = .ok text)
    (hread' : b.files.readText (invocation.configPath a.files env) = .ok text')
    (hrefused : Config.ofText text = .error fault) :
    Run.settings a.files env invocation =
        .error (Config.refusal (invocation.configPath a.files env) text) ∧
      Run.settings b.files env' invocation' =
        .error (Config.refusal (invocation.configPath a.files env) text') := by
  have hload := (h.config hask.first).load
  have hfirst := Config.load_of_readText hread
  have hsecond := Config.load_of_readText hread'
  rw [hrefused] at hfirst
  unfold Run.settings
  rw [← h.configPath hask]
  rw [hfirst, hsecond] at hload
  rw [hfirst, hsecond]
  generalize Config.ofText text' = read at hload ⊢
  cases read with
  | error fault' => exact ⟨rfl, rfl⟩
  | ok config => cases hload

theorem settings (htold : a.ToldAlike b) (hp : p ≠ "") (hq : q ≠ "") :
    SameOutcome (ConnectionSettings.Twin p q) (Run.settings a.files env invocation)
      (Run.settings b.files env' invocation') := by
  unfold Run.settings
  rw [← h.configPath hask]
  refine ((h.config hask.first).load_iff.mpr (htold _ _ hask.first)).bind ?_
  intro config config' hconfig
  exact Config.resolve_twin hconfig hask.invocation.databaseUrl hask.environment hp hq

variable {server : Server σ} {other : Server τ}
  (hreact : server.ReactAlike (Login.Twin p q) R other)
include hreact

/-- Both sessions are set up, or neither is. -/
theorem setup_fails_iff (hp : p ≠ "") (hq : q ≠ "") {state : σ} {state' : τ}
    (hstate : R state state') :
    (∃ e, (run (setup server a.files env invocation) (Session.start state)).1 = .error e) ↔
      ∃ e, (run (setup other b.files env' invocation') (Session.start state')).1 = .error e := by
  rcases h.refused_or_settings hask hp hq with ⟨e, e', hfirst, hsecond⟩ | hsettings
  · rw [run_setup_of_error hfirst, run_setup_of_error hsecond]
    exact ⟨fun _ => ⟨e', rfl⟩, fun _ => ⟨e, rfl⟩⟩
  · rw [(alike_setup hreact hsettings _ _ (Server.sessionsAlike_start hstate)).1]

variable (htold : a.ToldAlike b) (hp : p ≠ "") (hq : q ≠ "")
include htold hp hq

theorem alike_stages :
    Alike (Server.SessionsAlike R) (stages server a.files env invocation)
      (stages other b.files env' invocation') := by
  have hanswer : answerFile other.database b.files invocation'.mode invocation'.input =
      answerFile other.database a.files invocation.mode invocation.input := by
    unfold answerFile
    rw [h.readJson hask, ← hask.invocation.mode]
  rw [stages_eq_setup, stages_eq_setup, hanswer]
  refine (alike_setup hreact (h.settings hask htold hp hq)).bind ?_
  intro _
  exact alike_closing hreact.disconnect (alike_answerFile hreact.execute _ _ _)

/-- The same document is written in both runs, or none for the same reason. -/
theorem onServer {state : σ} {state' : τ} (hstate : R state state') :
    SameOutcome (fun written written' =>
        written.readOctets invocation.output = written'.readOctets invocation'.output)
      (Run.onServer server a.files env invocation state).1
      (Run.onServer other b.files env' invocation' state').1 := by
  obtain ⟨houtcome, -⟩ := h.alike_stages hask hreact htold hp hq _ _
    (Server.sessionsAlike_start hstate)
  show SameOutcome _
    (Run.finish a.files invocation.output
      (run (stages server a.files env invocation) (Session.start state)).1)
    (Run.finish b.files invocation'.output
      (run (stages other b.files env' invocation') (Session.start state')).1)
  rw [houtcome]
  exact h.finish hask _

end

end Twin

/-! ## 4. What is told -/

/-- What a program leaves in the file that it writes, if it does. -/
def document? : Ending → Option (Except FileFault (List UInt8))
  | .written output files => some (files.readOctets output)
  | .aborted | .refused _ | .failed _ => none

/-- Two endings cannot be told apart. -/
structure SameEnding (a b : Ending) : Prop where
  exitCode : a.exitCode = b.exitCode
  message : a.message? = b.message?
  document : document? a = document? b

theorem SameEnding.refl (ending : Ending) : SameEnding ending ending := ⟨rfl, rfl, rfl⟩

/-- Runs that write the same, or fail alike, end alike. -/
theorem SameEnding.of_written {invocation invocation' : Invocation}
    {written written' : Except Error Files}
    (h : SameOutcome (fun files files' =>
      files.readOctets invocation.output = files'.readOctets invocation'.output) written written') :
    SameEnding (endingOf invocation written) (endingOf invocation' written') := by
  cases h with
  | error e => exact .refl _
  | ok hoctets => exact ⟨rfl, rfl, congrArg some hoctets⟩

/-- The octets of the document of an error of the config. -/
def errorOctets (detail : String) : List UInt8 :=
  Utf8.encode (Document.error (Error.config detail).message).fileText

/-- Documents of errors of the config are as different as these are. -/
theorem errorOctets_inj {detail detail' : String} (h : errorOctets detail = errorOctets detail') :
    detail = detail' := by
  have hdecoded := Document.decode_error (Error.config detail).message
  rw [Utf8.encode_inj h, Document.decode_error] at hdecoded
  have hmessage : (Error.config detail').message = (Error.config detail).message :=
    Document.error.inj (Option.some.inj hdecoded)
  exact ((String.append_right_inj _).mp hmessage).symm

section

variable [CommandLine.Account] [Toml.Diagnostics] {a b : Start}

/-- Reports that show the errors of config files show whether these are told alike. -/
theorem Twin.toldAlike_of (h : a.Twin p q b)
    (hshown : ∀ {env env' invocation invocation' detail detail'},
      BothAsk p q a b env env' invocation invocation' →
      Run.settings a.files env invocation = .error (.config detail) →
      Run.settings b.files env' invocation' = .error (.config detail') → detail = detail') :
    a.ToldAlike b := by
  intro env invocation hfirst text text' fault hread hread' hrefused
  obtain ⟨env', invocation', hask⟩ := h.bothAsk hfirst
  obtain ⟨hsettings, hsettings'⟩ := h.settings_of_refused hask hread hread' hrefused
  exact Config.refusal_inj.mp (congrArg Error.config (hshown hask hsettings hsettings'))

/-- The document of a run without settings. -/
theorem document?_of_settings_error {start : Start} {env : Environment} {invocation : Invocation}
    {e : Error} {octets : List UInt8} {blank : Files}
    (hasked : start.asked = .ok (env, invocation))
    (hsettings : settings start.files env invocation = .error e)
    (hwritable : start.files.write invocation.output octets = .ok blank) (server : Server σ)
    (state : σ) :
    document? (start.ending server state) =
      some (.ok (Utf8.encode (Document.error e.message).fileText)) := by
  obtain ⟨written, hfinish⟩ := exists_finish hwritable (.error e)
  have hending : start.ending server state = .written invocation.output written := by
    rw [ending_eq, hasked]
    dsimp only
    rw [onServer_of_settings_error hsettings, hfinish, endingOf]
  rw [hending, document?, readOctets_of_finish hfinish, Document.ofOutcome]

/-- **A password is told in the diagnostic of a refused config file at most.** Of two starts that
differ in the password at most, both set up their sessions or both fail to. They display the same
settings, or fail to find them with the same error, just where no config file is refused with
another diagnostic than the other; just there they set up their sessions alike; and just there, if
documents can be written, the programs end alike, with the same octets in their documents. -/
theorem password_untold (h : a.Twin p q b) (hp : p ≠ "") (hq : q ≠ "") {server : Server σ}
    {other : Server τ} (hreact : server.ReactAlike (Login.Twin p q) R other) {state : σ}
    {state' : τ} (hstate : R state state') :
    ((∃ e, a.connected server state = .ok (.error e)) ↔
      ∃ e, b.connected other state' = .ok (.error e)) ∧
    (a.display = b.display ↔ a.ToldAlike b) ∧
    (a.connected server state = b.connected other state' ↔ a.ToldAlike b) ∧
    (a.ToldAlike b → SameEnding (a.ending server state) (b.ending other state')) ∧
    (a.CanWrite → SameEnding (a.ending server state) (b.ending other state') →
      a.ToldAlike b) := by
  refine ⟨?fails, ⟨?told_of_display, ?display⟩, ⟨?told_of_connected, ?connected⟩, ?ending,
    ?told_of_ending⟩
  case fails =>
    have hasked := h.asked
    unfold connected
    generalize a.asked = asked at hasked ⊢
    generalize b.asked = asked' at hasked ⊢
    cases hasked with
    | error ending => exact ⟨nofun, nofun⟩
    | ok hask =>
      simpa [Except.map] using h.setup_fails_iff hask hreact hp hq hstate
  case told_of_display =>
    intro hsame
    refine h.toldAlike_of fun hask hsettings hsettings' => ?_
    simp only [display, hask.first, hask.second, Except.map, hsettings, hsettings'] at hsame
    cases hsame
    rfl
  case display =>
    intro htold
    refine h.asked.map_eq ?_
    intro run run' hask
    exact (h.settings hask htold hp hq).map_eq fun _ _ hsettings => hsettings.display
  case told_of_connected =>
    intro hsame
    refine h.toldAlike_of fun hask hsettings hsettings' => ?_
    simp only [connected, hask.first, hask.second, Except.map, run_setup_of_error hsettings,
      run_setup_of_error hsettings'] at hsame
    cases hsame
    rfl
  case connected =>
    intro htold
    refine h.asked.map_eq ?_
    intro run run' hask
    exact (alike_setup hreact (h.settings hask htold hp hq) _ _
      (Server.sessionsAlike_start hstate)).1
  case ending =>
    intro htold
    have hasked := h.asked
    rw [ending_eq, ending_eq]
    generalize a.asked = asked at hasked ⊢
    generalize b.asked = asked' at hasked ⊢
    cases hasked with
    | error ending => exact .refl ending
    | ok hask => exact .of_written (h.onServer hask hreact htold hp hq hstate)
  case told_of_ending =>
    intro hwrites hsame
    refine h.toldAlike_of fun hask hsettings hsettings' => ?_
    obtain ⟨octets, blank, hwritable⟩ := hwrites _ _ hask.first
    obtain ⟨blank', hwritable'⟩ := h.writable hask hwritable
    -- Both files could be written, so equal endings leave equal documents, and a document tells the
    -- error.
    have hdocument := hsame.document
    rw [document?_of_settings_error hask.first hsettings hwritable,
      document?_of_settings_error hask.second hsettings' hwritable'] at hdocument
    exact errorOctets_inj (Except.ok.inj (Option.some.inj hdocument))

end

/-- A start with a config file whose url has an escaped password, and with an environment file. -/
def withStoredUrl (escaped : String) : Start where
  files := ⟨[], [(["shopdb.toml"],
      .file (Utf8.encode ("database.url = \"postgres://clerk:" ++ escaped ++ "@db/shop\""))),
    ([".env"], .file (Utf8.encode "PGSSLMODE=disable\n")),
    (["in"], .file (Utf8.encode "\x7b\"criterias\":[]\x7d"))]⟩
  env := .empty
  args := ["search", "in", "out"]

/-- A server that asks for passwords, and lets everyone in. -/
def asking : Script := ⟨false, true, none, [], false⟩

theorem urlTwin_storedUrl : UrlTwin "s3cret" "p@ss w" "postgres://clerk:s3cret@db/shop"
    "postgres://clerk:p%40ss%20w@db/shop" := by
  have hinside : ∀ {cs : List Char},
      (cs.all fun c => !(Url.classOf "postgres".toList).endsAuthority c) = true →
        ∀ c ∈ cs, (Url.classOf "postgres".toList).endsAuthority c = false := by
    intro cs hall c hc
    simpa using List.all_eq_true.mp hall c hc
  refine @UrlTwin.password _ _ _ _ "postgres".toList "clerk".toList "db/shop".toList
    "s3cret".toList "p%40ss%20w".toList ?_ ?_ ?_ ?_ ⟨hinside ?_, ?_, ?_⟩ (hinside ?_) ?_ ?_
  all_goals decide +kernel

theorem textTwin_storedUrl : Config.TextTwin "s3cret" "p@ss w"
    "database.url = \"postgres://clerk:s3cret@db/shop\""
    "database.url = \"postgres://clerk:p%40ss%20w@db/shop\"" := by
  refine Config.TextTwin.of_strings
    (show Config.strings? _ = some [("url", "postgres://clerk:s3cret@db/shop")] by
      decide +kernel)
    (show Config.strings? _ = some [("url", "postgres://clerk:p%40ss%20w@db/shop")] by
      decide +kernel)
    ⟨Or.inl rfl, Or.inr ⟨_, _, urlTwin_storedUrl, rfl, rfl⟩, ?_⟩
  intro key _ hurl
  simp [Toml.find?, Config.stringMembers, List.lookup_cons, beq_false_of_ne hurl]

/-- Passwords in urls of config files, one of which needs escapes. -/
theorem password_untold_storedUrl :
    (withStoredUrl "s3cret").display = (withStoredUrl "p%40ss%20w").display ∧
      (withStoredUrl "s3cret").connected asking.server asking.start =
        (withStoredUrl "p%40ss%20w").connected asking.server asking.start ∧
      SameEnding ((withStoredUrl "s3cret").ending asking.server asking.start)
        ((withStoredUrl "p%40ss%20w").ending asking.server asking.start) := by
  have hfile : ∀ escaped, EnvFile.findAbove (withStoredUrl escaped).files
      (withStoredUrl escaped).files.workingDirectory.reverse =
        some (Utf8.encode "PGSSLMODE=disable\n") := fun escaped => rfl
  have hasked : (withStoredUrl "s3cret").asked =
      .ok (⟨[("PGSSLMODE", "disable")]⟩, ⟨.search, "in", "out", none, none⟩) := by
    have hprepared : prepare (withStoredUrl "s3cret").files (withStoredUrl "s3cret").env =
        some ⟨[("PGSSLMODE", "disable")]⟩ := by
      decide +kernel
    unfold asked
    rw [hprepared]
    rfl
  have hpath : Invocation.configPath ⟨.search, "in", "out", none, none⟩
      (withStoredUrl "s3cret").files ⟨[("PGSSLMODE", "disable")]⟩ = "shopdb.toml" := by
    decide +kernel
  have hread : (withStoredUrl "s3cret").files.readText "shopdb.toml" =
      .ok "database.url = \"postgres://clerk:s3cret@db/shop\"" := by
    decide +kernel
  have hread' : (withStoredUrl "p%40ss%20w").files.readText "shopdb.toml" =
      .ok "database.url = \"postgres://clerk:p%40ss%20w@db/shop\"" := by
    decide +kernel
  have hrequest : (withStoredUrl "s3cret").files.readOctets "in" =
      (withStoredUrl "p%40ss%20w").files.readOctets "in" := by
    decide +kernel
  have htwin : (withStoredUrl "s3cret").Twin "s3cret" "p@ss w" (withStoredUrl "p%40ss%20w") := by
    refine ⟨?shape, ?environment, .rest _, ?config, ?request⟩
    case shape =>
      exact Files.sameShape_of_sameKinds []
        (.cons ⟨rfl, .file _ _⟩ (.cons ⟨rfl, .file _ _⟩ (.cons ⟨rfl, .file _ _⟩ .nil)))
    case environment =>
      refine prepare_twin ((hfile _).trans (hfile _).symm) ?_ (.refl _)
      intro octets hoctets
      rw [hfile] at hoctets
      cases hoctets
      decide +kernel
    case config =>
      intro env invocation h
      cases hasked.symm.trans h
      rw [hpath]
      exact .texts hread hread' textTwin_storedUrl
    case request =>
      intro env invocation h
      cases hasked.symm.trans h
      exact hrequest
  -- The config file is accepted, so there is no diagnostic that could differ.
  have htold : (withStoredUrl "s3cret").ToldAlike (withStoredUrl "p%40ss%20w") := by
    intro env invocation h text text' fault htext _ hrefused
    have haccepted : (Config.ofText "database.url = \"postgres://clerk:s3cret@db/shop\"").toOption =
        some ⟨some "postgres://clerk:s3cret@db/shop", .empty⟩ := by
      decide +kernel
    cases hasked.symm.trans h
    rw [hpath, hread] at htext
    cases htext
    rw [hrefused] at haccepted
    cases haccepted
  obtain ⟨-, hdisplay, hconnected, hending, -⟩ :=
    password_untold htwin (by decide) (by decide) asking.reactAlike asking.start_twin
  exact ⟨hdisplay.mpr htold, hconnected.mpr htold, hending htold⟩

/-- A config with a port that is no number. -/
def wrongPortLine (password : String) : String :=
  "database = \x7b password = \"" ++ password ++ "\", port = \"abc\" \x7d"

/-- A start with such a config. -/
def withWrongPort (password : String) : Start where
  files := ⟨[], [(["shopdb.toml"], .file (Utf8.encode (wrongPortLine password ++ "\n")))]⟩
  env := .empty
  args := ["search", "in", "out"]

/-- What is found wrong with such a port, where the password has six characters: the table that has
the port is marked, which is the rest of its line. -/
@[reducible]
def wrongPort : Toml.Diagnostics where
  diagnose _ := ⟨some ⟨1, 12, 37⟩, "invalid type: string \"abc\", expected u16", []⟩

/-- What is told of such a config: its line is in it. -/
def portComplaint (password : String) : String :=
  "Configuration error in shopdb.toml:\n" ++
    "  TOML parse error at line 1, column 12\n" ++
    "  |\n" ++
    "1 | " ++ wrongPortLine password ++ "\n" ++
    "  |            ^^^^^^^^^^^^^^^^^^^^^^^^^^^^^^^^^^^^^\n" ++
    "invalid type: string \"abc\", expected u16\n"

/-- A start whose environment file copies the password into the SSL mode. -/
def copying (password : String) : Start where
  files := ⟨[], [([".env"], .file (Utf8.encode "PGSSLMODE=$PGPASSWORD\n"))]⟩
  env := ⟨[("PGDATABASE", "shop"), ("PGPASSWORD", password)]⟩
  args := ["search", "in", "out"]

theorem textTwin_wrongPort : Config.TextTwin "secret" "hidden" (wrongPortLine "secret" ++ "\n")
    (wrongPortLine "hidden" ++ "\n") := by
  refine .of_strings
    (show Config.strings? _ = some [("password", "secret"), ("port", "abc")] by decide +kernel)
    (show Config.strings? _ = some [("password", "hidden"), ("port", "abc")] by decide +kernel)
    ⟨Or.inr ⟨rfl, rfl⟩, Or.inl rfl, ?_⟩
  intro key hpassword _
  simp [Toml.find?, Config.stringMembers, List.lookup_cons, beq_false_of_ne hpassword]

/-- Starts that differ in the password alone write different documents where the config file is
refused: each has its password in it. It is told as well where the environment file hands it on. -/
theorem password_told :
    (withWrongPort "secret").Twin "secret" "hidden" (withWrongPort "hidden") ∧
    document? (@ending Unit _ wrongPort (withWrongPort "secret") Server.unreachable ()) =
      some (.ok (errorOctets (portComplaint "secret"))) ∧
    document? (@ending Unit _ wrongPort (withWrongPort "hidden") Server.unreachable ()) =
      some (.ok (errorOctets (portComplaint "hidden"))) ∧
    errorOctets (portComplaint "secret") ≠ errorOctets (portComplaint "hidden") ∧
    document? ((copying "secret").ending Server.unreachable ()) =
      some (.ok (errorOctets "Invalid sslmode 'secret'")) ∧
    document? ((copying "hidden").ending Server.unreachable ()) =
      some (.ok (errorOctets "Invalid sslmode 'hidden'")) := by
  have hasked : ∀ password, (withWrongPort password).asked =
      .ok (.empty, ⟨.search, "in", "out", none, none⟩) := by
    intro password
    unfold asked
    rw [show prepare (withWrongPort password).files (withWrongPort password).env = some .empty from
      rfl]
    rfl
  have hpath : Invocation.configPath ⟨.search, "in", "out", none, none⟩
      (withWrongPort "secret").files .empty = "shopdb.toml" := by
    decide +kernel
  have hread : ∀ password, (withWrongPort password).files.readText "shopdb.toml" =
      .ok (wrongPortLine password ++ "\n") := by
    intro password
    have hoctets : (withWrongPort password).files.readOctets "shopdb.toml" =
        .ok (Utf8.encode (wrongPortLine password ++ "\n")) := rfl
    unfold Files.readText
    rw [hoctets]
    simp only [bind, Except.bind, Utf8.decode_encode]
    rfl
  have hdocument : ∀ password, @settings _ wrongPort (withWrongPort password).files .empty
        ⟨.search, "in", "out", none, none⟩ = .error (.config (portComplaint password)) →
      document? (@ending Unit _ wrongPort (withWrongPort password) Server.unreachable ()) =
        some (.ok (errorOctets (portComplaint password))) := by
    intro password hsettings
    exact @document?_of_settings_error Unit _ wrongPort _ _ _ _ [] _ (hasked password) hsettings rfl
      Server.unreachable ()
  refine ⟨⟨?shape, ?environment, .rest _, ?config, ?request⟩, ?secret, ?hidden, ?differ, ?copied⟩
  case shape => exact Files.sameShape_of_sameKinds [] (.cons ⟨rfl, .file _ _⟩ .nil)
  case environment => exact .some (.refl _)
  case config =>
    intro env invocation h
    cases (hasked "secret").symm.trans h
    rw [hpath]
    exact .texts (hread "secret") (hread "hidden") textTwin_wrongPort
  case request =>
    intro env invocation h
    cases (hasked "secret").symm.trans h
    decide +kernel
  case secret => exact hdocument "secret" (by decide +kernel)
  case hidden => exact hdocument "hidden" (by decide +kernel)
  case differ => exact fun h => absurd (errorOctets_inj h) (by decide +kernel)
  case copied => exact ⟨by decide +kernel, by decide +kernel⟩

end Start

end Run

end ShopQuery
