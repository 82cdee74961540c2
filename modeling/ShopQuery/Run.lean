import ShopQuery.CommandLine.Invocation
import ShopQuery.Files.Documents
import ShopQuery.Server.Session
import ShopQuery.Settings.Config
import ShopQuery.Settings.EnvFile
import ShopQuery.Settings.LogFilter

/-!
# Runs

A run goes through stages: it loads the config file, resolves the connection settings, connects,
reads the request, and answers it. Then one document is written, whatever came of the stages: the
answer, or else the error of the first stage that failed. Only a document that cannot be written is
an error of the run itself.

A program that is started sets the variables of the environment file first, then reads the log
filter and its command line; without a run, it writes nothing. It gives up at once if the
environment cannot hold the variables, or if reading the filter would split a character.

What lies outside of the files, the environment and the server is a parameter of a run: the account
of the user, which may have a home directory (`CommandLine.Account`), and the words in which a
config file is refused (`Toml.Diagnostics`).
-/

namespace ShopQuery

namespace Run

variable [CommandLine.Account] [Toml.Diagnostics] {σ : Type}

/-! ## 1. Stages -/

/-- Loads the config file and resolves the connection settings. -/
def settings (files : Files) (env : Environment) (invocation : CommandLine.Invocation) :
    Except Error ConnectionSettings := do
  let config ← Config.load files (invocation.configPath files env)
  config.resolve invocation.databaseUrl env

def answerFile (db : Database σ) (files : Files) (mode : Mode) (input : String) :
    Dialogue σ Document := do
  let request ← Report.pureValue (files.readJson input)
  Report.answer db mode request

/-- Ends a session after a computation, whatever came of it. How the farewell goes is of no
consequence. -/
def closing {α : Type} (server : Server σ) (dialogue : Dialogue (Session σ) α) :
    Dialogue (Session σ) α :=
  ExceptT.mk fun session =>
    let (outcome, next) := Database.run dialogue session
    (outcome, (Database.run server.disconnect next).2)

/-- All stages up to the document. -/
def stages (server : Server σ) (files : Files) (env : Environment)
    (invocation : CommandLine.Invocation) : Dialogue (Session σ) Document := do
  let settings ← Report.pureValue (settings files env invocation)
  server.connect settings
  closing server (answerFile server.database files invocation.mode invocation.input)

/-! ## 2. Writing -/

def finish (files : Files) (output : String) (outcome : Except Error Document) :
    Except Error Files :=
  files.writeDocument output (Document.ofOutcome outcome)

/-- A run against a database that is there already. -/
def onDatabase (db : Database σ) (files : Files) (mode : Mode) (input output : String) (state : σ) :
    Except Error Files × σ :=
  let (outcome, last) := Database.run (answerFile db files mode input) state
  (finish files output outcome, last)

/-- A run that connects to a server. -/
def onServer (server : Server σ) (files : Files) (env : Environment)
    (invocation : CommandLine.Invocation) (state : σ) : Except Error Files × σ :=
  let (outcome, last) := Database.run (stages server files env invocation) (Session.start state)
  (finish files invocation.output outcome, last.state)

end Run

/-! ## 3. Programs -/

inductive Ending where
  /-- The settings of the program itself cannot be made. -/
  | aborted
  /-- The command line asks for no run. -/
  | refused (fault : CommandLine.Fault)
  /-- The document could not be written. -/
  | failed (error : Error)
  /-- The document stands in the output file. -/
  | written (output : String) (files : Files)
deriving Repr

namespace Ending

def exitCode : Ending → UInt32
  | .aborted => 101
  | .refused fault => fault.exitCode
  | .failed _ => 1
  | .written _ _ => 0

/-- The error that a program tells when it ends. What is told of a command line that asks for no run
is no error of the program. -/
def message? : Ending → Option String
  | .failed error => some error.message
  | .aborted | .refused _ | .written _ _ => none

end Ending

namespace Run

/-- The environment that a program goes on with, if it does. -/
def prepare (files : Files) (env : Environment) : Option Environment := do
  let env ← EnvFile.load files env
  let _ ← LogFilter.maxLevel? (env.get? LogFilter.variableName)
  return env

/-- Starts a program with the arguments after its name. -/
def program [CommandLine.Account] [Toml.Diagnostics] {σ : Type} (server : Server σ) (files : Files)
    (env : Environment) (args : List String) (state : σ) : Ending × σ :=
  match prepare files env with
  | none => (.aborted, state)
  | some env =>
    match CommandLine.Invocation.ofArguments env args with
    | .error fault => (.refused fault, state)
    | .ok invocation =>
      match onServer server files env invocation state with
      | (.ok files, last) => (.written invocation.output files, last)
      | (.error error, last) => (.failed error, last)

end Run

end ShopQuery
