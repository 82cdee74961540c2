import ShopQuery.Connection.Address
import ShopQuery.Files.Tree
import ShopQuery.Toml.Diagnostic
import ShopQuery.Toml.Reader

/-!
# Config files

A config file is TOML. Its table `database` may hold a url and single connection settings, which
refine the url. A file that does not exist is one that sets nothing.

## Precedence

A url from outside stands alone: the file has no say then. Otherwise the file's single settings
count before the components of its url. The environment fills in what is still missing.

## Refused files

A file that is refused is told with the diagnostic of the library for its text
(`Toml.Diagnostics`). The reader here decides which texts are refused, and knows of each where it
stops or which key it refuses (`ConfigFault`); where no library is given, these stand in for what
the library finds, with no cause.
-/

namespace ShopQuery

structure Config where
  url : Option String
  connection : ConnectionSettings
deriving DecidableEq, Repr

inductive ConfigFault where
  /-- It is no TOML from a position on. Lines and columns count from one. -/
  | malformed (line column : Nat)
  /-- A key has a value of a wrong type or range. -/
  | value (key : String)
deriving DecidableEq, Repr

/-- A fault as it is found by this reader, which has no words for the cause. -/
def ConfigFault.diagnosis : ConfigFault → Toml.Diagnosis
  | .malformed line column => ⟨some ⟨line, column, 1⟩, "", []⟩
  | .value key => ⟨none, "", [key]⟩

namespace Config

def empty : Config := ⟨none, ConnectionSettings.empty⟩

/-! ## 1. Decoding -/

/-- A text that may be missing. -/
def text? (key : String) (entries : Toml.Entries) : Except ConfigFault (Option String) :=
  match Toml.find? key entries with
  | none => .ok none
  | some (.string s) => .ok (some s)
  | some _ => .error (.value key)

def port? (key : String) (entries : Toml.Entries) : Except ConfigFault (Option UInt16) :=
  match Toml.find? key entries with
  | none => .ok none
  | some (.integer n) =>
    if 0 ≤ n ∧ n ≤ 65535 then .ok (some (UInt16.ofNat n.toNat)) else .error (.value key)
  | some _ => .error (.value key)

/-- The config in the entries of the table `database`. Other keys are ignored. -/
def ofTable (entries : Toml.Entries) : Except ConfigFault Config := do
  let url ← text? "url" entries
  let host ← text? "host" entries
  let port ← port? "port" entries
  let database ← text? "database" entries
  let user ← text? "user" entries
  let password ← text? "password" entries
  let sslmode ← text? "sslmode" entries
  return ⟨url, { host, port, database, user, password, sslmode }⟩

/-- The config in a document. A date or time counts as a table of unknown keys. -/
def ofEntries (entries : Toml.Entries) : Except ConfigFault Config :=
  match Toml.find? "database" entries with
  | none | some .moment => .ok empty
  | some (.table _ members) | some (.inline _ members) => ofTable members
  | some _ => .error (.value "database")

/-- The fault of a text of which some is left. -/
def malformedAt (text left : List Char) : ConfigFault :=
  let passed := text.take (text.length - left.length)
  .malformed (1 + passed.count '\n') (1 + (passed.reverse.takeWhile (· != '\n')).length)

def ofText (text : String) : Except ConfigFault Config :=
  match Toml.readChars text.toList with
  | .error left => .error (malformedAt text.toList left)
  | .ok entries => ofEntries entries

/-- What this reader finds wrong with a text, for a program without the library. -/
instance (priority := low) ownDiagnostics : Toml.Diagnostics where
  diagnose text :=
    match ofText text with
    | .ok _ => ⟨none, "", []⟩
    | .error fault => fault.diagnosis

/-! ## 2. Loading -/

/-- The error for a text that is refused. -/
def refusal [Toml.Diagnostics] (path text : String) : Error :=
  .config s!"Configuration error in {path}:\n  {Toml.diagnostic text}"

def load [Toml.Diagnostics] (files : Files) (path : String) : Except Error Config :=
  if !files.exist path then .ok empty
  else do
    let text ← (files.readText path).mapError fun fault =>
      .config s!"Failed to read config file: {fault.message}"
    (ofText text).mapError fun _ => refusal path text

/-! ## 3. Resolving -/

/-- The settings of the file alone. -/
def fileSettings (config : Config) : Except Error ConnectionSettings := do
  match config.url with
  | none => return config.connection
  | some url => return config.connection.onTopOf (← ConnectionSettings.read url)

/-- The settings to connect with: of a url from outside, or else of the file, and in both cases of
the environment for what is missing. They have to name a database. -/
def resolve (config : Config) (url : Option String) (env : Environment) :
    Except Error ConnectionSettings := do
  let named ←
    match url with
    | some url => ConnectionSettings.read url
    | none => config.fileSettings
  let settings := named.withEnvironment env
  if settings.database.isNone then
    throw (.config
      "Database name is required (set database.url, database.database or PGDATABASE)")
  return settings

end Config

end ShopQuery
