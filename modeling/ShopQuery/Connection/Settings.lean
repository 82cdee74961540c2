import ShopQuery.Number.Digits
import ShopQuery.Settings.Environment

/-!
# Connection settings

Where the database is and who asks it. Every setting may be missing.

## Layers

Settings come in layers. `onTopOf` lays one layer on another: what the upper one sets counts. The
environment lies below all layers.
-/

namespace ShopQuery

structure ConnectionSettings where
  host : Option String
  port : Option UInt16
  database : Option String
  user : Option String
  password : Option String
  sslmode : Option String
deriving DecidableEq, Repr

namespace ConnectionSettings

def empty : ConnectionSettings := ⟨none, none, none, none, none, none⟩

/-- Settings with what they lack taken from the ones below. -/
def onTopOf (upper lower : ConnectionSettings) : ConnectionSettings where
  host := upper.host.or lower.host
  port := upper.port.or lower.port
  database := upper.database.or lower.database
  user := upper.user.or lower.user
  password := upper.password.or lower.password
  sslmode := upper.sslmode.or lower.sslmode

/-- The port that digits spell, after an optional plus sign. -/
def readPort (text : String) : Option UInt16 :=
  let digits :=
    match text.toList with
    | '+' :: rest => rest
    | cs => cs
  let n := decimalNumber digits
  if !digits.isEmpty && digits.all Char.isDigit && n < 65536 then some (UInt16.ofNat n) else none

/-- The settings that the environment names. A port that is none counts as not set. -/
def ofEnvironment (env : Environment) : ConnectionSettings where
  host := env.get? "PGHOST"
  port := (env.get? "PGPORT").bind readPort
  database := env.get? "PGDATABASE"
  user := env.get? "PGUSER"
  password := env.get? "PGPASSWORD"
  sslmode := env.get? "PGSSLMODE"

/-- Settings with what they lack taken from the environment. -/
def withEnvironment (settings : ConnectionSettings) (env : Environment) : ConnectionSettings :=
  settings.onTopOf (ofEnvironment env)

/-- The port of servers where no port is named. -/
def defaultPort : UInt16 := 5432

def effectivePort (settings : ConnectionSettings) : UInt16 := settings.port.getD defaultPort

def effectiveHost (settings : ConnectionSettings) : String := settings.host.getD "localhost"

/-- Where the settings lead, without the password. -/
def display (settings : ConnectionSettings) : String :=
  let database := settings.database.getD "unknown"
  let place := s!"{database} @ {settings.effectiveHost}:{settings.effectivePort.toNat}"
  match settings.user with
  | some user => s!"{place} as {user}"
  | none => place

end ConnectionSettings

end ShopQuery
