import ShopQuery.Connection.Settings
import ShopQuery.Error

/-!
# Logging in

What a client needs to know before it can open a session: a database has to be named, and the SSL
mode, if there is one, has to exist.
-/

namespace ShopQuery

/-- How far a session is encrypted. -/
inductive SslMode where
  | disable
  | allow
  | prefer
  | require
  | verifyCa
  | verifyFull
deriving DecidableEq, Repr

namespace SslMode

def name : SslMode → String
  | .disable => "disable"
  | .allow => "allow"
  | .prefer => "prefer"
  | .require => "require"
  | .verifyCa => "verify-ca"
  | .verifyFull => "verify-full"

def all : List SslMode := [.disable, .allow, .prefer, .require, .verifyCa, .verifyFull]

/-- The mode of a name, in letters of either case. -/
def ofName? (name : String) : Option SslMode :=
  all.find? fun mode => mode.name.toList == name.toList.map Char.toLower

/-- Whether a session without encryption will not do. -/
def needsEncryption : SslMode → Bool
  | .require | .verifyCa | .verifyFull => true
  | .disable | .allow | .prefer => false

end SslMode

structure Login where
  host : String
  port : UInt16
  database : String
  user : Option String
  password : Option String
  sslMode : SslMode
deriving DecidableEq, Repr

namespace Login

/-- The SSL mode of settings: if none is named, encryption is preferred. -/
def sslModeOf (settings : ConnectionSettings) : Except Error SslMode :=
  match settings.sslmode with
  | none => .ok .prefer
  | some name =>
    match SslMode.ofName? name with
    | some mode => .ok mode
    | none => .error (.config s!"Invalid sslmode '{name}'")

def ofSettings (settings : ConnectionSettings) : Except Error Login := do
  match settings.database with
  | none => throw (.config "Database name is required")
  | some database =>
    let sslMode ← sslModeOf settings
    return {
      host := settings.effectiveHost
      port := settings.effectivePort
      database
      user := settings.user
      password := settings.password
      sslMode }

end Login

end ShopQuery
