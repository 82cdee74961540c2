import ShopQuery.Connection.Settings
import ShopQuery.Connection.Url
import ShopQuery.Error

/-!
# Connection settings from urls

A url names the place of a database: host, port, database, user and password, and the SSL mode in
its query. User and password are escaped in a url; the database is taken as it stands in the path.
-/

namespace ShopQuery

/-- A part of a url that is escaped. -/
inductive UserInfoPart where
  | user
  | password
deriving DecidableEq, Repr

def UserInfoPart.name : UserInfoPart → String
  | .user => "user"
  | .password => "password"

/-- Why a url names no database. -/
inductive AddressFault where
  | url (fault : Url.Fault)
  | scheme (name : String)
  | encoding (part : UserInfoPart) (fault : Utf8.Fault)
deriving DecidableEq, Repr

def AddressFault.message : AddressFault → String
  | .url fault => s!"Invalid connection string: {fault.message}"
  | .scheme name => s!"Invalid scheme '{name}'. Expected 'postgres' or 'postgresql'"
  | .encoding part fault => s!"Invalid {part.name} encoding in connection string: {fault.message}"

namespace ConnectionSettings

def withoutJdbc (cs : List Char) : List Char :=
  match cs with
  | 'j' :: 'd' :: 'b' :: 'c' :: ':' :: rest => rest
  | cs => cs

/-- The text that an escaped part of a url stands for. -/
def unescapePart (part : UserInfoPart) (cs : List Char) : Except AddressFault String :=
  (Percent.decode cs).mapError (.encoding part)

/-- The database that a path names: all after its first slash, if that is anything. -/
def databaseOf : List Char → Option String
  | '/' :: c :: rest => some (String.ofList (c :: rest))
  | _ => none

/-- The value of the first member of a query that sets the SSL mode. -/
def sslmodeOf (query : List Char) : Option String := (Url.queryPairs query).lookup "sslmode"

def ofUrl (url : Url) : Except AddressFault ConnectionSettings := do
  if url.scheme != "postgres" && url.scheme != "postgresql" then throw (.scheme url.scheme)
  let user ← if url.user.isEmpty then pure none else some <$> unescapePart .user url.user
  let password ← url.password.mapM (unescapePart .password)
  return {
    host := url.host.map String.ofList
    port := url.port
    database := databaseOf url.path
    user
    password
    sslmode := url.query.bind sslmodeOf }

/-- The settings that a url names, which may have `jdbc:` in front. -/
def ofText (text : String) : Except AddressFault ConnectionSettings :=
  match Url.readChars (withoutJdbc text.toList) with
  | .error fault => .error (.url fault)
  | .ok url => ofUrl url

/-- The same, with the fault as an error of the configuration. -/
def read (text : String) : Except Error ConnectionSettings :=
  (ofText text).mapError fun fault => .config fault.message

end ConnectionSettings

end ShopQuery
