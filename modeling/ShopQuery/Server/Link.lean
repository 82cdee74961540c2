import ShopQuery.Connection.Settings
import ShopQuery.Error
import ShopQuery.Text.Search

/-!
# Faults of a session

What can go wrong between client and server, and how it is told.

A fault while a session is opened is told in the words of the settings, if it is of a known kind.
The kind is found in the text of the fault.
-/

namespace ShopQuery

structure ErrorReport where
  message : String
  detail : Option String
  hint : Option String
deriving DecidableEq, Repr

/-- What goes wrong in a session. -/
inductive LinkFault where
  /-- The line does not work. -/
  | line (detail : String)
  /-- The line cannot be encrypted. -/
  | encryption (detail : String)
  /-- What is sent or received does not follow the protocol. -/
  | protocol (detail : String)
  /-- The client finds its own settings at fault. -/
  | configuration (detail : String)
  /-- The server reports an error. -/
  | reported (report : ErrorReport)
  /-- Any other fault of the client, in its own words. -/
  | other (text : String)
deriving DecidableEq, Repr

namespace LinkFault

def message : LinkFault → String
  | .line detail => s!"error communicating with database: {detail}"
  | .encryption detail =>
    s!"error occurred while attempting to establish a TLS connection: {detail}"
  | .protocol detail => s!"encountered unexpected or invalid data: {detail}"
  | .configuration detail => s!"error with configuration: {detail}"
  | .reported report => s!"error returned from database: {report.message}"
  | .other text => text

/-- A part of a report after its message. -/
def labelled (label : String) : Option String → String
  | some text => "; " ++ label ++ ": " ++ text
  | none => ""

/-- The wording of a fault of a query: what the server reports is told in full. -/
def queryMessage : LinkFault → String
  | .reported report =>
    report.message ++ labelled "DETAIL" report.detail ++ labelled "HINT" report.hint
  | fault => fault.message

end LinkFault

/-- A kind of fault while a session is opened. -/
inductive ConnectTrouble where
  | unreachable
  | authentication
  | databaseMissing
  | encryptionNeeded
  | timeout
  | other
deriving DecidableEq, Repr

namespace ConnectTrouble

/-- The kind of a fault, from its text. The first kind that fits counts. -/
def ofText (text : String) : ConnectTrouble :=
  if mentions text "connection refused" || mentions text "could not connect" then .unreachable
  else if mentions text "authentication failed" then .authentication
  else if mentions text "does not exist" && mentions text "database" then .databaseMissing
  else if mentions text "ssl" || mentions text "tls" then .encryptionNeeded
  else if mentions text "timed out" || mentions text "timeout" then .timeout
  else .other

/-- How a fault of a kind is told; `text` is its own text. -/
def message (settings : ConnectionSettings) (text : String) : ConnectTrouble → String
  | .unreachable =>
    s!"Cannot connect to {settings.effectiveHost}:{settings.effectivePort.toNat}. " ++
      "Check that the server is running."
  | .authentication =>
    let user := settings.user.getD "unknown"
    s!"Authentication failed for user '{user}'. Check your credentials."
  | .databaseMissing =>
    let database := settings.database.getD "unknown"
    s!"Database '{database}' does not exist."
  | .encryptionNeeded => "Server requires SSL. Add '?sslmode=require' to the database url."
  | .timeout =>
    s!"Connection to {settings.effectiveHost}:{settings.effectivePort.toNat} timed out."
  | .other => text

end ConnectTrouble

/-- The error of a fault while a session is opened. -/
def LinkFault.connectError (settings : ConnectionSettings) (fault : LinkFault) : Error :=
  .connection ((ConnectTrouble.ofText fault.message).message settings fault.message)

/-- The error of a fault while a statement is answered. -/
def LinkFault.queryError (fault : LinkFault) : Error := .query fault.queryMessage

/-- The error of a fault while a session is closed. -/
def LinkFault.closeError (fault : LinkFault) : Error :=
  .connection s!"Failed to close connection: {fault.message}"

end ShopQuery
