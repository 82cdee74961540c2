import ShopQuery.Query.Database
import ShopQuery.Server.Link
import ShopQuery.Server.Login
import ShopQuery.Server.Wire

/-!
# Sessions

A server lets clients in, prepares and answers their statements, and takes their farewell. Like a
database it may change with everything it is told, so it works on a state; nothing else is assumed
of it.

A client opens a session, asks its statements, and closes the session. A template is prepared when
it is asked for the first time; from then on the client reads its rows by the column types that it
was told then. While the session is open, the server is a database.
-/

namespace ShopQuery

/-- What a client talks to. -/
structure Server (σ : Type) where
  login : Login → σ → Except LinkFault Unit × σ
  /-- Answers the types of the columns of a template. -/
  prepare : Template → σ → Except LinkFault (List ColumnType) × σ
  /-- Answers a statement whose template is prepared. -/
  answer : Statement → σ → Except LinkFault (List WireRow) × σ
  close : σ → Except LinkFault Unit × σ

/-- The state of a server, and what its client remembers of the templates that are prepared. -/
structure Session (σ : Type) where
  state : σ
  prepared : List (Template × List ColumnType)

/-- The session with a server that was not asked anything. -/
def Session.start {σ : Type} (state : σ) : Session σ := ⟨state, []⟩

namespace Server

variable {σ : Type}

def connect (server : Server σ) (settings : ConnectionSettings) : Dialogue (Session σ) Unit := do
  let login ← ExceptT.mk (pure (Login.ofSettings settings))
  ExceptT.mk fun session =>
    let (reply, next) := server.login login session.state
    (reply.mapError (LinkFault.connectError settings), Session.start next)

/-- The column types of a template, which is prepared if it was not before. -/
def columnTypes (server : Server σ) (template : Template) (session : Session σ) :
    Except LinkFault (List ColumnType) × Session σ :=
  match session.prepared.lookup template with
  | some types => (.ok types, session)
  | none =>
    match server.prepare template session.state with
    | (.ok types, next) => (.ok types, ⟨next, session.prepared ++ [(template, types)]⟩)
    | (.error fault, next) => (.error fault, { session with state := next })

def ask (server : Server σ) (statement : Statement) (session : Session σ) :
    Except LinkFault WireTable × Session σ :=
  match server.columnTypes statement.template session with
  | (.error fault, next) => (.error fault, next)
  | (.ok types, next) =>
    let (reply, last) := server.answer statement next.state
    (reply.map fun rows => ⟨types, rows⟩, { next with state := last })

def database (server : Server σ) : Database (Session σ) where
  answer statement session :=
    match server.ask statement session with
    | (.ok table, next) => (.ok (table.result statement.template), next)
    | (.error fault, next) => (.error fault.queryError, next)

def disconnect (server : Server σ) : Dialogue (Session σ) Unit :=
  ExceptT.mk fun session =>
    let (reply, next) := server.close session.state
    (reply.mapError LinkFault.closeError, { session with state := next })

def unreachable : Server Unit where
  login _ _ := (.error (.line "Connection refused (os error 111)"), ())
  prepare _ _ := (.error (.line "Broken pipe (os error 32)"), ())
  answer _ _ := (.error (.line "Broken pipe (os error 32)"), ())
  close _ := (.error (.line "Broken pipe (os error 32)"), ())

end Server

end ShopQuery
