import ShopQuery.Server.Session

/-!
# Scripted servers

A server that follows a script: whether it lets clients in, and what it replies to the statements,
one after the other. It keeps what reached it.

## Preparing

A template is prepared with the column types of the next reply. An error that is not late comes
then, unless the template is prepared already; in that case it comes with the answer like any other.

## Broken lines

The line is closed when the script says so, or when the replies are used up. A deaf server takes
nothing more once it has given its last reply.
-/

namespace ShopQuery

/-! ## 1. Scripts -/

inductive Reply where
  | rows (table : WireTable)
  /-- An error; `late` says that it comes after the parameters even if the template is new. -/
  | failure (report : ErrorReport) (late : Bool) (types : List ColumnType)
  | hangup
deriving DecidableEq, Repr

def Reply.types : Reply → List ColumnType
  | .rows table => table.types
  | .failure _ _ types => types
  | .hangup => []

structure Script where
  /-- Nothing listens. -/
  refuses : Bool
  /-- Clients are asked for a password. -/
  asksPassword : Bool
  /-- Clients are not let in. -/
  rejection : Option ErrorReport
  replies : List Reply
  deaf : Bool
deriving DecidableEq, Repr

/-- How the line between client and server is. -/
inductive LineState where
  | working
  /-- What is sent does not reach the server. -/
  | deaf
  /-- The server has closed the line. -/
  | closed
deriving DecidableEq, Repr

/-- What a server has done, and what it still has to do. -/
structure ScriptState where
  replies : List Reply
  line : LineState
  /-- What the client was let in with. -/
  login : Option Login
  /-- The statements whose parameters reached the server. -/
  sent : List Statement
  /-- The client said farewell. -/
  terminated : Bool
deriving DecidableEq, Repr

namespace Script

/-! ## 2. Lines -/

/-- The fault of a line that nothing can be sent on. -/
def brokenPipe : LinkFault := .line "Broken pipe (os error 32)"

/-- The fault of a line that the server closes instead of a reply. -/
def endOfLine : LinkFault := .line "expected to read 5 bytes, got 0 bytes at EOF"

/-- What goes wrong when a statement is asked on a line. -/
def lineFault? : LineState → Option LinkFault
  | .working => none
  | .deaf => some brokenPipe
  | .closed => some endOfLine

/-- The line when some replies are left. -/
def lineWith (script : Script) (left : List Reply) : LineState :=
  if script.deaf && left.isEmpty then .deaf else .working

/-! ## 3. Sessions -/

def start (script : Script) : ScriptState := ⟨script.replies, .deaf, none, [], false⟩

/-- Lets a client in, or not. -/
def login (script : Script) (login : Login) (state : ScriptState) :
    Except LinkFault Unit × ScriptState :=
  if script.refuses then (.error (.line "Connection refused (os error 111)"), state)
  else if login.sslMode.needsEncryption then
    (.error (.encryption "server does not support TLS"), state)
  else
    match script.rejection with
    | some report => (.error (.reported report), state)
    | none =>
      (.ok (), { state with login := some login, line := script.lineWith state.replies })

def replied (script : Script) (left : List Reply) (state : ScriptState) : ScriptState :=
  { state with replies := left, line := script.lineWith left }

def prepare (script : Script) (_ : Template) (state : ScriptState) :
    Except LinkFault (List ColumnType) × ScriptState :=
  match lineFault? state.line with
  | some fault => (.error fault, state)
  | none =>
    match state.replies with
    | [] => (.ok [], state)
    | .failure report false _ :: left => (.error (.reported report), script.replied left state)
    | reply :: _ => (.ok reply.types, state)

def answer (script : Script) (statement : Statement) (state : ScriptState) :
    Except LinkFault (List WireRow) × ScriptState :=
  match lineFault? state.line with
  | some fault => (.error fault, state)
  | none =>
    let reached := { state with sent := state.sent ++ [statement] }
    match state.replies with
    | [] | .hangup :: _ => (.error endOfLine, { reached with line := .closed })
    | .rows table :: left => (.ok table.rows, script.replied left reached)
    | .failure report _ _ :: left => (.error (.reported report), script.replied left reached)

/-- Takes the farewell of a client. -/
def close (state : ScriptState) : Except LinkFault Unit × ScriptState :=
  if state.line = .working then (.ok (), { state with line := .closed, terminated := true })
  else (.error brokenPipe, state)

def server (script : Script) : Server ScriptState :=
  ⟨script.login, script.prepare, script.answer, close⟩

/-- The password that reached the server, if it asked for one. A client without a password sends an
empty one. -/
def passwordOf (script : Script) (login : Login) : Option String :=
  if script.asksPassword then some (login.password.getD "") else none

end Script

end ShopQuery
