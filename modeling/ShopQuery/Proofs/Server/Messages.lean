import ShopQuery.Proofs.Server.Reactions

/-!
# What reaches a server

`Server.logged` keeps, beside any server, the messages that its client sends while a session is
open. Logging in and saying farewell send none (`messages_connect`, `messages_disconnect`), and a
session goes the same way whether its messages are kept or not.

The log is a part of the state that no reply depends on. So a server with it and the server without
it react alike, when a state is related to itself with any log (`reactAlike_logged`), and what holds
of servers that react alike holds of these: the client finds no difference. This is what makes a
statement about the log one about any server, with no change to the server or to the client.

A session remembers which templates are prepared. So of a template that is asked twice the log has
two statements, but one preparation if that succeeds.
-/

namespace ShopQuery

/-- What a client sends while a session is open. -/
inductive Message where
  | prepare (template : Template)
  | ask (statement : Statement)

namespace Server

open Database

variable {σ : Type}

/-! ## 1. Keeping messages -/

/-- A server beside which the messages that it was sent are kept, in order. -/
def logged (server : Server σ) : Server (σ × List Message) where
  login login state :=
    let (reply, next) := server.login login state.1
    (reply, next, state.2)
  prepare template state :=
    let (reply, next) := server.prepare template state.1
    (reply, next, state.2 ++ [.prepare template])
  answer statement state :=
    let (reply, next) := server.answer statement state.1
    (reply, next, state.2 ++ [.ask statement])
  close state :=
    let (reply, next) := server.close state.1
    (reply, next, state.2)

theorem messages_connect (server : Server σ) (settings : ConnectionSettings)
    (session : Session (σ × List Message)) :
    (run (server.logged.connect settings) session).2.state.2 = session.state.2 := by
  unfold connect
  cases Login.ofSettings settings with
  | error e => rfl
  | ok login => rfl

theorem messages_disconnect (server : Server σ) (session : Session (σ × List Message)) :
    (run server.logged.disconnect session).2.state.2 = session.state.2 := rfl

/-! ## 2. Sessions -/

/-- A session whose messages are kept stands where another stands. -/
structure SameSession (a : Session (σ × List Message)) (b : Session σ) : Prop where
  state : a.state.1 = b.state
  prepared : a.prepared = b.prepared

theorem sameSession_eq :
    SameSession (σ := σ) = SessionsAlike fun (a : σ × List Message) b => a.1 = b := by
  funext a b
  exact propext ⟨fun ⟨hstate, hprepared⟩ => ⟨hstate, hprepared⟩,
    fun ⟨hstate, hprepared⟩ => ⟨hstate, hprepared⟩⟩

/-- A server reacts in the same way whether messages are kept or not. -/
theorem reactAlike_logged (server : Server σ) :
    server.logged.ReactAlike Eq (fun a b => a.1 = b) server where
  login := by
    rintro login _ state _ rfl rfl
    exact ⟨rfl, rfl⟩
  prepare := by
    rintro template state _ rfl
    exact ⟨rfl, rfl⟩
  answer := by
    rintro statement state _ rfl
    exact ⟨rfl, rfl⟩
  close := by
    rintro state _ rfl
    exact ⟨rfl, rfl⟩

theorem alike_connect (server : Server σ) (settings : ConnectionSettings) :
    Alike SameSession (server.logged.connect settings) (server.connect settings) := by
  rw [sameSession_eq]
  exact server.reactAlike_logged.connect (.refl (fun _ => rfl) _) fun _ => rfl

theorem alike_disconnect (server : Server σ) :
    Alike SameSession server.logged.disconnect server.disconnect := by
  rw [sameSession_eq]
  exact server.reactAlike_logged.disconnect

/-- A statement gets the same reply whether messages are kept or not. -/
theorem alike_execute (server : Server σ) (statement : Statement) :
    Alike SameSession (server.logged.database.execute statement)
      (server.database.execute statement) := by
  rw [sameSession_eq]
  exact server.reactAlike_logged.execute statement

end Server

end ShopQuery
