import ShopQuery.Proofs.Report.Simulation
import ShopQuery.Proofs.SameOutcome
import ShopQuery.Server.Session

/-!
# Servers that react alike

Two servers react alike if, from related states, each gives the same replies to related logins and
to the same statements, and is left in related states again (`Server.ReactAlike`). A client finds no
difference between sessions with them: not when it opens one (`ReactAlike.connect`), asks a
statement (`ReactAlike.execute`) or closes it (`ReactAlike.disconnect`).

This is a simulation with two relations: one of states, which is kept at every step, and one of
logins, which is asked for once. A session adds what the client remembers of it, the templates that
are prepared, and that is the same on both sides (`SessionsAlike`). Each step of a session is at
most two reactions of the server, so each lemma here is a case split on their replies, which are the
same. Whole dialogues follow from the steps (`Alike`).

There are two uses of it: a server with a log beside it reacts like the server without
(`Server.reactAlike_logged`), and one that pays no heed to passwords reacts like itself to logins
that differ in them (`Script.reactAlike`).
-/

namespace ShopQuery.Server

open Database

variable {σ τ α : Type} {L : Login → Login → Prop} {R : σ → τ → Prop}

/-- The same reply, with states that are related. -/
structure SameReply (R : σ → τ → Prop) (first : α × σ) (second : α × τ) : Prop where
  reply : first.1 = second.1
  state : R first.2 second.2

/-- Servers that reply alike to logins that are related by `L`, and to the same statements, as long
as their states are related by `R`. -/
structure ReactAlike (L : Login → Login → Prop) (R : σ → τ → Prop) (server : Server σ)
    (other : Server τ) : Prop where
  login : ∀ {a b : Login} {s : σ} {t : τ}, L a b → R s t →
    SameReply R (server.login a s) (other.login b t)
  prepare : ∀ (template : Template) {s : σ} {t : τ}, R s t →
    SameReply R (server.prepare template s) (other.prepare template t)
  answer : ∀ (statement : Statement) {s : σ} {t : τ}, R s t →
    SameReply R (server.answer statement s) (other.answer statement t)
  close : ∀ {s : σ} {t : τ}, R s t → SameReply R (server.close s) (other.close t)

/-- Sessions whose clients remember the same, with servers in related states. -/
structure SessionsAlike (R : σ → τ → Prop) (a : Session σ) (b : Session τ) : Prop where
  state : R a.state b.state
  prepared : a.prepared = b.prepared

theorem sessionsAlike_start {state : σ} {state' : τ} (h : R state state') :
    SessionsAlike R (Session.start state) (Session.start state') := ⟨h, rfl⟩

namespace ReactAlike

variable {server : Server σ} {other : Server τ} (h : ReactAlike L R server other)
include h

/-- A client that logs in alike, and tells faults alike, finds the same. -/
theorem connect {settings settings' : ConnectionSettings}
    (hlogin : SameOutcome L (Login.ofSettings settings) (Login.ofSettings settings'))
    (hfault : ∀ fault : LinkFault, fault.connectError settings = fault.connectError settings') :
    Alike (SessionsAlike R) (server.connect settings) (other.connect settings') := by
  rintro ⟨state, prepared⟩ ⟨state', _⟩ ⟨hstate, rfl⟩
  unfold Server.connect
  generalize Login.ofSettings settings = login at hlogin
  generalize Login.ofSettings settings' = login' at hlogin
  cases hlogin with
  | error e => exact ⟨rfl, hstate, rfl⟩
  | @ok a b hlogin =>
    obtain ⟨hreply, hnext⟩ := h.login hlogin hstate
    have herror : LinkFault.connectError settings = LinkFault.connectError settings' :=
      funext hfault
    refine ⟨?_, hnext, rfl⟩
    show (server.login a state).1.mapError _ = (other.login b state').1.mapError _
    rw [hreply, herror]

theorem disconnect : Alike (SessionsAlike R) server.disconnect other.disconnect := by
  rintro ⟨state, prepared⟩ ⟨state', _⟩ ⟨hstate, rfl⟩
  obtain ⟨hreply, hnext⟩ := h.close hstate
  exact ⟨congrArg (Except.mapError LinkFault.closeError) hreply, hnext, rfl⟩

theorem columnTypes (template : Template) {a : Session σ} {b : Session τ}
    (hsession : SessionsAlike R a b) :
    SameReply (SessionsAlike R) (server.columnTypes template a) (other.columnTypes template b) := by
  obtain ⟨state, prepared⟩ := a
  obtain ⟨state', _⟩ := b
  obtain ⟨hstate, rfl⟩ := hsession
  obtain ⟨hreply, hnext⟩ := h.prepare template hstate
  unfold Server.columnTypes
  generalize server.prepare template state = reached at hreply hnext
  generalize other.prepare template state' = reached' at hreply hnext
  obtain ⟨reply, next⟩ := reached
  obtain ⟨_, next'⟩ := reached'
  cases hreply
  cases prepared.lookup template with
  | some types => exact ⟨rfl, hstate, rfl⟩
  | none =>
    cases reply with
    | error fault => exact ⟨rfl, hnext, rfl⟩
    | ok types => exact ⟨rfl, hnext, rfl⟩

theorem ask (statement : Statement) {a : Session σ} {b : Session τ}
    (hsession : SessionsAlike R a b) :
    SameReply (SessionsAlike R) (server.ask statement a) (other.ask statement b) := by
  obtain ⟨htypes, hprepared⟩ := h.columnTypes statement.template hsession
  simp only [Server.ask]
  generalize server.columnTypes statement.template a = first at htypes hprepared
  generalize other.columnTypes statement.template b = second at htypes hprepared
  obtain ⟨types, session⟩ := first
  obtain ⟨_, session'⟩ := second
  cases htypes
  cases types with
  | error fault => exact ⟨rfl, hprepared⟩
  | ok types =>
    obtain ⟨hreply, hnext⟩ := h.answer statement hprepared.state
    exact ⟨congrArg (Except.map _) hreply, hnext, hprepared.prepared⟩

/-- A statement gets the same reply in both sessions. -/
theorem execute (statement : Statement) :
    Alike (SessionsAlike R) (server.database.execute statement)
      (other.database.execute statement) := by
  intro a b hsession
  obtain ⟨hreply, hnext⟩ := h.ask statement hsession
  show (server.database.answer statement a).1 = (other.database.answer statement b).1 ∧
    SessionsAlike R (server.database.answer statement a).2 (other.database.answer statement b).2
  simp only [database]
  generalize server.ask statement a = first at hreply hnext
  generalize other.ask statement b = second at hreply hnext
  obtain ⟨reply, left⟩ := first
  obtain ⟨_, left'⟩ := second
  cases hreply
  cases reply with
  | error fault => exact ⟨rfl, hnext⟩
  | ok table => exact ⟨rfl, hnext⟩

end ReactAlike

end ShopQuery.Server
