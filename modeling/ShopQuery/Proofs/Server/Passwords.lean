import ShopQuery.Proofs.Connection.Passwords
import ShopQuery.Proofs.Server.Reactions
import ShopQuery.Server.Script

/-!
# Logging in with different passwords

Settings that differ in the password are logins that differ in the password, or none with the same
error, and faults are told alike in them. So clients that differ in the password find no difference
between servers that react alike to it (`Server.ReactAlike.connect_twin`); scripted servers do
(`Script.reactAlike`).

A server may well look at the password: it lets a client in with one and not with another. Then the
two runs differ, and no program could hide it. That the servers react alike is therefore a condition
of everything that is said of passwords. A scripted server meets it, because it has its reactions
before it has a client; it only keeps the login that it was shown, and so the states of two of them
are related but not equal (`ScriptState.Twin`).
-/

namespace ShopQuery

variable {p q : String}

/-! ## 1. Clients -/

/-- Logins of two runs that differ in the password at most. -/
structure Login.Twin (p q : String) (a b : Login) : Prop where
  host : a.host = b.host
  port : a.port = b.port
  database : a.database = b.database
  user : a.user = b.user
  password : Exchanged p q a.password b.password
  sslMode : a.sslMode = b.sslMode

namespace ConnectionSettings.Twin

variable {a b : ConnectionSettings} (h : Twin p q a b)
include h

theorem ofSettings : SameOutcome (Login.Twin p q) (Login.ofSettings a) (Login.ofSettings b) := by
  have hmode : Login.sslModeOf a = Login.sslModeOf b := by
    unfold Login.sslModeOf
    rw [h.sslmode]
  unfold Login.ofSettings
  rw [h.database, hmode]
  split
  · exact .error _
  · refine .after _ ?_
    intro sslMode
    exact .ok ⟨h.effectiveHost, h.effectivePort, rfl, h.user, h.password, rfl⟩

/-- A fault is told by the place, the user and the database. -/
theorem connectError (fault : LinkFault) : fault.connectError a = fault.connectError b := by
  unfold LinkFault.connectError ConnectTrouble.message
  rw [h.effectiveHost, h.effectivePort, h.user, h.database]

end ConnectionSettings.Twin

theorem Server.ReactAlike.connect_twin {σ τ : Type} {R : σ → τ → Prop} {server : Server σ}
    {other : Server τ} (h : server.ReactAlike (Login.Twin p q) R other)
    {settings settings' : ConnectionSettings}
    (hsettings : ConnectionSettings.Twin p q settings settings') :
    Alike (SessionsAlike R) (server.connect settings) (other.connect settings') :=
  h.connect hsettings.ofSettings hsettings.connectError

/-! ## 2. Scripted servers -/

/-- States of a scripted server that differ in the password of the login at most. -/
inductive ScriptState.Twin (p q : String) : ScriptState → ScriptState → Prop where
  | intro {replies : List Reply} {line : LineState} {login login' : Option Login}
    {sent : List Statement} {terminated : Bool} (h : Option.Rel (Login.Twin p q) login login') :
    Twin p q ⟨replies, line, login, sent, terminated⟩ ⟨replies, line, login', sent, terminated⟩

namespace Script

theorem start_twin (script : Script) : script.start.Twin p q script.start := ⟨.none⟩

/-- A scripted server keeps the password, but does not look at it. -/
theorem reactAlike (script : Script) :
    script.server.ReactAlike (Login.Twin p q) (ScriptState.Twin p q) script.server where
  login {a b s t} hlogin h := by
    obtain ⟨hkept⟩ := h
    show Server.SameReply _ (script.login a _) (script.login b _)
    unfold Script.login
    rw [hlogin.sslMode]
    split
    · exact ⟨rfl, ⟨hkept⟩⟩
    · split
      · exact ⟨rfl, ⟨hkept⟩⟩
      · split
        · exact ⟨rfl, ⟨hkept⟩⟩
        · exact ⟨rfl, ⟨.some hlogin⟩⟩
  prepare template {s t} h := by
    obtain ⟨hkept⟩ := h
    show Server.SameReply _ (script.prepare template _) (script.prepare template _)
    unfold Script.prepare
    dsimp only
    split
    · exact ⟨rfl, ⟨hkept⟩⟩
    · split
      all_goals exact ⟨rfl, ⟨hkept⟩⟩
  answer statement {s t} h := by
    obtain ⟨hkept⟩ := h
    show Server.SameReply _ (script.answer statement _) (script.answer statement _)
    unfold Script.answer
    dsimp only
    split
    · exact ⟨rfl, ⟨hkept⟩⟩
    · split
      all_goals exact ⟨rfl, ⟨hkept⟩⟩
  close {s t} h := by
    obtain ⟨hkept⟩ := h
    show Server.SameReply _ (Script.close _) (Script.close _)
    unfold Script.close
    dsimp only
    split
    all_goals exact ⟨rfl, ⟨hkept⟩⟩

end Script

end ShopQuery
