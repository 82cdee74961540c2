import ShopQuery.Proofs.Text.Search
import ShopQuery.Server.Link

/-!
# How a rejected login is told

A server that rejects a login quotes a name: of a role that is missing or has another password, or
of a database that is missing. The kind of the fault is looked for in the whole text of it, name and
all. So what is found (`foundKind`) depends on the name, and on the words that the client puts in
front: they mention a database every time, and a missing role is told as a missing database.
`connectError_complaint` says which complaints are told as what they are about (`IsClear`).

## How the proof goes

The text of a fault is made of pieces: the words of the client and of the server, the name in
quotes, and the words behind it. What is looked for has no quote in it, so it is mentioned in the
text just if it is mentioned in one of the pieces; it cannot reach from one into the next
(`mentions_fault`). What the words mention is fixed and is computed for each issue
(`wordsMention_unreachable` and the lemmas behind it); only what the name mentions is left open.
With this the kind that is found is read off the order in which kinds are looked for
(`ofText_fault`).

That a complaint which is not clear is really told otherwise needs one thing more: errors of
different kinds are different texts, whatever the settings are. Their first letters tell them apart
(`head?_message`), except a server that cannot be reached from one that is slow; no complaint is
taken for a slow server or is about one.

## Why the conditions are there

No condition is put on the name, the settings, the detail and the hint. The complaints are those of
a server that speaks English: the issues have the words that it uses.
-/

namespace ShopQuery

/-! ## 1. Complaints -/

/-- What is not right about a login. -/
inductive LoginIssue where
  | roleMissing
  | databaseMissing
  | wrongPassword
deriving DecidableEq, Repr

namespace LoginIssue

/-- What a server says in front of the name. -/
def lead : LoginIssue → String
  | .roleMissing => "role "
  | .databaseMissing => "database "
  | .wrongPassword => "password authentication failed for user "

/-- What a server says behind the name. -/
def rest : LoginIssue → String
  | .roleMissing | .databaseMissing => " does not exist"
  | .wrongPassword => ""

/-- The kind of fault that an issue is. A missing role is of no kind that has a wording of its
own. -/
def kind : LoginIssue → ConnectTrouble
  | .roleMissing => .other
  | .databaseMissing => .databaseMissing
  | .wrongPassword => .authentication

/-- Whether the words around the name, with those that the client puts in front, mention
something. -/
def wordsMention (issue : LoginIssue) (needle : String) : Bool :=
  mentions ("error returned from database: " ++ issue.lead) needle || mentions issue.rest needle

/-- The words around the name never speak of the line. -/
theorem wordsMention_unreachable (issue : LoginIssue) :
    issue.wordsMention "connection refused" = false ∧
      issue.wordsMention "could not connect" = false := by
  cases issue <;> decide +kernel

theorem wordsMention_authentication (issue : LoginIssue) :
    issue.wordsMention "authentication failed" = decide (issue = .wrongPassword) := by
  cases issue <;> decide +kernel

theorem wordsMention_missing (issue : LoginIssue) :
    issue.wordsMention "does not exist" = decide (issue ≠ .wrongPassword) := by
  cases issue <;> decide +kernel

/-- The words around the name always speak of a database. -/
theorem wordsMention_database (issue : LoginIssue) : issue.wordsMention "database" = true := by
  cases issue <;> decide +kernel

end LoginIssue

/-- What a server says of a login that it rejects. The name is of a role or of a database. -/
structure LoginComplaint where
  issue : LoginIssue
  name : String

namespace LoginComplaint

def message (complaint : LoginComplaint) : String :=
  complaint.issue.lead ++ "\"" ++ complaint.name ++ "\"" ++ complaint.issue.rest

/-- The fault of a login that meets a complaint. -/
def fault (complaint : LoginComplaint) (detail hint : Option String) : LinkFault :=
  .reported ⟨complaint.message, detail, hint⟩

/-- The error that tells a complaint by the kind of its issue. -/
def plainError (complaint : LoginComplaint) (settings : ConnectionSettings)
    (detail hint : Option String) : Error :=
  .connection (complaint.issue.kind.message settings (complaint.fault detail hint).message)

/-- The kind of fault that a complaint is taken for. -/
def foundKind (complaint : LoginComplaint) : ConnectTrouble :=
  if mentions complaint.name "connection refused" ||
      mentions complaint.name "could not connect" then
    .unreachable
  else if mentions complaint.name "authentication failed" then .authentication
  else if complaint.issue = .wrongPassword then .authentication
  else .databaseMissing

/-- A complaint does not mislead: it is not of a missing role, and the name mentions no kind that
is looked for earlier. -/
structure IsClear (complaint : LoginComplaint) : Prop where
  issue : complaint.issue ≠ .roleMissing
  refused : mentions complaint.name "connection refused" = false
  connect : mentions complaint.name "could not connect" = false
  authentication :
    complaint.issue = .databaseMissing → mentions complaint.name "authentication failed" = false

theorem foundKind_eq_kind_iff (complaint : LoginComplaint) :
    complaint.foundKind = complaint.issue.kind ↔ complaint.IsClear := by
  obtain ⟨issue, name⟩ := complaint
  have hclear : LoginComplaint.IsClear ⟨issue, name⟩ ↔
      issue ≠ .roleMissing ∧ mentions name "connection refused" = false ∧
        mentions name "could not connect" = false ∧
        (issue = .databaseMissing → mentions name "authentication failed" = false) :=
    ⟨fun ⟨a, b, c, d⟩ => ⟨a, b, c, d⟩, fun ⟨a, b, c, d⟩ => ⟨a, b, c, d⟩⟩
  rw [hclear, foundKind]
  cases issue <;> grind [LoginIssue.kind]

/-! ## 2. The kind that is found -/

theorem message_fault (complaint : LoginComplaint) (detail hint : Option String) :
    (complaint.fault detail hint).message =
      "error returned from database: " ++ complaint.issue.lead ++ "\"" ++ complaint.name ++ "\"" ++
        complaint.issue.rest := by
  have hmessage : (complaint.fault detail hint).message =
      "error returned from database: " ++ complaint.message := rfl
  simp only [hmessage, message, String.append_assoc]

/-- What the text of a fault mentions, the name mentions or the words around it. -/
theorem mentions_fault (complaint : LoginComplaint) (detail hint : Option String) {needle : String}
    (hquote : '"' ∉ needle.toList) :
    mentions (complaint.fault detail hint).message needle =
      (mentions complaint.name needle || complaint.issue.wordsMention needle) := by
  rw [message_fault, mentions_quoting _ _ _ hquote, LoginIssue.wordsMention,
    Bool.or_right_comm, Bool.or_comm]

theorem ofText_fault (complaint : LoginComplaint) (detail hint : Option String) :
    ConnectTrouble.ofText (complaint.fault detail hint).message = complaint.foundKind := by
  unfold ConnectTrouble.ofText foundKind
  obtain ⟨hrefused, hconnect⟩ := complaint.issue.wordsMention_unreachable
  rw [mentions_fault _ _ _ (by decide : '"' ∉ "connection refused".toList), hrefused,
    mentions_fault _ _ _ (by decide : '"' ∉ "could not connect".toList), hconnect,
    mentions_fault _ _ _ (by decide : '"' ∉ "authentication failed".toList),
    LoginIssue.wordsMention_authentication,
    mentions_fault _ _ _ (by decide : '"' ∉ "does not exist".toList),
    LoginIssue.wordsMention_missing,
    mentions_fault _ _ _ (by decide : '"' ∉ "database".toList), LoginIssue.wordsMention_database]
  by_cases hpassword : complaint.issue = .wrongPassword <;> grind

/-! ## 3. The report -/

/-- The letter that a complaint is told with first, as a fault of some kind. -/
def initial : ConnectTrouble → Char
  | .unreachable | .timeout => 'C'
  | .authentication => 'A'
  | .databaseMissing => 'D'
  | .encryptionNeeded => 'S'
  | .other => 'e'

theorem head?_message (complaint : LoginComplaint) (settings : ConnectionSettings)
    (detail hint : Option String) (kind : ConnectTrouble) :
    (kind.message settings (complaint.fault detail hint).message).toList.head? =
      some (initial kind) := by
  unfold ConnectTrouble.message
  cases kind with
  | other => rw [message_fault]; simp [initial]
  | unreachable | authentication | databaseMissing | encryptionNeeded | timeout =>
    simp [toString, initial]

/-- A complaint that is taken for another kind is told otherwise. -/
theorem foundKind_eq_of_message_eq {complaint : LoginComplaint} {settings : ConnectionSettings}
    {detail hint : Option String}
    (h : complaint.foundKind.message settings (complaint.fault detail hint).message =
      complaint.issue.kind.message settings (complaint.fault detail hint).message) :
    complaint.foundKind = complaint.issue.kind := by
  have hinitial : initial complaint.foundKind = initial complaint.issue.kind := by
    have hhead := congrArg (fun text => text.toList.head?) h
    simpa only [head?_message, Option.some.injEq] using hhead
  have hfound : complaint.foundKind = .unreachable ∨ complaint.foundKind = .authentication ∨
      complaint.foundKind = .databaseMissing := by
    unfold foundKind
    grind
  rcases hfound with hfound | hfound | hfound <;> rw [hfound] at hinitial ⊢ <;>
    revert hinitial <;> cases complaint.issue <;> decide

/-- **Misleading names.** A complaint is told as the kind that is found in its text and by the name
that it quotes; that is how its issue is to be told if and only if the complaint is clear. -/
theorem connectError_complaint (complaint : LoginComplaint) (settings : ConnectionSettings)
    (detail hint : Option String) :
    (complaint.fault detail hint).connectError settings =
        .connection (complaint.foundKind.message settings (complaint.fault detail hint).message) ∧
      ((complaint.fault detail hint).connectError settings =
        complaint.plainError settings detail hint ↔ complaint.IsClear) := by
  have hfound : (complaint.fault detail hint).connectError settings =
      .connection (complaint.foundKind.message settings (complaint.fault detail hint).message) := by
    rw [LinkFault.connectError, ofText_fault]
  refine ⟨hfound, ?_⟩
  rw [hfound, plainError, Error.connection.injEq, ← foundKind_eq_kind_iff]
  exact ⟨foundKind_eq_of_message_eq, fun h => by rw [h]⟩

/-- A missing role is told as a missing database, and a database with a name of ill omen as a server
that does not run. -/
theorem connectError_misled :
    ((⟨.roleMissing, "clerk"⟩ : LoginComplaint).fault none none).connectError
        ⟨some "db", some 5432, some "shop", some "clerk", none, none⟩ =
      .connection "Database 'shop' does not exist." ∧
    (⟨.roleMissing, "clerk"⟩ : LoginComplaint).plainError
        ⟨some "db", some 5432, some "shop", some "clerk", none, none⟩ none none =
      .connection "error returned from database: role \"clerk\" does not exist" ∧
    ((⟨.databaseMissing, "connection refused"⟩ : LoginComplaint).fault none none).connectError
        ⟨some "db", some 5432, some "connection refused", some "clerk", none, none⟩ =
      .connection "Cannot connect to db:5432. Check that the server is running." ∧
    (⟨.databaseMissing, "connection refused"⟩ : LoginComplaint).plainError
        ⟨some "db", some 5432, some "connection refused", some "clerk", none, none⟩ none none =
      .connection "Database 'connection refused' does not exist." := by
  decide +kernel

end LoginComplaint

end ShopQuery
