import ShopQuery.CommandLine.Invocation
import ShopQuery.Proofs.Connection.Passwords
import ShopQuery.Proofs.Files.Tree
import ShopQuery.Proofs.Settings.Resolution

/-!
# Resolving settings that differ in the password

The password of a run may be a variable of the environment, a setting of the config file, or part of
a url that is given from outside or in the file. Wherever it is, runs that differ in it alone have
settings that differ in it alone, or none with the same error (`Config.resolve_twin`). There is one
exception, a config file that is refused (`Config.FileTwin.load_iff`).

## What differs

* Two environments may differ in the variable of the password and in a url (`Environment.Twin`).
* Two configs may differ in the password and in the url (`Config.Twin`).
* Two documents may differ in those members of the table `database` (`DocumentTwin`). They are
  compared as they are read, so white space, comments and the order of keys are free.
* Two texts spell such documents, or neither spells any (`TextTwin`).
* Two trees have such texts at the place of the config file, or the same text there, or none
  (`FileTwin`).

Each of these is taken to the one before it by the function that reads it, or both are refused.

## Refused files

A text is refused because it is no document, or because a member has the wrong type. Either way it
does not depend on the password whether it is refused. But the diagnostic of a refused text repeats
the line in which the fault is placed, and the password may be in that line (`load_quotes`). So
loading is not the same for both texts; it succeeds for both or fails for both (`FileTwin.load`),
and the errors are the same just where the diagnostics are (`FileTwin.load_iff`). A diagnostic is up
to the reader of the file (`Toml.Diagnostics`), of which nothing is assumed but its layout.

## How the proof goes

Going through the sources one after the other, with a relation for each and a lemma for each
function that takes one to the next; outcomes are compared by `SameOutcome`, which is kept by
sequencing. That passwords are not empty is asked where a url is read: an empty password in a url
counts as none, and lets the one of another source come through.
-/

namespace ShopQuery

open ConnectionSettings

variable {p q : String}

/-! ## 1. Sources -/

/-- Environments of two runs that differ in the password at most, be it a variable or in a url. -/
structure Environment.Twin (p q : String) (a b : Environment) : Prop where
  password : Exchanged p q (a.get? "PGPASSWORD") (b.get? "PGPASSWORD")
  url : Option.Rel (UrlTwin p q) (a.get? CommandLine.Invocation.urlVariable)
    (b.get? CommandLine.Invocation.urlVariable)
  others : ∀ name, name ≠ "PGPASSWORD" → name ≠ CommandLine.Invocation.urlVariable →
    a.get? name = b.get? name

/-- Config files of two runs that differ in the password at most. -/
structure Config.Twin (p q : String) (a b : Config) : Prop where
  url : Option.Rel (UrlTwin p q) a.url b.url
  connection : ConnectionSettings.Twin p q a.connection b.connection

theorem isSome_eq_of_rel {α β : Type} {R : α → β → Prop} {a : Option α} {b : Option β}
    (h : Option.Rel R a b) : a.isSome = b.isSome := by
  cases h <;> rfl

theorem rel_or {α β : Type} {R : α → β → Prop} {a c : Option α} {b d : Option β}
    (hupper : Option.Rel R a b) (hlower : Option.Rel R c d) : Option.Rel R (a.or c) (b.or d) := by
  cases hupper with
  | none => exact hlower
  | some h => exact .some h

theorem urlRel_refl (url : Option String) : Option.Rel (UrlTwin p q) url url :=
  rel_refl .same url

theorem UrlTwin.read {text other : String} (h : UrlTwin p q text other) (hp : p ≠ "")
    (hq : q ≠ "") :
    SameOutcome (ConnectionSettings.Twin p q) (ConnectionSettings.read text)
      (ConnectionSettings.read other) :=
  (h.ofText hp hq).mapError _

theorem Environment.Twin.refl (env : Environment) : env.Twin p q env :=
  ⟨.same _, urlRel_refl _, fun _ _ _ => rfl⟩

theorem Config.Twin.refl (config : Config) : config.Twin p q config :=
  ⟨urlRel_refl _, .refl _⟩

theorem Environment.Twin.ofEnvironment {a b : Environment} (h : a.Twin p q b) :
    ConnectionSettings.Twin p q (ofEnvironment a) (ofEnvironment b) where
  host := h.others _ (by decide) (by decide)
  port := congrArg (Option.bind · readPort) (h.others _ (by decide) (by decide))
  database := h.others _ (by decide) (by decide)
  user := h.others _ (by decide) (by decide)
  password := h.password
  sslmode := h.others _ (by decide) (by decide)

/-- A fault that is placed is told with the line that has its place. -/
theorem Toml.Diagnosis.lineIn_infix_message {diagnosis : Toml.Diagnosis} {place : Toml.Place}
    {text : String} (h : diagnosis.place? = some place) :
    (place.lineIn text).toList <:+: (diagnosis.message text).toList := by
  unfold message
  rw [h]
  refine ⟨place.heading.toList, (place.marks ++ (diagnosis.cause ++ "\n")).toList, ?_⟩
  simp only [Place.excerpt, String.toList_append, List.append_assoc]

namespace Config

/-! ## 2. Config files -/

/-- Members of the table `database` of two runs that differ in the password at most, which may be a
string of its own or be part of the url. -/
structure MembersTwin (p q : String) (members members' : Toml.Entries) : Prop where
  password : Toml.find? "password" members = Toml.find? "password" members' ∨
    Toml.find? "password" members = some (.string p) ∧
      Toml.find? "password" members' = some (.string q)
  url : Toml.find? "url" members = Toml.find? "url" members' ∨
    ∃ text other, UrlTwin p q text other ∧ Toml.find? "url" members = some (.string text) ∧
      Toml.find? "url" members' = some (.string other)
  others : ∀ key, key ≠ "password" → key ≠ "url" →
    Toml.find? key members = Toml.find? key members'

/-- The members of a table, be it in braces or not. -/
def table? : Toml.Node → Option Toml.Entries
  | .table _ members | .inline _ members => some members
  | _ => none

/-- Documents of two runs that differ in the table `database` as `MembersTwin` says, or not at
all. -/
inductive DocumentTwin (p q : String) (entries entries' : Toml.Entries) : Prop where
  | same (h : Toml.find? "database" entries = Toml.find? "database" entries')
  | members {members members' : Toml.Entries}
    (first : (Toml.find? "database" entries).bind table? = some members)
    (second : (Toml.find? "database" entries').bind table? = some members')
    (h : MembersTwin p q members members')

theorem text?_congr {key : String} {members members' : Toml.Entries}
    (h : Toml.find? key members = Toml.find? key members') :
    text? key members = text? key members' := by
  unfold text?
  rw [h]

theorem text?_of_string {key value : String} {members : Toml.Entries}
    (h : Toml.find? key members = some (.string value)) : text? key members = .ok (some value) := by
  unfold text?
  rw [h]

namespace MembersTwin

variable {members members' : Toml.Entries} (h : MembersTwin p q members members')
include h

theorem text?_password :
    SameOutcome (Exchanged p q) (text? "password" members) (text? "password" members') := by
  rcases h.password with hsame | ⟨hfirst, hsecond⟩
  · rw [text?_congr hsame]
    exact .refl .same _
  · rw [text?_of_string hfirst, text?_of_string hsecond]
    exact .ok .password

theorem text?_url :
    SameOutcome (Option.Rel (UrlTwin p q)) (text? "url" members) (text? "url" members') := by
  rcases h.url with hsame | ⟨text, other, hurls, hfirst, hsecond⟩
  · rw [text?_congr hsame]
    exact .refl urlRel_refl _
  · rw [text?_of_string hfirst, text?_of_string hsecond]
    exact .ok (.some hurls)

theorem ofTable : SameOutcome (Config.Twin p q) (ofTable members) (ofTable members') := by
  have htext : ∀ key, key ≠ "password" → key ≠ "url" → text? key members = text? key members' :=
    fun key hpassword hurl => text?_congr (h.others key hpassword hurl)
  have hport : port? "port" members = port? "port" members' := by
    unfold port?
    rw [h.others "port" (by decide) (by decide)]
  unfold Config.ofTable
  refine h.text?_url.bind ?_
  intro url url' hurl
  rw [htext "host" (by decide) (by decide), hport, htext "database" (by decide) (by decide),
    htext "user" (by decide) (by decide), htext "sslmode" (by decide) (by decide)]
  refine .after _ fun host => .after _ fun port => .after _ fun database => .after _ fun user => ?_
  refine h.text?_password.bind ?_
  intro password password' hpassword
  refine .after _ fun sslmode => ?_
  exact .ok ⟨hurl, ⟨rfl, rfl, rfl, rfl, hpassword, rfl⟩⟩

end MembersTwin

theorem ofEntries_of_table? {entries members : Toml.Entries}
    (h : (Toml.find? "database" entries).bind table? = some members) :
    Config.ofEntries entries = Config.ofTable members := by
  obtain ⟨node, hfind, hnode⟩ := Option.bind_eq_some_iff.mp h
  unfold Config.ofEntries
  rw [hfind]
  cases node with
  | table _ _ | inline _ _ =>
    cases hnode
    rfl
  | _ => cases hnode

theorem DocumentTwin.ofEntries {entries entries' : Toml.Entries}
    (h : DocumentTwin p q entries entries') :
    SameOutcome (Config.Twin p q) (Config.ofEntries entries) (Config.ofEntries entries') := by
  cases h with
  | same h =>
    unfold Config.ofEntries
    rw [h]
    exact .refl Config.Twin.refl _
  | members first second h =>
    rw [ofEntries_of_table? first, ofEntries_of_table? second]
    exact h.ofTable

/-! ## 3. Loading

Whether a text is refused, and whether with a value of its own, does not depend on the password; but
what is told of a refused text is up to the diagnostic, which repeats a line of it. So the password
is out of sight just where the diagnostics of the two texts are the same. -/

/-- Texts of two runs that differ in the password at most: both spell such documents, or neither
spells any. -/
inductive TextTwin (p q text text' : String) : Prop where
  | spelled {entries entries' : Toml.Entries}
    (first : Toml.readChars text.toList = .ok entries)
    (second : Toml.readChars text'.toList = .ok entries')
    (h : DocumentTwin p q entries entries')
  | malformed {left left' : List Char}
    (first : Toml.readChars text.toList = .error left)
    (second : Toml.readChars text'.toList = .error left')

/-- Config files of two runs that differ in the password at most. -/
inductive FileTwin (p q : String) (files files' : Files) (path : String) : Prop where
  | same (exist : files.exist path = files'.exist path)
    (read : files.readText path = files'.readText path)
  | texts {text text' : String}
    (first : files.readText path = .ok text)
    (second : files'.readText path = .ok text')
    (h : TextTwin p q text text')

/-- Config files that are refused have the same diagnostic. -/
def ToldAlike [Toml.Diagnostics] (files files' : Files) (path : String) : Prop :=
  ∀ text text' fault, files.readText path = .ok text → files'.readText path = .ok text' →
    ofText text = .error fault → Toml.diagnostic text = Toml.diagnostic text'

def stringMembers (strings : List (String × String)) : Toml.Entries :=
  strings.map fun member => (member.1, .string member.2)

/-- A member with its string, if it is one. -/
def stringMember? : String × Toml.Node → Option (String × String)
  | (key, .string value) => some (key, value)
  | _ => none

/-- The members of the table `database` that a text spells, if they are strings all of them. -/
def strings? (text : String) : Option (List (String × String)) :=
  match Toml.readChars text.toList with
  | .error _ => none
  | .ok entries => do
    let members ← (Toml.find? "database" entries).bind table?
    members.mapM stringMember?

theorem eq_stringMembers {members : Toml.Entries} {strings : List (String × String)}
    (h : members.mapM stringMember? = some strings) : members = stringMembers strings := by
  induction members generalizing strings with
  | nil =>
    cases h
    rfl
  | cons member rest ih =>
    obtain ⟨key, node⟩ := member
    rw [List.mapM_cons] at h
    obtain ⟨first, hmember, h⟩ := Option.bind_eq_some_iff.mp h
    obtain ⟨others, hrest, h⟩ := Option.bind_eq_some_iff.mp h
    cases h
    cases node with
    | string value =>
      cases hmember
      rw [ih hrest]
      rfl
    | _ => cases hmember

theorem exists_entries_of_strings? {text : String} {strings : List (String × String)}
    (h : strings? text = some strings) :
    ∃ entries, Toml.readChars text.toList = .ok entries ∧
      (Toml.find? "database" entries).bind table? = some (stringMembers strings) := by
  unfold strings? at h
  split at h
  · cases h
  · rename_i entries hspells
    obtain ⟨members, htable, hmembers⟩ := Option.bind_eq_some_iff.mp h
    exact ⟨entries, hspells, eq_stringMembers hmembers ▸ htable⟩

/-- Texts with strings alone are compared by these. -/
theorem TextTwin.of_strings {text text' : String} {strings strings' : List (String × String)}
    (hfirst : strings? text = some strings) (hsecond : strings? text' = some strings')
    (h : MembersTwin p q (stringMembers strings) (stringMembers strings')) :
    TextTwin p q text text' := by
  obtain ⟨entries, hspells, htable⟩ := exists_entries_of_strings? hfirst
  obtain ⟨entries', hspells', htable'⟩ := exists_entries_of_strings? hsecond
  exact .spelled hspells hspells' (.members htable htable' h)

theorem TextTwin.ofText {text text' : String} (h : TextTwin p q text text') :
    SameSuccess (Config.Twin p q) (ofText text) (ofText text') := by
  unfold Config.ofText
  cases h with
  | spelled first second h =>
    rw [first, second]
    exact h.ofEntries.sameSuccess
  | malformed first second =>
    rw [first, second]
    exact .error _ _

section

variable [Toml.Diagnostics] {files files' : Files} {path : String}

theorem refusal_inj {text text' : String} :
    refusal path text = refusal path text' ↔ Toml.diagnostic text = Toml.diagnostic text' := by
  unfold refusal
  rw [Error.config.injEq]
  exact String.append_right_inj _

/-- A file that can be read is loaded from its text. -/
theorem load_of_readText {text : String} (h : files.readText path = .ok text) :
    load files path = (ofText text).mapError fun _ => refusal path text := by
  unfold load
  rw [Files.exist_of_readText h, h]
  rfl

/-- **A refused config file is told with a line of its own**: that in which its fault is placed. -/
theorem load_quotes {text : String} {fault : ConfigFault} {place : Toml.Place}
    (hread : files.readText path = .ok text) (hrefused : ofText text = .error fault)
    (hplace : (Toml.Diagnostics.diagnose text).place? = some place) :
    ∃ detail, load files path = .error (.config detail) ∧
      (place.lineIn text).toList <:+: detail.toList := by
  refine ⟨s!"Configuration error in {path}:\n  {Toml.diagnostic text}", ?loaded, ?quoted⟩
  case loaded =>
    rw [load_of_readText hread, hrefused]
    rfl
  case quoted =>
    rw [String.toList_append]
    exact (Toml.Diagnosis.lineIn_infix_message hplace).trans (List.suffix_append _ _).isInfix

namespace FileTwin

theorem load (h : FileTwin p q files files' path) :
    SameSuccess (Config.Twin p q) (load files path) (load files' path) := by
  cases h with
  | same exist read =>
    unfold Config.load
    rw [exist, read]
    exact .refl Config.Twin.refl _
  | texts first second h =>
    rw [load_of_readText first, load_of_readText second]
    exact h.ofText.mapError _ _

/-- Such files are loaded alike just where a refusal is told alike. -/
theorem load_iff (h : FileTwin p q files files' path) :
    SameOutcome (Config.Twin p q) (Config.load files path) (Config.load files' path) ↔
      ToldAlike files files' path := by
  rw [h.load.sameOutcome_iff]
  constructor
  · intro hsame text text' fault hread hread' hrefused
    -- The one file is refused, so the other is, with the same error; and the errors have nothing
    -- but the diagnostic to differ in.
    have hfirst : Config.load files path = .error (refusal path text) := by
      rw [load_of_readText hread, hrefused]
      rfl
    have hsecond := hsame _ hfirst
    rw [load_of_readText hread'] at hsecond
    obtain ⟨_, -, herror⟩ := mapError_eq_error_iff.mp hsecond
    exact refusal_inj.mp herror
  · intro htold e hfirst
    cases h with
    | same exist read =>
      unfold Config.load at hfirst ⊢
      rwa [← exist, ← read]
    | texts first second h =>
      have hrefused := h.ofText
      rw [load_of_readText first] at hfirst
      rw [load_of_readText second]
      obtain ⟨fault, hfault, rfl⟩ := mapError_eq_error_iff.mp hfirst
      rw [hfault] at hrefused
      generalize ofText _ = outcome at hrefused ⊢
      cases hrefused with
      | error _ fault' =>
        exact congrArg Except.error (refusal_inj.mpr (htold _ _ _ first second hfault).symm)

end FileTwin

end

/-! ## 4. Resolving -/

variable {a b : Config} {url url' : Option String} {env env' : Environment}

theorem Twin.fileSettings (h : a.Twin p q b) (hp : p ≠ "") (hq : q ≠ "") :
    SameOutcome (ConnectionSettings.Twin p q) a.fileSettings b.fileSettings := by
  obtain ⟨url, connection⟩ := a
  obtain ⟨url', connection'⟩ := b
  obtain ⟨hurl, hconnection⟩ := h
  cases hurl with
  | none => exact .ok hconnection
  | some hurl =>
    refine (hurl.read hp hq).bind ?_
    intro parts parts' hparts
    exact .ok (hconnection.onTopOf hparts)

theorem complete_twin {settings settings' : ConnectionSettings}
    (h : ConnectionSettings.Twin p q settings settings') :
    SameOutcome (ConnectionSettings.Twin p q) (complete settings) (complete settings') := by
  unfold complete
  rw [h.database]
  exact .guard _ (.ok h)

/-- **The password has no say in how settings are resolved.** Only the password itself depends on
it. -/
theorem resolve_twin (h : a.Twin p q b) (hurl : Option.Rel (UrlTwin p q) url url')
    (henv : env.Twin p q env') (hp : p ≠ "") (hq : q ≠ "") :
    SameOutcome (ConnectionSettings.Twin p q) (a.resolve url env) (b.resolve url' env') := by
  have hnamed : SameOutcome (ConnectionSettings.Twin p q)
      (url.elim a.fileSettings ConnectionSettings.read)
      (url'.elim b.fileSettings ConnectionSettings.read) := by
    cases hurl with
    | none => exact h.fileSettings hp hq
    | some hurl => exact hurl.read hp hq
  rw [resolve_eq_bind, resolve_eq_bind]
  refine hnamed.bind ?_
  intro named named' hnamed
  exact complete_twin (hnamed.onTopOf henv.ofEnvironment)

end Config

end ShopQuery
