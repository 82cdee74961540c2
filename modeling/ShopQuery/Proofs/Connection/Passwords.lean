import ShopQuery.Connection.Address
import ShopQuery.Proofs.Connection.UserInfo
import ShopQuery.Proofs.Text.Percent

/-!
# Settings that differ in the password

Two runs may differ in the password, `p` in the one and `q` in the other. Urls that differ so name
settings that differ so, or none for the same reason (`UrlTwin.ofText`). Laying settings over each
other keeps that (`ConnectionSettings.Twin.onTopOf`), and their display does not show it
(`ConnectionSettings.Twin.display`).

## How the proof goes

Settings have one field for the password, so a relation between settings is a relation between two
optional texts (`Exchanged`) beside five equations. It is more than "some text in both": either the
texts are the same, or the one is `p` and the other `q`. Layers need this, because where the upper
layer has no password in the one run it must have none in the other, so that the lower layer shows
through in both.

Urls are compared as texts first. `Url.readChars_credentials` takes the parts of both apart, and
from there on only the escapes of the password are read differently (`ofUrl_twin`).

## The side conditions

* `decoded`: the escapes of both passwords are those of a text. Octets that are no text would make a
  url refused in the one run and accepted in the other.
* `around` and `inside`: the password is what stands between the first colon and the last `@` of the
  authority, in both texts. A password with an unescaped slash would end the authority early, and
  what follows would be read as a path.
* `p` and `q` are not empty: a url with an empty password has none at all.
* `noFile`: a scheme for files has no authority that a password could stand in.
-/

namespace ShopQuery

variable {p q : String}

/-! ## 1. Settings -/

/-- A text of two runs that may be missing: the same in both, or the password of each. -/
inductive Exchanged (p q : String) : Option String → Option String → Prop where
  | same (text : Option String) : Exchanged p q text text
  | password : Exchanged p q (some p) (some q)

/-- A password is there in both runs or in neither. -/
theorem Exchanged.isSome_eq {a b : Option String} (h : Exchanged p q a b) :
    a.isSome = b.isSome := by
  cases h <;> rfl

/-- The upper layer's password counts, or else the lower one's, in both runs alike. -/
theorem Exchanged.or {a b c d : Option String} (hupper : Exchanged p q a b)
    (hlower : Exchanged p q c d) : Exchanged p q (a.or c) (b.or d) := by
  cases hupper with
  | same =>
    cases a with
    | none => exact hlower
    | some text => exact .same _
  | password => exact .password

namespace ConnectionSettings

/-- Settings of two runs that differ in the password at most. -/
structure Twin (p q : String) (a b : ConnectionSettings) : Prop where
  host : a.host = b.host
  port : a.port = b.port
  database : a.database = b.database
  user : a.user = b.user
  password : Exchanged p q a.password b.password
  sslmode : a.sslmode = b.sslmode

namespace Twin

variable {a b c d : ConnectionSettings}

theorem refl (settings : ConnectionSettings) : Twin p q settings settings :=
  ⟨rfl, rfl, rfl, rfl, .same _, rfl⟩

/-- Layers of settings are laid over each other alike. -/
theorem onTopOf (hupper : Twin p q a b) (hlower : Twin p q c d) :
    Twin p q (a.onTopOf c) (b.onTopOf d) where
  host := congrArg₂ Option.or hupper.host hlower.host
  port := congrArg₂ Option.or hupper.port hlower.port
  database := congrArg₂ Option.or hupper.database hlower.database
  user := congrArg₂ Option.or hupper.user hlower.user
  password := hupper.password.or hlower.password
  sslmode := congrArg₂ Option.or hupper.sslmode hlower.sslmode

theorem effectiveHost (h : Twin p q a b) : a.effectiveHost = b.effectiveHost :=
  congrArg (Option.getD · "localhost") h.host

theorem effectivePort (h : Twin p q a b) : a.effectivePort = b.effectivePort :=
  congrArg (Option.getD · defaultPort) h.port

/-- The display of settings does not show the password. -/
theorem display (h : Twin p q a b) : a.display = b.display := by
  unfold ConnectionSettings.display
  rw [h.effectiveHost, h.effectivePort, h.database, h.user]

end Twin

end ConnectionSettings

/-! ## 2. Urls -/

/-- Urls of two runs that differ in the password at most. Where they differ, what counts of their
texts is the same around the password, and the password is escaped: its octets are those of a text,
and no character of it ends the authority. -/
inductive UrlTwin (p q : String) : String → String → Prop where
  | same (text : String) : UrlTwin p q text text
  | password {text other : String} {lead user after escaped escaped' : List Char}
    (first : Url.relevant (ConnectionSettings.withoutJdbc text.toList) =
      Url.credentials lead user escaped after)
    (second : Url.relevant (ConnectionSettings.withoutJdbc other.toList) =
      Url.credentials lead user escaped' after)
    (firstColon : ':' ∉ lead) (noFile : Url.classOf lead ≠ .file)
    (around : Url.Surrounds (Url.classOf lead) user after)
    (inside : ∀ c ∈ escaped ++ escaped', (Url.classOf lead).endsAuthority c = false)
    (decoded : Percent.decode escaped = .ok p) (decoded' : Percent.decode escaped' = .ok q) :
    UrlTwin p q text other

namespace ConnectionSettings

/-- The password is read from its escapes, and nothing else from it. -/
theorem ofUrl_twin {escaped escaped' : List Char} {a b : Url} (h : Url.Twin escaped escaped' a b)
    (hdecoded : Percent.decode escaped = .ok p) (hdecoded' : Percent.decode escaped' = .ok q) :
    SameOutcome (Twin p q) (ofUrl a) (ofUrl b) := by
  obtain ⟨hpassword, rfl⟩ := h
  have hread : ∀ {raw text}, Percent.decode raw = .ok text →
      (some raw).mapM (unescapePart .password) = .ok (some text) := by
    intro raw text hraw
    simp only [Option.mapM_some, unescapePart, hraw]
    rfl
  unfold ofUrl
  simp only [hpassword, hread hdecoded, hread hdecoded']
  refine .guard _ ?_
  split
  · exact .ok ⟨rfl, rfl, rfl, rfl, .password, rfl⟩
  · refine .after _ ?_
    intro user
    exact .ok ⟨rfl, rfl, rfl, rfl, .password, rfl⟩

end ConnectionSettings

/-- **The password of a url is nothing but the password.** -/
theorem UrlTwin.ofText {text other : String} (h : UrlTwin p q text other) (hp : p ≠ "")
    (hq : q ≠ "") :
    SameOutcome (ConnectionSettings.Twin p q) (ConnectionSettings.ofText text)
      (ConnectionSettings.ofText other) := by
  cases h with
  | same => exact .refl ConnectionSettings.Twin.refl _
  | password first second firstColon noFile around inside decoded decoded' =>
    have hurls := Url.readChars_credentials firstColon noFile around
      ⟨Percent.ne_nil_of_decode hp decoded, fun c hc => inside c (List.mem_append_left _ hc)⟩
      ⟨Percent.ne_nil_of_decode hq decoded', fun c hc => inside c (List.mem_append_right _ hc)⟩
      first second
    unfold ConnectionSettings.ofText
    generalize Url.readChars (ConnectionSettings.withoutJdbc text.toList) = url at hurls ⊢
    generalize Url.readChars (ConnectionSettings.withoutJdbc other.toList) = url' at hurls ⊢
    cases hurls with
    | error fault => exact .error _
    | ok hurls => exact ConnectionSettings.ofUrl_twin hurls decoded decoded'

end ShopQuery
