import ShopQuery.Proofs.FirstFailure
import ShopQuery.Settings.Config

/-!
# Where settings come from

The settings of a connection are laid over each other: every setting is that of the first layer that
has it (`ConnectionSettings.IsOverlay`), and the variables of the environment are the last layer
(`ConnectionSettings.IsReadFrom`). A url from outside is the only layer above them; without one, the
single settings of the config file come first and then the parts of its url (`Config.HasLayers`).
There are settings exactly if the url that is read names a place and some layer names a database
(`Config.resolve_precedence`).

## How the proof goes

Settings are filled in one by one, at two points: parts of a url under single settings, and
variables under both. `IsOverlay` says what should come of it for a list of layers, and each of the
two points is one more layer on top (`IsOverlay.onTopOf`). So resolving with given layers is to lay
them over each other from below and then to ask for a database (`resolve_of_hasLayers`).

What is left is to see which layers there are. Either the url that is read has parts, and then there
is a list of layers, or it fails, and then the config fails with it (`hasLayers_or_urlFails`). Both
are said of the sources: `HasLayers` has one constructor for each way in which a url may be given,
and `UrlFails` says which url is read. With both computed, each of the two equivalences is a case
split on this (`resolve_eq_ok_iff`, `resolve_eq_error_iff`).

A url in the file is below the single settings of the file. It is not read at all, and cannot fail,
where there is a url from outside.

## Ports

A variable is a port if it spells one: decimal digits, perhaps with a plus sign, that come to less
than 65536 (`SpellsPort`). Leading zeros do not count. A variable that spells none is no error; the
port is then not set by it.
-/

namespace ShopQuery

namespace ConnectionSettings

/-! ## 1. Layers -/

/-- Settings in layers, the first one on top: every setting is that of the first layer that has
it. -/
structure IsOverlay (layers : List ConnectionSettings) (settings : ConnectionSettings) : Prop where
  host : settings.host = layers.findSome? (·.host)
  port : settings.port = layers.findSome? (·.port)
  database : settings.database = layers.findSome? (·.database)
  user : settings.user = layers.findSome? (·.user)
  password : settings.password = layers.findSome? (·.password)
  sslmode : settings.sslmode = layers.findSome? (·.sslmode)

theorem findSome?_cons_eq_or {α β : Type} (f : α → Option β) (x : α) (xs : List α) :
    (x :: xs).findSome? f = (f x).or (xs.findSome? f) := by
  rw [List.findSome?_cons]
  cases f x <;> rfl

theorem isOverlay_singleton (settings : ConnectionSettings) : IsOverlay [settings] settings := by
  constructor <;> simp [List.findSome?_singleton]

/-- Layers can always be laid over each other. -/
theorem exists_isOverlay (layers : List ConnectionSettings) :
    ∃ settings, IsOverlay layers settings :=
  ⟨⟨_, _, _, _, _, _⟩, rfl, rfl, rfl, rfl, rfl, rfl⟩

/-- One more layer on top. -/
theorem IsOverlay.onTopOf {layers : List ConnectionSettings} {lower : ConnectionSettings}
    (h : IsOverlay layers lower) (upper : ConnectionSettings) :
    IsOverlay (upper :: layers) (upper.onTopOf lower) where
  host := by rw [findSome?_cons_eq_or, ← h.host]; rfl
  port := by rw [findSome?_cons_eq_or, ← h.port]; rfl
  database := by rw [findSome?_cons_eq_or, ← h.database]; rfl
  user := by rw [findSome?_cons_eq_or, ← h.user]; rfl
  password := by rw [findSome?_cons_eq_or, ← h.password]; rfl
  sslmode := by rw [findSome?_cons_eq_or, ← h.sslmode]; rfl

theorem IsOverlay.unique {layers : List ConnectionSettings} {first second : ConnectionSettings}
    (hfirst : IsOverlay layers first) (hsecond : IsOverlay layers second) : first = second := by
  obtain ⟨host, port, database, user, password, sslmode⟩ := first
  obtain ⟨rfl, rfl, rfl, rfl, rfl, rfl⟩ := hfirst
  obtain ⟨host, port, database, user, password, sslmode⟩ := second
  obtain ⟨rfl, rfl, rfl, rfl, rfl, rfl⟩ := hsecond
  rfl

theorem IsOverlay.database_eq_none_iff {layers : List ConnectionSettings}
    {settings : ConnectionSettings} (h : IsOverlay layers settings) :
    settings.database = none ↔ ∀ layer ∈ layers, layer.database = none := by
  rw [h.database, List.findSome?_eq_none_iff]

theorem onTopOf_assoc (first second third : ConnectionSettings) :
    (first.onTopOf second).onTopOf third = first.onTopOf (second.onTopOf third) := by
  simp [onTopOf, Option.or_assoc]

/-! ## 2. The environment -/

/-- A text spells a port: decimal digits, perhaps with a plus sign in front. -/
def SpellsPort (text : String) (port : UInt16) : Prop :=
  ∃ digits, digits ≠ [] ∧ (∀ c ∈ digits, c.isDigit = true) ∧
    (text.toList = digits ∨ text.toList = '+' :: digits) ∧ decimalNumber digits = port.toNat

theorem readPort_of_digits {text : String} {digits : List Char} (hne : digits ≠ [])
    (hdigits : ∀ c ∈ digits, c.isDigit = true)
    (htext : text.toList = digits ∨ text.toList = '+' :: digits) :
    readPort text =
      if decimalNumber digits < 65536 then some (UInt16.ofNat (decimalNumber digits))
      else none := by
  have hall : digits.all Char.isDigit = true := List.all_eq_true.mpr hdigits
  unfold readPort
  rcases htext with htext | htext
  · rw [htext]
    -- A digit is no plus sign.
    split
    · exact absurd (hdigits '+' List.mem_cons_self) (by decide)
    · simp [hne, hall]
  · rw [htext]
    simp [hne, hall]

theorem readPort_eq_some_iff {text : String} {port : UInt16} :
    readPort text = some port ↔ SpellsPort text port := by
  constructor
  · intro h
    obtain ⟨digits, htext, hdigits⟩ : ∃ digits,
        (text.toList = digits ∨ text.toList = '+' :: digits) ∧
        (!digits.isEmpty && digits.all Char.isDigit) = true := by
      unfold readPort at h
      dsimp only at h
      split at h
      all_goals
        rename_i htext
        rw [Option.ite_none_right_eq_some, Bool.and_eq_true] at h
      · exact ⟨_, Or.inr htext, h.1.1⟩
      · exact ⟨_, Or.inl rfl, h.1.1⟩
    rw [Bool.and_eq_true, List.all_eq_true] at hdigits
    have hne : digits ≠ [] := by simpa using hdigits.1
    rw [readPort_of_digits hne hdigits.2 htext] at h
    split at h
    · rename_i hlt
      cases h
      exact ⟨digits, hne, hdigits.2, htext, (UInt16.toNat_ofNat_of_lt' hlt).symm⟩
    · cases h
  · rintro ⟨digits, hne, hdigits, htext, hport⟩
    rw [readPort_of_digits hne hdigits htext, hport, UInt16.ofNat_toNat, if_pos port.toNat_lt]

/-- Settings are those of the variables. A port that is none is not set. -/
structure IsReadFrom (env : Environment) (settings : ConnectionSettings) : Prop where
  host : settings.host = env.get? "PGHOST"
  port : ∀ port, settings.port = some port ↔
    ∃ text, env.get? "PGPORT" = some text ∧ SpellsPort text port
  database : settings.database = env.get? "PGDATABASE"
  user : settings.user = env.get? "PGUSER"
  password : settings.password = env.get? "PGPASSWORD"
  sslmode : settings.sslmode = env.get? "PGSSLMODE"

theorem isReadFrom_iff {env : Environment} {settings : ConnectionSettings} :
    IsReadFrom env settings ↔ settings = ofEnvironment env := by
  have hport : ∀ found : Option UInt16, (∀ port, found = some port ↔
      ∃ text, env.get? "PGPORT" = some text ∧ SpellsPort text port) ↔
        found = (env.get? "PGPORT").bind readPort := by
    intro found
    rw [Option.ext_iff]
    simp only [Option.bind_eq_some_iff, readPort_eq_some_iff]
  obtain ⟨host, port, database, user, password, sslmode⟩ := settings
  constructor
  · rintro ⟨rfl, h, rfl, rfl, rfl, rfl⟩
    cases (hport port).mp h
    rfl
  · intro h
    cases h
    exact ⟨rfl, (hport _).mpr rfl, rfl, rfl, rfl, rfl⟩

end ConnectionSettings

namespace Config

open ConnectionSettings

/-! ## 3. Sources -/

/-- The layers of settings: a url from outside alone, or else the single settings of the file and
the parts of its url; and below them the environment. -/
inductive HasLayers (config : Config) (env : Environment) :
    Option String → List ConnectionSettings → Prop where
  | outside {text : String} {parts below : ConnectionSettings}
    (read : ConnectionSettings.ofText text = .ok parts) (names : IsReadFrom env below) :
    HasLayers config env (some text) [parts, below]
  | file {below : ConnectionSettings} (unnamed : config.url = none)
    (names : IsReadFrom env below) : HasLayers config env none [config.connection, below]
  | fileUrl {text : String} {parts below : ConnectionSettings} (named : config.url = some text)
    (read : ConnectionSettings.ofText text = .ok parts) (names : IsReadFrom env below) :
    HasLayers config env none [config.connection, parts, below]

/-- The url that is read, from outside or else of the file, names no place. -/
def UrlFails (config : Config) (url : Option String) (fault : AddressFault) : Prop :=
  ∃ text, url.or config.url = some text ∧ ConnectionSettings.ofText text = .error fault

/-- The error where no layer names a database. -/
def databaseMissing : Error :=
  .config "Database name is required (set database.url, database.database or PGDATABASE)"

/-- Settings that have to name a database. -/
def complete (settings : ConnectionSettings) : Except Error ConnectionSettings :=
  if settings.database = none then .error databaseMissing else .ok settings

theorem complete_eq_ok_iff {settings completed : ConnectionSettings} :
    complete settings = .ok completed ↔ settings = completed ∧ settings.database ≠ none := by
  unfold complete
  split <;> simp_all

theorem complete_eq_error_iff {settings : ConnectionSettings} {e : Error} :
    complete settings = .error e ↔ databaseMissing = e ∧ settings.database = none := by
  unfold complete
  split <;> simp_all

section

variable {config : Config} {url : Option String} {env : Environment}

/-- The settings above the environment are found first. -/
theorem resolve_eq_bind (config : Config) (url : Option String) (env : Environment) :
    config.resolve url env =
      (url.elim config.fileSettings ConnectionSettings.read >>= fun named =>
        complete (named.withEnvironment env)) := by
  have hcomplete : ∀ found : Except Error ConnectionSettings,
      (do
        let named ← found
        let settings := named.withEnvironment env
        if settings.database.isNone then throw databaseMissing
        return settings) = found >>= fun named => complete (named.withEnvironment env) := by
    intro found
    cases found with
    | error e => rfl
    | ok named =>
      unfold complete
      simp only [bind, Except.bind]
      split <;> simp_all <;> rfl
  cases url with
  | some outside => exact hcomplete (ConnectionSettings.read outside)
  | none => exact hcomplete config.fileSettings

/-- The url that is read has parts, or it fails. -/
theorem hasLayers_or_urlFails (config : Config) (url : Option String) (env : Environment) :
    (∃ layers, config.HasLayers env url layers) ∨ ∃ fault, config.UrlFails url fault := by
  have hbelow : IsReadFrom env (ofEnvironment env) := isReadFrom_iff.mpr rfl
  cases hread : url.or config.url with
  | none =>
    obtain ⟨rfl, hfile⟩ := Option.or_eq_none_iff.mp hread
    exact Or.inl ⟨_, .file hfile hbelow⟩
  | some text =>
    cases hparts : ConnectionSettings.ofText text with
    | error fault => exact Or.inr ⟨fault, text, hread, hparts⟩
    | ok parts =>
      cases url with
      | none => exact Or.inl ⟨_, .fileUrl hread hparts hbelow⟩
      | some outside =>
        cases hread
        exact Or.inl ⟨_, .outside hparts hbelow⟩

theorem resolve_of_urlFails {fault : AddressFault} (h : config.UrlFails url fault)
    (env : Environment) : config.resolve url env = .error (.config fault.message) := by
  obtain ⟨text, hread, hfails⟩ := h
  have herror : ConnectionSettings.read text = .error (.config fault.message) := by
    rw [ConnectionSettings.read, hfails]
    rfl
  rw [resolve_eq_bind]
  refine bind_eq_error_iff.mpr (Or.inl ?_)
  cases url with
  | some outside =>
    cases hread
    exact herror
  | none =>
    rw [Option.elim_none, fileSettings, show config.url = some text from hread]
    exact bind_eq_error_iff.mpr (Or.inl herror)

/-- The layers are laid over each other from below. -/
theorem resolve_of_hasLayers {layers : List ConnectionSettings}
    (h : config.HasLayers env url layers) {settings : ConnectionSettings}
    (hsettings : IsOverlay layers settings) : config.resolve url env = complete settings := by
  have hread : ∀ {text parts}, ConnectionSettings.ofText text = .ok parts →
      ConnectionSettings.read text = .ok parts := by
    intro text parts hparts
    rw [ConnectionSettings.read, hparts]
    rfl
  -- From the environment upwards, one layer on top of the other.
  have hbelow := isOverlay_singleton (ofEnvironment env)
  rw [resolve_eq_bind]
  cases h with
  | @outside text parts below hparts hnames =>
    cases isReadFrom_iff.mp hnames
    rw [hsettings.unique (hbelow.onTopOf parts), Option.elim_some, hread hparts]
    rfl
  | file hfile hnames =>
    cases isReadFrom_iff.mp hnames
    rw [hsettings.unique (hbelow.onTopOf config.connection), Option.elim_none, fileSettings, hfile]
    rfl
  | @fileUrl text parts below hfile hparts hnames =>
    cases isReadFrom_iff.mp hnames
    rw [hsettings.unique ((hbelow.onTopOf parts).onTopOf config.connection), ← onTopOf_assoc,
      Option.elim_none, fileSettings, hfile]
    simp only [hread hparts]
    rfl

/-! ## 4. Precedence -/

theorem resolve_eq_ok_iff {settings : ConnectionSettings} :
    config.resolve url env = .ok settings ↔
      ∃ layers, config.HasLayers env url layers ∧ IsOverlay layers settings ∧
        settings.database ≠ none := by
  constructor
  · intro h
    rcases config.hasLayers_or_urlFails url env with ⟨layers, hlayers⟩ | ⟨fault, hfails⟩
    · obtain ⟨found, hfound⟩ := exists_isOverlay layers
      rw [resolve_of_hasLayers hlayers hfound, complete_eq_ok_iff] at h
      obtain ⟨rfl, hdatabase⟩ := h
      exact ⟨layers, hlayers, hfound, hdatabase⟩
    · rw [resolve_of_urlFails hfails] at h
      cases h
  · rintro ⟨layers, hlayers, hsettings, hdatabase⟩
    rw [resolve_of_hasLayers hlayers hsettings, complete_eq_ok_iff]
    exact ⟨rfl, hdatabase⟩

theorem resolve_eq_error_iff {e : Error} :
    config.resolve url env = .error e ↔
      (∃ fault, config.UrlFails url fault ∧ e = .config fault.message) ∨
      ∃ layers, config.HasLayers env url layers ∧ (∀ layer ∈ layers, layer.database = none) ∧
        e = databaseMissing := by
  constructor
  · intro h
    rcases config.hasLayers_or_urlFails url env with ⟨layers, hlayers⟩ | ⟨fault, hfails⟩
    · obtain ⟨found, hfound⟩ := exists_isOverlay layers
      rw [resolve_of_hasLayers hlayers hfound, complete_eq_error_iff] at h
      obtain ⟨rfl, hdatabase⟩ := h
      exact Or.inr ⟨layers, hlayers, hfound.database_eq_none_iff.mp hdatabase, rfl⟩
    · rw [resolve_of_urlFails hfails] at h
      cases h
      exact Or.inl ⟨fault, hfails, rfl⟩
  · rintro (⟨fault, hfails, rfl⟩ | ⟨layers, hlayers, hdatabase, rfl⟩)
    · exact resolve_of_urlFails hfails env
    · obtain ⟨found, hfound⟩ := exists_isOverlay layers
      rw [resolve_of_hasLayers hlayers hfound, complete_eq_error_iff]
      exact ⟨rfl, hfound.database_eq_none_iff.mpr hdatabase⟩

end

/-- **Settings are resolved layer by layer.** What comes of it, if anything, is the first value of
each setting in the layers, with a database among them. It fails, and always as an error of the
configuration, exactly if the url that is read fails or no layer names a database. Where there is a
url from outside, the file has no say. -/
theorem resolve_precedence (config : Config) (url : Option String) (env : Environment) :
    (∀ settings, config.resolve url env = .ok settings ↔
      ∃ layers, config.HasLayers env url layers ∧ IsOverlay layers settings ∧
        settings.database ≠ none) ∧
    ((∃ detail, config.resolve url env = .error (.config detail)) ↔
      (∃ fault, config.UrlFails url fault) ∨
      ∃ layers, config.HasLayers env url layers ∧ ∀ layer ∈ layers, layer.database = none) ∧
    (∀ e, config.resolve url env = .error e → ∃ detail, e = .config detail) ∧
    ∀ other : Config, url ≠ none → other.resolve url env = config.resolve url env := by
  have hconfig : ∀ e, config.resolve url env = .error e → ∃ detail, e = .config detail := by
    intro e he
    rcases resolve_eq_error_iff.mp he with ⟨fault, -, rfl⟩ | ⟨_, -, -, rfl⟩
    · exact ⟨_, rfl⟩
    · exact ⟨_, rfl⟩
  refine ⟨fun settings => resolve_eq_ok_iff, ⟨?fails, ?failing⟩, hconfig, ?outside⟩
  case fails =>
    rintro ⟨detail, herror⟩
    rcases resolve_eq_error_iff.mp herror with ⟨fault, hfails, -⟩ | ⟨layers, hlayers, hdatabase, -⟩
    · exact Or.inl ⟨fault, hfails⟩
    · exact Or.inr ⟨layers, hlayers, hdatabase⟩
  case failing =>
    rintro (⟨fault, hfails⟩ | ⟨layers, hlayers, hdatabase⟩)
    · exact ⟨_, resolve_of_urlFails hfails env⟩
    · exact ⟨_, resolve_eq_error_iff.mpr (Or.inr ⟨layers, hlayers, hdatabase, rfl⟩)⟩
  case outside =>
    intro other hurl
    obtain ⟨text, rfl⟩ := Option.ne_none_iff_exists'.mp hurl
    rfl

/-- The host is that of the file, the database that of its url; port and user are variables. -/
example :
    (Config.mk (some "postgres://file/shop") ⟨some "db", none, none, none, none, none⟩).resolve none
        ⟨[("PGHOST", "other"), ("PGPORT", "+5433"), ("PGUSER", "clerk")]⟩ =
      .ok ⟨some "db", some 5433, some "shop", some "clerk", none, none⟩ := by decide

end Config

end ShopQuery
