import ShopQuery.Proofs.Settings.Resolution

/-!
# Layers of settings

Layers are merged one after the other into empty settings, each on top of those before it. What
comes of that is, setting by setting, the value of the last layer that has one
(`isOverlay_merged`). So merging is a monoid, lists of layers act on settings through it
(`merged_append`), and the environment stays below all of them, however often it is asked
(`merged_over_environment`).

## How the proof goes

What an overlay is does not mention merging: for every setting it is the first value that is found
in a list of layers (`IsOverlay`). One step of merging puts a layer in front of the list
(`IsOverlay.onTopOf`), and a run of them puts the reversed list there, by induction on the layers,
with any settings below (`IsOverlay.mergedInto`). An overlay is unique. So two ways of merging are
equal where their lists are, and that is how the laws are had, and not by going through the six
settings again for each of them.

The environment is a layer like the others once its variables are read (`isReadFrom_iff`). The
variable of the port may spell none; then that layer has no port.
-/

namespace ShopQuery.ConnectionSettings

/-! ## 1. Merging -/

/-- Layers merged in turn into settings. -/
def mergedInto (settings : ConnectionSettings) (layers : List ConnectionSettings) :
    ConnectionSettings :=
  layers.foldl (fun below layer => layer.onTopOf below) settings

/-- Layers merged in turn into empty settings. -/
def merged (layers : List ConnectionSettings) : ConnectionSettings := mergedInto empty layers

theorem onTopOf_empty (settings : ConnectionSettings) : settings.onTopOf empty = settings := by
  simp [onTopOf, empty]

theorem empty_onTopOf (settings : ConnectionSettings) : empty.onTopOf settings = settings := by
  simp [onTopOf, empty]

theorem onTopOf_self (settings : ConnectionSettings) : settings.onTopOf settings = settings := by
  simp [onTopOf]

/-- Every layer is one more on top of the overlay of those before it. -/
theorem IsOverlay.mergedInto {below : List ConnectionSettings} {settings : ConnectionSettings}
    (h : IsOverlay below settings) (layers : List ConnectionSettings) :
    IsOverlay (layers.reverse ++ below) (settings.mergedInto layers) := by
  induction layers generalizing below settings with
  | nil => exact h
  | cons layer rest ih =>
    rw [List.reverse_cons, List.append_assoc]
    exact ih (h.onTopOf layer)

theorem isOverlay_empty : IsOverlay [] empty := ⟨rfl, rfl, rfl, rfl, rfl, rfl⟩

/-- **Merged settings are those of the last layers that have them.** -/
theorem isOverlay_merged (layers : List ConnectionSettings) :
    IsOverlay layers.reverse (merged layers) := by
  have h := isOverlay_empty.mergedInto layers
  rwa [List.append_nil] at h

/-- Layers that are merged into settings are merged among themselves first. -/
theorem mergedInto_eq (settings : ConnectionSettings) (layers : List ConnectionSettings) :
    settings.mergedInto layers = (merged layers).onTopOf settings := by
  induction layers generalizing settings with
  | nil => exact (empty_onTopOf settings).symm
  | cons layer rest ih =>
    calc settings.mergedInto (layer :: rest)
      _ = (merged rest).onTopOf (layer.onTopOf settings) := ih _
      _ = ((merged rest).onTopOf (layer.onTopOf empty)).onTopOf settings := by
        rw [onTopOf_empty, onTopOf_assoc]
      _ = (merged (layer :: rest)).onTopOf settings := by rw [← ih]; rfl

/-- Lists of layers are merged one after the other. -/
theorem merged_append (xs ys : List ConnectionSettings) :
    merged (xs ++ ys) = (merged ys).onTopOf (merged xs) := by
  rw [← mergedInto_eq]
  exact List.foldl_append

/-! ## 2. The environment below -/

/-- Settings are filled up from the variables of the environment: those that are set stay, and the
others are those of the variables. -/
def IsFilled (env : Environment) (settings filled : ConnectionSettings) : Prop :=
  ∃ below, IsReadFrom env below ∧ IsOverlay [settings, below] filled

theorem isFilled_withEnvironment (env : Environment) (settings : ConnectionSettings) :
    IsFilled env settings (settings.withEnvironment env) :=
  ⟨ofEnvironment env, isReadFrom_iff.mpr rfl, (isOverlay_singleton _).onTopOf settings⟩

theorem withEnvironment_withEnvironment (env : Environment) (settings : ConnectionSettings) :
    (settings.withEnvironment env).withEnvironment env = settings.withEnvironment env := by
  simp only [withEnvironment, onTopOf_assoc, onTopOf_self]

/-- **Layers of settings act on what is below them, and the environment is at the bottom.** Every
merged setting is that of the last layer that has it, and merging is associative, with the empty
settings as its identity, and idempotent. What is filled up from the environment is what no layer
sets; doing so before or after a layer is merged makes no difference, and neither does doing it
again. -/
theorem merged_over_environment (env : Environment) :
    (∀ layers, IsOverlay layers.reverse (merged layers)) ∧
    (∀ xs ys, merged (xs ++ ys) = (merged ys).onTopOf (merged xs)) ∧
    (∀ a b c : ConnectionSettings, (c.onTopOf b).onTopOf a = c.onTopOf (b.onTopOf a)) ∧
    (∀ a : ConnectionSettings, a.onTopOf empty = a ∧ empty.onTopOf a = a) ∧
    (∀ a : ConnectionSettings, a.onTopOf a = a) ∧
    (∀ settings, IsFilled env settings (settings.withEnvironment env)) ∧
    (∀ a b : ConnectionSettings,
      (a.onTopOf b).withEnvironment env = a.onTopOf (b.withEnvironment env)) ∧
    ∀ a : ConnectionSettings,
      (a.withEnvironment env).withEnvironment env = a.withEnvironment env := by
  refine ⟨isOverlay_merged, merged_append, ?assoc, ?identity, onTopOf_self,
    isFilled_withEnvironment env, ?bottom, withEnvironment_withEnvironment env⟩
  case assoc => exact fun a b c => onTopOf_assoc c b a
  case identity => exact fun a => ⟨onTopOf_empty a, empty_onTopOf a⟩
  case bottom => exact fun a b => onTopOf_assoc a b _

/-- The port of the first layer stays; the user of the last layer counts; the host is a variable. -/
example :
    (merged [⟨none, some 1, none, some "a", none, none⟩, ⟨none, none, none, some "b", none, none⟩]
      ).withEnvironment ⟨[("PGHOST", "db"), ("PGPORT", "70000")]⟩ =
      ⟨some "db", some 1, none, some "b", none, none⟩ := by decide

end ShopQuery.ConnectionSettings
