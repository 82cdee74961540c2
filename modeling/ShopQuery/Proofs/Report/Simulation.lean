import ShopQuery.Proofs.Report.Values
import ShopQuery.Proofs.SameOutcome

/-!
# Reports from databases that answer alike

Two databases answer alike from related states if every statement gets the same reply from both and
leaves them in related states again. A report cannot tell them apart (`Alike.answer`). Keeping a log
makes no difference (`Alike.logged`), so what is seen in the log of a database is what the database
was asked.

## How the proof goes

`Alike` relates dialogues as a simulation does: related states go in, the same outcome comes out,
and related states are left. It goes through sequences of stages (`bind`), and values between
statements are stages of their own. A report is such stages one after the other, so that its proof
follows its text; only the queries of a plan need an induction, on the plan.

The relation between the states is a parameter. It is equality of a component where a log is left
out, "this shop" where nothing changes, and the agreement of two sessions where servers are
compared.
-/

namespace ShopQuery

/-! ## 1. Dialogues -/

/-- Two dialogues come to the same from related states, and leave related states. -/
def Alike {σ τ α : Type} (R : σ → τ → Prop) (first : Dialogue σ α) (second : Dialogue τ α) : Prop :=
  ∀ a b, R a b → (Database.run first a).1 = (Database.run second b).1 ∧
    R (Database.run first a).2 (Database.run second b).2

namespace Alike

open Database

variable {σ τ α β : Type} {R : σ → τ → Prop}

theorem pure (value : α) : Alike R (pure value) (pure value) := by
  intro a b h
  exact ⟨rfl, h⟩

/-- **Stages that are alike can follow each other.** -/
theorem bind {first : Dialogue σ α} {second : Dialogue τ α} {next : α → Dialogue σ β}
    {other : α → Dialogue τ β} (h : Alike R first second)
    (hnext : ∀ x, Alike R (next x) (other x)) :
    Alike R (first >>= next) (second >>= other) := by
  intro a b hab
  obtain ⟨houtcome, hstates⟩ := h a b hab
  rw [run_bind, run_bind]
  generalize run first a = reached at houtcome hstates
  generalize run second b = reached' at houtcome hstates
  obtain ⟨outcome, left⟩ := reached
  obtain ⟨outcome', left'⟩ := reached'
  cases houtcome
  cases outcome with
  | error e => exact ⟨rfl, hstates⟩
  | ok x => exact hnext x left left' hstates

/-- A value between statements is the same to both. -/
theorem pureValue (value : Except Error α) :
    Alike R (Report.pureValue value) (Report.pureValue value) := by
  intro a b h
  exact ⟨rfl, h⟩

/-- Values that belong together need not be the same, if what follows makes the same of them. -/
theorem pureValue_bind {γ : Type} {P : α → β → Prop} {first : Except Error α}
    {second : Except Error β} (h : SameOutcome P first second) {next : α → Dialogue σ γ}
    {other : β → Dialogue τ γ} (hnext : ∀ x y, P x y → Alike R (next x) (other y)) :
    Alike R (Report.pureValue first >>= next) (Report.pureValue second >>= other) := by
  cases h with
  | error e =>
    intro a b hab
    rw [Report.run_pureValue_error_bind, Report.run_pureValue_error_bind]
    exact ⟨rfl, hab⟩
  | ok h =>
    rw [Report.pureValue_ok, Report.pureValue_ok, pure_bind, pure_bind]
    exact hnext _ _ h

/-! ## 2. Reports -/

section

variable {db : Database σ} {other : Database τ}
  (h : ∀ statement, Alike R (db.execute statement) (other.execute statement))
include h

/-- Planned queries, by induction on the plan: each is one more statement and one more reading. -/
theorem searchEntries (plan : List PlannedQuery) :
    Alike R (Report.searchEntries db plan) (Report.searchEntries other plan) := by
  induction plan with
  | nil => exact Alike.pure []
  | cons query rest ih =>
    refine (h query.statement).bind ?_
    intro result
    refine (pureValue _).bind ?_
    intro names
    refine ih.bind ?_
    intro entries
    exact Alike.pure _

/-- Searches are alike: the plan, its queries, and the document. -/
theorem search (request : Json) :
    Alike R (Report.search db request) (Report.search other request) := by
  refine (pureValue _).bind ?_
  intro plan
  refine (searchEntries h plan).bind ?_
  intro entries
  exact Alike.pure _

/-- Statistics are alike: the period, and two statements with a reading each. -/
theorem stat (request : Json) : Alike R (Report.stat db request) (Report.stat other request) := by
  refine (pureValue _).bind ?_
  intro period
  refine (h _).bind ?_
  intro days
  refine (pureValue _).bind ?_
  intro total
  refine (h _).bind ?_
  intro spending
  refine (pureValue _).bind ?_
  intro customers
  exact Alike.pure _

/-- **A report cannot tell databases apart that answer alike.** -/
theorem answer (mode : Mode) (request : Json) :
    Alike R (Report.answer db mode request) (Report.answer other mode request) := by
  cases mode with
  | search => exact search h request
  | stat => exact stat h request

end

/-! ## 3. Logs -/

/-- A log that is kept beside a database makes no difference to what it replies. -/
theorem logged (db : Database σ) (statement : Statement) :
    Alike (fun a b => a.1 = b) (db.logged.execute statement) (db.execute statement) := by
  rintro ⟨state, log⟩ _ rfl
  exact ⟨rfl, rfl⟩

end Alike

end ShopQuery
