import ShopQuery.Query.Fault

/-!
# Signatures

The types that a template reads at its positions, and the statements whose parameters have them:
one form for each template (`Statement.WellTyped.typed`).

## How it is used

A statement is a template and a list of parameters of any number and type. `WellTyped` compares the
list with the signature as a whole, so that it can be decided and stated without a look at the
template; `Typed` has a case for each template, so that a proof about well-typed statements can go
through them with their parameters at hand. That the first gives the second is the one place where
the templates are gone through for their types.
-/

namespace ShopQuery

/-! ## 1. Types -/

def Param.type : Param → ParamType
  | .text _ => .text
  | .int _ => .integer
  | .date _ => .date

theorem Param.type_eq_text_iff {p : Param} : p.type = .text ↔ ∃ s, p = .text s := by
  cases p <;> simp [Param.type]

theorem Param.type_eq_integer_iff {p : Param} : p.type = .integer ↔ ∃ n, p = .int n := by
  cases p <;> simp [Param.type]

theorem Param.type_eq_date_iff {p : Param} : p.type = .date ↔ ∃ d, p = .date d := by
  cases p <;> simp [Param.type]

/-- The types that a template reads, in the order of its positions. -/
def Template.signature : Template → List ParamType
  | .lastName => [.text]
  | .productFrequency => [.text, .integer]
  | .expenseRange => [.integer, .integer]
  | .badCustomers => [.integer]
  | .weekdayCount | .customerExpenses => [.date, .date]

/-- A template reads as many parameters as it has places. -/
theorem Template.length_signature (t : Template) : t.signature.length = t.arity := by
  cases t <;> rfl

/-! ## 2. Well-typed statements -/

namespace Statement

/-- A statement has a parameter of the right type for every position of its template, and no
more. -/
def WellTyped (s : Statement) : Prop := s.params.map Param.type = s.template.signature

/-- So a well-typed statement has as many. -/
theorem WellTyped.length_params {s : Statement} (h : s.WellTyped) :
    s.params.length = s.template.arity := by
  rw [← s.template.length_signature, ← h, List.length_map]

/-- The statements of each template with parameters of the right types. -/
inductive Typed : Statement → Prop
  | lastName (name : String) : Typed ⟨.lastName, [.text name]⟩
  | productFrequency (product : String) (least : Int64) :
    Typed ⟨.productFrequency, [.text product, .int least]⟩
  | expenseRange (least greatest : Int64) : Typed ⟨.expenseRange, [.int least, .int greatest]⟩
  | badCustomers (limit : Int64) : Typed ⟨.badCustomers, [.int limit]⟩
  | weekdayCount (start finish : Date) : Typed ⟨.weekdayCount, [.date start, .date finish]⟩
  | customerExpenses (start finish : Date) :
    Typed ⟨.customerExpenses, [.date start, .date finish]⟩

/-- **A well-typed statement has the form of its template.** -/
theorem WellTyped.typed {s : Statement} (h : s.WellTyped) : s.Typed := by
  obtain ⟨template, params⟩ := s
  cases template <;>
    simp only [WellTyped, Template.signature, List.map_eq_cons_iff, List.map_eq_nil_iff,
      Param.type_eq_text_iff, Param.type_eq_integer_iff, Param.type_eq_date_iff] at h
  case lastName =>
    obtain ⟨_, _, rfl, ⟨name, rfl⟩, rfl⟩ := h
    exact .lastName name
  case productFrequency =>
    obtain ⟨_, _, rfl, ⟨product, rfl⟩, _, _, rfl, ⟨least, rfl⟩, rfl⟩ := h
    exact .productFrequency product least
  case expenseRange =>
    obtain ⟨_, _, rfl, ⟨least, rfl⟩, _, _, rfl, ⟨greatest, rfl⟩, rfl⟩ := h
    exact .expenseRange least greatest
  case badCustomers =>
    obtain ⟨_, _, rfl, ⟨limit, rfl⟩, rfl⟩ := h
    exact .badCustomers limit
  case weekdayCount =>
    obtain ⟨_, _, rfl, ⟨start, rfl⟩, _, _, rfl, ⟨finish, rfl⟩, rfl⟩ := h
    exact .weekdayCount start finish
  case customerExpenses =>
    obtain ⟨_, _, rfl, ⟨start, rfl⟩, _, _, rfl, ⟨finish, rfl⟩, rfl⟩ := h
    exact .customerExpenses start finish

end Statement

end ShopQuery
