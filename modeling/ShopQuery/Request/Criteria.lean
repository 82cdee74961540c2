import ShopQuery.Error
import ShopQuery.Json.Basic
import ShopQuery.Query.Statement

/-!
# Criteria

A criteria item is an object whose keys say what is searched for. Each kind of criteria has a fixed
set of keys, the type of each, and a template into which their values are bound, in the order in
which the keys are listed here.
-/

namespace ShopQuery

/-! ## 1. Kinds -/

inductive CriteriaKind where
  | lastName
  | productFrequency
  | expenseRange
  | badCustomers
deriving DecidableEq, Repr

namespace CriteriaKind

/-- All kinds, in the order in which they are tried. -/
def all : List CriteriaKind := [.lastName, .productFrequency, .expenseRange, .badCustomers]

/-- The keys of a kind and their types, in parameter order. -/
def fields : CriteriaKind → List (String × FieldType)
  | .lastName => [("lastName", .string)]
  | .productFrequency => [("productName", .string), ("minTimes", .number)]
  | .expenseRange => [("minExpenses", .number), ("maxExpenses", .number)]
  | .badCustomers => [("badCustomers", .number)]

def template : CriteriaKind → Template
  | .lastName => .lastName
  | .productFrequency => .productFrequency
  | .expenseRange => .expenseRange
  | .badCustomers => .badCustomers

/-- The kind that is bound to a template, if there is one. -/
def ofTemplate? (t : Template) : Option CriteriaKind := all.find? (·.template == t)

end CriteriaKind

/-! ## 2. Items -/

structure Criteria where
  members : List (String × Json)
deriving Repr

namespace Criteria

/-- A criteria item has to be an object. -/
def ofJson : Json → Except Error Criteria
  | .object members => .ok ⟨members⟩
  | _ => .error .wrongCriteriaShape

def contains (item : Criteria) (key : String) : Bool := (Json.lookup key item.members).isSome

def string (item : Criteria) (key : String) : Except Error String :=
  match (Json.lookup key item.members).bind Json.string? with
  | some s => .ok s
  | none => .error (.wrongFieldType key .string)

/-- The 64-bit integer of a key. -/
def int (item : Criteria) (key : String) : Except Error Int64 :=
  match (Json.lookup key item.members).bind Json.int64? with
  | some n => .ok n
  | none => .error (.wrongFieldType key .number)

/-- Whether the keys of an item are those of a kind. -/
def hasKind (item : Criteria) (kind : CriteriaKind) : Bool :=
  item.members.length == kind.fields.length && kind.fields.all fun f => item.contains f.1

def classify (item : Criteria) : Except Error CriteriaKind :=
  match CriteriaKind.all.find? item.hasKind with
  | some kind => .ok kind
  | none => .error .unknownCriteria

def param (item : Criteria) (field : String × FieldType) : Except Error Param :=
  match field.2 with
  | .string => (item.string field.1).map Param.text
  | .number => (item.int field.1).map Param.int

def statement (item : Criteria) (kind : CriteriaKind) : Except Error Statement := do
  let params ← kind.fields.mapM item.param
  return ⟨kind.template, params⟩

end Criteria

end ShopQuery
