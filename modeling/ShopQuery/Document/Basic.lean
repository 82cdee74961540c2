import ShopQuery.Error
import ShopQuery.Json.Printer

/-!
# Result documents

What a request leaves behind: the rows of a search, the figures of a period, or an error. A
document is written as one line of JSON, the kind of document first.
-/

namespace ShopQuery

structure CustomerName where
  lastName : String
  firstName : String
deriving DecidableEq, Repr

/-- The customers that one criteria item found. -/
structure SearchEntry where
  /-- The item as the request has it. -/
  criteria : Json
  results : List CustomerName
deriving Repr

structure CustomerExpense where
  /-- Last name and first name, with a space between them. -/
  name : String
  totalExpenses : Int64
deriving DecidableEq, Repr

inductive Document where
  | search (results : List SearchEntry)
  | stat (totalDays : Int64) (customers : List CustomerExpense)
  | error (message : String)
deriving Repr

def CustomerName.toJson (c : CustomerName) : Json :=
  .object [("lastName", .string c.lastName), ("firstName", .string c.firstName)]

def SearchEntry.toJson (e : SearchEntry) : Json :=
  .object [("criteria", e.criteria), ("results", .array (e.results.map CustomerName.toJson))]

def CustomerExpense.toJson (c : CustomerExpense) : Json :=
  .object [("name", .string c.name), ("totalExpenses", .ofInt64 c.totalExpenses)]

namespace Document

/-- The document of an outcome: its error, if it is one. -/
def ofOutcome : Except Error Document → Document
  | .ok document => document
  | .error e => .error e.message

def kind : Document → String
  | .search _ => "search"
  | .stat _ _ => "stat"
  | .error _ => "error"

/-- The members that follow the kind. -/
def members : Document → List (String × Json)
  | .search results => [("results", .array (results.map SearchEntry.toJson))]
  | .stat totalDays customers =>
    [("totalDays", .ofInt64 totalDays),
      ("customers", .array (customers.map CustomerExpense.toJson))]
  | .error message => [("message", .string message)]

def toJson (d : Document) : Json := .object (("type", .string d.kind) :: d.members)

/-- The text of a document, without a line end. -/
def text (d : Document) : String := d.toJson.print

/-- The content of a file that holds a document: its text and a line end. -/
def fileText (d : Document) : String := d.text ++ "\n"

end Document

end ShopQuery
