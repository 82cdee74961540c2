import ShopQuery.Query.Result

/-!
# Databases

A database is what answers statements. It may change with every statement it is given, so its
answer is a function of its state, and so is the state after it. Nothing else is assumed.

`logged` keeps, beside any database, the statements it was given; `scripted` answers from a list.
-/

namespace ShopQuery

/-- What answers statements, from a state. -/
structure Database (σ : Type) where
  answer : Statement → σ → Except Error QueryResult × σ

/-- A computation that asks a database and may fail. -/
abbrev Dialogue (σ α : Type) := ExceptT Error (StateM σ) α

namespace Database

def execute {σ : Type} (db : Database σ) (statement : Statement) : Dialogue σ QueryResult :=
  ExceptT.mk fun state => db.answer statement state

def run {σ α : Type} (dialogue : Dialogue σ α) (state : σ) : Except Error α × σ :=
  dialogue.run state

/-- A database beside which the statements it was given are kept, in order. -/
def logged {σ : Type} (db : Database σ) : Database (σ × List Statement) where
  answer statement state :=
    let (reply, next) := db.answer statement state.1
    (reply, next, state.2 ++ [statement])

/-- Answers the n-th statement with the n-th reply, and with an error once there is none left. -/
def scripted (exhausted : Error) : Database (List (Except Error QueryResult)) where
  answer _ replies :=
    match replies with
    | [] => (.error exhausted, [])
    | reply :: rest => (reply, rest)

def failing (message : String) : Database Unit where
  answer _ _ := (.error (.query message), ())

end Database

end ShopQuery
