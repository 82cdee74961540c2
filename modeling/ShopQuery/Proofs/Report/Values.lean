import ShopQuery.Proofs.FirstFailure
import ShopQuery.Proofs.Query.Replies
import ShopQuery.Report

/-!
# Values between statements

A value that needs no database is a stage that leaves the database alone: it goes on where the value
is there and ends the dialogue where it is an error. A statement that is asked and then read
(`run_ask_logged`) goes on with what is read from its reply, or ends with the first error of both.

## How it is used

A report alternates between two kinds of stages: it asks a statement, and it makes something of what
it has. The second kind never changes the database, and the lemmas here run it away. `readReply` is
the error that a reply is, or what a reader makes of it otherwise, so that an error of the database
and a fault of the rows come out as one error. With it a report is described by what it asks and
what is read, and no lemma about a whole report has to go into the rows.
-/

namespace ShopQuery.Report

variable {σ α β : Type}

/-! ## 1. Stages without statements -/

theorem pureValue_ok (a : α) : pureValue (σ := σ) (.ok a) = pure a := rfl

theorem readValue_ok (a : α) : readValue (σ := σ) (.ok a) = pure a := rfl

/-- A value between statements is there, and the database is left alone. -/
theorem run_pureValue_eq_ok_iff {value : Except Error α} {a : α} {state last : σ} :
    Database.run (pureValue value) state = (.ok a, last) ↔ value = .ok a ∧ last = state := by
  constructor
  · intro h
    exact ⟨(Prod.mk.inj h).1, (Prod.mk.inj h).2.symm⟩
  · rintro ⟨rfl, rfl⟩
    rfl

/-- An error between statements ends the dialogue. -/
theorem run_pureValue_error_bind (e : Error) (next : α → Dialogue σ β) (state : σ) :
    Database.run (pureValue (.error e) >>= next) state = (.error e, state) :=
  Database.run_bind_of_error rfl next

/-- A fault of rows ends it with its error. -/
theorem run_readValue_error_bind (fault : QueryFault) (next : α → Dialogue σ β) (state : σ) :
    Database.run (readValue (.error fault) >>= next) state = (.error fault.error, state) :=
  Database.run_bind_of_error rfl next

/-! ## 2. Reading replies -/

/-- What is read from a reply: the error that it is, or else what a reader makes of the result. -/
def readReply (read : QueryResult → Except QueryFault α) (reply : Except Error QueryResult) :
    Except Error α :=
  reply >>= fun result => (read result).mapError QueryFault.error

theorem readReply_ok (read : QueryResult → Except QueryFault α) (result : QueryResult) :
    readReply read (.ok result) = (read result).mapError QueryFault.error := rfl

/-- Something is read from a result that can be read. -/
theorem readReply_eq_ok_iff {read : QueryResult → Except QueryFault α}
    {reply : Except Error QueryResult} {a : α} :
    readReply read reply = .ok a ↔ ∃ result, reply = .ok result ∧ read result = .ok a := by
  unfold readReply
  simp only [bind_eq_ok_iff, mapError_eq_ok_iff]

/-- Nothing is read from an error, nor from rows that have a fault. -/
theorem readReply_eq_error_iff {read : QueryResult → Except QueryFault α}
    {reply : Except Error QueryResult} {e : Error} :
    readReply read reply = .error e ↔
      reply = .error e ∨
        ∃ result fault, reply = .ok result ∧ read result = .error fault ∧ e = fault.error := by
  unfold readReply
  simp only [bind_eq_error_iff, mapError_eq_error_iff, exists_and_left]

/-- A statement is asked, its reply is read, and what was read is gone on with. -/
theorem run_ask_logged (db : Database σ) (statement : Statement)
    (read : QueryResult → Except QueryFault α) (next : α → Dialogue (σ × List Statement) β)
    (state : σ) (log : List Statement) :
    Database.run (do
        let result ← db.logged.execute statement
        let value ← readValue (read result)
        next value) (state, log) =
      match readReply read (db.answer statement state).1 with
      | .ok value =>
        Database.run (next value) ((db.answer statement state).2, log ++ [statement])
      | .error e => (.error e, (db.answer statement state).2, log ++ [statement]) := by
  rw [Database.run_bind, Database.run_execute_logged]
  cases (db.answer statement state).1 with
  | error e => rfl
  | ok result =>
    rw [readReply_ok]
    dsimp only
    cases read result with
    | error fault => exact run_readValue_error_bind fault next _
    | ok value => rw [readValue_ok, pure_bind]; rfl

end ShopQuery.Report
