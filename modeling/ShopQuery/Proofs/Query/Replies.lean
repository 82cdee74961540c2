import ShopQuery.Query.Database

/-!
# Replies

What a database says to statements given one after the other, and what is known of a dialogue with
it once it has run.

* `replies` and `after` are the replies and the last state, whatever becomes of the replies.
* `run_bind` runs a dialogue stage by stage; `run_execute_logged` is the one step that a log sees.

## How it is used

A database is any state and any reply to a statement in it, so a reply may depend on all that was
asked before. `replies` asks all statements of a list, without a look at what is replied. A dialogue
that stops at some reply has asked the first statements only; but these had the replies that the
list has for them (`take_replies`, `getElem?_replies`). So a statement about a dialogue can speak of
the replies to all of its statements and still be about those that were given.

A dialogue fails at its first error and keeps the state that was reached. `run_bind_of_ok` and
`run_bind_of_error` are the two steps of running one; the iffs behind them are for taking a
dialogue apart that is known to have a value.
-/

namespace ShopQuery.Database

variable {σ α β : Type}

/-! ## 1. Statements in a row -/

/-- What a database replies to statements that are given to it in order. -/
def replies (db : Database σ) : List Statement → σ → List (Except Error QueryResult)
  | [], _ => []
  | statement :: rest, state =>
    (db.answer statement state).1 :: db.replies rest (db.answer statement state).2

/-- The state of a database after statements were given to it in order. -/
def after (db : Database σ) : List Statement → σ → σ
  | [], state => state
  | statement :: rest, state => db.after rest (db.answer statement state).2

@[simp] theorem length_replies (db : Database σ) (statements : List Statement) (state : σ) :
    (db.replies statements state).length = statements.length := by
  induction statements generalizing state with
  | nil => rfl
  | cons statement rest ih => simp [replies, ih]

/-- The first replies depend on the first statements only. -/
theorem take_replies (db : Database σ) (statements : List Statement) (state : σ) (i : Nat) :
    (db.replies statements state).take i = db.replies (statements.take i) state := by
  induction i generalizing statements state with
  | zero => simp [replies]
  | succ i ih =>
    cases statements with
    | nil => rfl
    | cons statement rest => simp [replies, ih]

/-- A reply answers the statement in its place, in the state that those before it have left. -/
theorem getElem?_replies (db : Database σ) (statements : List Statement) (state : σ) (i : Nat) :
    (db.replies statements state)[i]? =
      statements[i]?.map fun statement =>
        (db.answer statement (db.after (statements.take i) state)).1 := by
  induction i generalizing statements state with
  | zero => cases statements <;> rfl
  | succ i ih =>
    cases statements with
    | nil => rfl
    | cons statement rest => simp [replies, after, ih]

/-! ## 2. Running dialogues -/

@[simp] theorem run_pure (a : α) (state : σ) : run (pure a) state = (.ok a, state) := rfl

/-- A dialogue of two stages runs the second from where the first has left off, unless that fails.
-/
theorem run_bind (dialogue : Dialogue σ α) (next : α → Dialogue σ β) (state : σ) :
    run (dialogue >>= next) state =
      match run dialogue state with
      | (.ok a, state) => run (next a) state
      | (.error e, state) => (.error e, state) := by
  show ExceptT.bindCont next (dialogue.run state).1 (dialogue.run state).2 = _
  unfold run
  generalize dialogue.run state = reached
  obtain ⟨_ | a, state⟩ := reached <;> rfl

/-- A dialogue whose first stage gives a value goes on with it. -/
theorem run_bind_of_ok {dialogue : Dialogue σ α} {state next : σ} {a : α}
    (h : run dialogue state = (.ok a, next)) (k : α → Dialogue σ β) :
    run (dialogue >>= k) state = run (k a) next := by
  rw [run_bind, h]

/-- A dialogue whose first stage fails goes no further. -/
theorem run_bind_of_error {dialogue : Dialogue σ α} {state next : σ} {e : Error}
    (h : run dialogue state = (.error e, next)) (k : α → Dialogue σ β) :
    run (dialogue >>= k) state = (.error e, next) := by
  rw [run_bind, h]

/-- Where the first stage leaves the database as it is, both stages start from the same state. -/
theorem run_bind_fst_of_unchanged {dialogue : Dialogue σ α} {state : σ}
    (h : (run dialogue state).2 = state) (next : α → Dialogue σ β) :
    (run (dialogue >>= next) state).1 =
      (run dialogue state).1 >>= fun a => (run (next a) state).1 := by
  rw [run_bind]
  generalize run dialogue state = reached at h ⊢
  obtain ⟨_ | a, last⟩ := reached
  · rfl
  · subst h
    rfl

/-- What comes of two stages hangs on no more of the second than what comes of it. -/
theorem run_bind_fst_congr (dialogue : Dialogue σ α) {next other : α → Dialogue σ β}
    (h : ∀ a state, (run (next a) state).1 = (run (other a) state).1) (state : σ) :
    (run (dialogue >>= next) state).1 = (run (dialogue >>= other) state).1 := by
  rw [run_bind, run_bind]
  generalize run dialogue state = reached
  obtain ⟨_ | a, last⟩ := reached
  · rfl
  · exact h a last

/-- A dialogue of two stages gives a value exactly where the first does, and the second after it. -/
theorem run_bind_eq_ok_iff {dialogue : Dialogue σ α} {next : α → Dialogue σ β} {state last : σ}
    {b : β} : run (dialogue >>= next) state = (.ok b, last) ↔
      ∃ a between, run dialogue state = (.ok a, between) ∧
        run (next a) between = (.ok b, last) := by
  constructor
  · intro h
    rw [run_bind] at h
    split at h
    · rename_i a between hfirst
      exact ⟨a, between, hfirst, h⟩
    · cases h
  · rintro ⟨a, between, hfirst, hsecond⟩
    rw [run_bind_of_ok hfirst, hsecond]

/-- A logged database answers as it does without the log, and the log gets the statement. -/
theorem run_execute_logged (db : Database σ) (statement : Statement) (state : σ)
    (log : List Statement) :
    run (db.logged.execute statement) (state, log) =
      ((db.answer statement state).1, (db.answer statement state).2, log ++ [statement]) := rfl

end ShopQuery.Database
