import Hearthdeck.Foundation.Effect
import Mathlib.Data.List.Basic

/-!
# Statements and transactions

A task talks to a database one statement at a time.  Every statement may fail
for a reason outside the store, such as a busy or full disk; a statement may
also be refused by a constraint of the schema.  A failed statement leaves the
store alone, and a transaction whose statements or commit fail leaves the
whole store as it found it.

`Performs` says what a query does in one line: how many statements it makes
and what they do to the store when none of them fails.  Its rules follow the
ways queries are put together, so that a caller never looks into a query.
-/

namespace Hearthdeck
namespace Foundation

/-- Why a statement failed. -/
inductive SqlError
  /-- The database could not be reached or written. -/
  | unavailable
  /-- A key of the schema refused the statement. -/
  | constraint
  /-- A trigger raised an error with this text. -/
  | aborted (message : String)
  deriving DecidableEq, Repr

/-- A store together with the faults that lie ahead of the task using it: one
flag for each coming statement, and no fault once the flags run out. -/
structure Connection (Store : Type) where
  store : Store
  faults : List Bool

/-- A query: statements that may end in an error of the caller's. -/
abbrev Query (Error Store Value : Type) :=
  EStateM Error (Connection Store) Value

namespace Query

variable {Error Store Value Item : Type}

/-- One statement, whose failure the caller reports in its own words. -/
def statement
    (report : SqlError → Error)
    (effect : Store → Except SqlError (Value × Store)) :
    Query Error Store Value :=
  fun connection =>
    match connection.faults with
    | true :: later =>
        .error (report .unavailable) ⟨connection.store, later⟩
    | faults =>
        match effect connection.store with
        | .ok (value, store) => .ok value ⟨store, faults.tail⟩
        | .error error =>
            .error (report error) ⟨connection.store, faults.tail⟩

/-- A statement that only writes. -/
def execute
    (report : SqlError → Error)
    (change : Store → Except SqlError Store) : Query Error Store PUnit :=
  statement report fun store =>
    (change store).map fun after => (⟨⟩, after)

/-- A statement that only reads. -/
def select
    (report : SqlError → Error)
    (read : Store → Value) : Query Error Store Value :=
  statement report fun store => .ok (read store, store)

/-- The statements of a transaction, with its beginning and its commit. -/
def bracketed
    (began committed : SqlError → Error)
    (body : Query Error Store PUnit) : Query Error Store PUnit := do
  execute began Except.ok
  body
  execute committed Except.ok

/-- A transaction: an error anywhere, also in its beginning or its commit,
takes the store back to where it was. -/
def transaction
    (began committed : SqlError → Error)
    (body : Query Error Store PUnit) : Query Error Store PUnit :=
  fun connection =>
    match (bracketed began committed body).run connection with
    | .ok value next => .ok value next
    | .error error next => .error error ⟨connection.store, next.faults⟩

/-- The store a query leaves, whether it succeeds or fails. -/
def storeAfter
    (query : Query Error Store Value)
    (connection : Connection Store) : Store :=
  match query.run connection with
  | .ok _ next => next.store
  | .error _ next => next.store

/-- Whether a query succeeds. -/
def succeeds
    (query : Query Error Store Value)
    (connection : Connection Store) : Bool :=
  match query.run connection with
  | .ok _ _ => true
  | .error _ _ => false

/-- One of the next statements fails for a reason of its own. -/
def Faulty
    (statements : Nat)
    (connection : Connection Store) : Prop :=
  true ∈ connection.faults.take statements

instance
    (statements : Nat)
    (connection : Connection Store) :
    Decidable (Faulty statements connection) :=
  inferInstanceAs (Decidable (_ ∈ _))

/-- The query makes this many statements and, when none of them fails by
itself, changes the store in this way. -/
structure Performs
    (query : Query Error Store PUnit)
    (statements : Nat)
    (change : Store → Except SqlError Store) : Prop where
  /-- Without a fault a change that is not refused is made. -/
  done : ∀ connection after,
    ¬ Faulty statements connection →
    change connection.store = .ok after →
    query.run connection =
      .ok ⟨⟩ ⟨after, connection.faults.drop statements⟩
  /-- A fault or a refusal ends the query in an error. -/
  failed : ∀ connection,
    (Faulty statements connection ∨
      ∃ error, change connection.store = .error error) →
    ∃ error next, query.run connection = .error error next

/-- The faults ahead of a sequence are those of its first part and those left
after it. -/
theorem faulty_add
    (first second : Nat)
    (connection : Connection Store) :
    Faulty (first + second) connection ↔
      Faulty first connection ∨
        true ∈ (connection.faults.drop first).take second := by
  rw [Faulty, List.take_add, List.mem_append]
  rfl

theorem performs_pure :
    Performs (pure ⟨⟩ : Query Error Store PUnit) 0 Except.ok := by
  constructor
  · intro connection after _ changed
    cases changed
    rfl
  · intro connection failure
    cases failure with
    | inl faulty => simp [Faulty] at faulty
    | inr refused =>
        obtain ⟨error, refused⟩ := refused
        cases refused

theorem run_statement_of_not_faulty
    (report : SqlError → Error)
    (effect : Store → Except SqlError (Value × Store))
    (connection : Connection Store)
    (calm : ¬ Faulty 1 connection) :
    (statement report effect).run connection =
      match effect connection.store with
      | .ok (value, after) => .ok value ⟨after, connection.faults.drop 1⟩
      | .error error =>
          .error (report error)
            ⟨connection.store, connection.faults.drop 1⟩ := by
  obtain ⟨store, faults⟩ := connection
  cases faults with
  | nil => rfl
  | cons fault later =>
      cases fault with
      | true => simp [Faulty] at calm
      | false => rfl

theorem run_statement_of_faulty
    (report : SqlError → Error)
    (effect : Store → Except SqlError (Value × Store))
    (connection : Connection Store)
    (faulty : Faulty 1 connection) :
    (statement report effect).run connection =
      .error (report .unavailable)
        ⟨connection.store, connection.faults.drop 1⟩ := by
  obtain ⟨store, faults⟩ := connection
  cases faults with
  | nil => simp [Faulty] at faulty
  | cons fault later =>
      cases fault with
      | true => rfl
      | false => simp [Faulty] at faulty

/-- What one statement leaves behind. -/
theorem storeAfter_statement
    (report : SqlError → Error)
    (effect : Store → Except SqlError (Value × Store))
    (connection : Connection Store) :
    (statement report effect).storeAfter connection =
      if Faulty 1 connection then
        connection.store
      else
        match effect connection.store with
        | .ok (_, after) => after
        | .error _ => connection.store := by
  rw [storeAfter]
  split_ifs with faulty
  · rw [run_statement_of_faulty report effect connection faulty]
  · rw [run_statement_of_not_faulty report effect connection faulty]
    cases effect connection.store <;> rfl

theorem performs_execute
    (report : SqlError → Error)
    (change : Store → Except SqlError Store) :
    Performs (execute report change) 1 change := by
  constructor
  · intro connection after calm changed
    rw [execute, run_statement_of_not_faulty report _ connection calm,
      changed]
    rfl
  · intro connection failure
    rw [execute]
    by_cases faulty : Faulty 1 connection
    · exact ⟨_, _, run_statement_of_faulty report _ connection faulty⟩
    · obtain ⟨error, refused⟩ := failure.resolve_left faulty
      refine ⟨report error, ⟨connection.store, connection.faults.drop 1⟩, ?_⟩
      rw [run_statement_of_not_faulty report _ connection faulty, refused]
      rfl

/-- Sequencing adds the statements and composes the changes. -/
theorem Performs.bind
    {first second : Query Error Store PUnit}
    {firstStatements secondStatements : Nat}
    {firstChange secondChange : Store → Except SqlError Store}
    (performsFirst : Performs first firstStatements firstChange)
    (performsSecond : Performs second secondStatements secondChange) :
    Performs (do first; second) (firstStatements + secondStatements)
      (fun store => firstChange store >>= secondChange) := by
  constructor
  · intro connection after calm changed
    rw [faulty_add, not_or] at calm
    cases middleEq : firstChange connection.store with
    | error error =>
        rw [middleEq] at changed
        cases changed
    | ok middle =>
        rw [middleEq] at changed
        have finished := performsSecond.done
          ⟨middle, connection.faults.drop firstStatements⟩ after
          calm.2 changed
        rw [EStateM.run_bind,
          performsFirst.done connection middle calm.1 middleEq]
        simp only [finished, List.drop_drop]
  · intro connection failure
    rw [faulty_add] at failure
    by_cases early : Faulty firstStatements connection ∨
        ∃ error, firstChange connection.store = .error error
    · obtain ⟨error, next, ended⟩ := performsFirst.failed connection early
      exact ⟨error, next, by rw [EStateM.run_bind, ended]⟩
    · rw [not_or, not_exists] at early
      cases middleEq : firstChange connection.store with
      | error error => exact absurd middleEq (early.2 error)
      | ok middle =>
          have late : Faulty secondStatements
                ⟨middle, connection.faults.drop firstStatements⟩ ∨
              ∃ error, secondChange middle = .error error := by
            rcases failure with (faulty | faulty) | ⟨error, refused⟩
            · exact absurd faulty early.1
            · exact Or.inl faulty
            · rw [middleEq] at refused
              exact Or.inr ⟨error, refused⟩
          obtain ⟨error, next, ended⟩ := performsSecond.failed _ late
          refine ⟨error, next, ?_⟩
          rw [EStateM.run_bind,
            performsFirst.done connection middle early.1 middleEq]
          exact ended

/-- A loop of single statements makes one statement for each item. -/
theorem performs_forM
    (report : Item → SqlError → Error)
    (items : List Item)
    (change : Item → Store → Except SqlError Store) :
    Performs (items.forM fun item => execute (report item) (change item))
      items.length
      (fun store => items.foldlM (fun store item => change item store)
        store) := by
  induction items with
  | nil => exact performs_pure
  | cons item items inductionHypothesis =>
      have performed :=
        (performs_execute (report item) (change item)).bind inductionHypothesis
      rw [Nat.add_comm] at performed
      exact performed

theorem run_transaction
    (began committed : SqlError → Error)
    (body : Query Error Store PUnit)
    (connection : Connection Store) :
    (transaction began committed body).run connection =
      match (bracketed began committed body).run connection with
      | .ok value next => .ok value next
      | .error error next =>
          .error error ⟨connection.store, next.faults⟩ := rfl

theorem Performs.bracketed
    {body : Query Error Store PUnit}
    {statements : Nat}
    {change : Store → Except SqlError Store}
    (began committed : SqlError → Error)
    (performs : Performs body statements change) :
    Performs (Query.bracketed began committed body) (statements + 2)
      change := by
  have whole := (performs_execute began (Except.ok : Store → _)).bind
    (performs.bind (performs_execute committed Except.ok))
  have counted : 1 + (statements + 1) = statements + 2 := by omega
  have same : (fun store => (Except.ok store : Except SqlError Store) >>=
      fun store => change store >>= Except.ok) = change := by
    funext store
    change (change store >>= Except.ok) = change store
    cases change store <;> rfl
  rw [counted, same] at whole
  exact whole

/-- A transaction in which every statement succeeds makes its change. -/
theorem Performs.run_transaction_of_ok
    {body : Query Error Store PUnit}
    {statements : Nat}
    {change : Store → Except SqlError Store}
    (began committed : SqlError → Error)
    (performs : Performs body statements change)
    (connection : Connection Store)
    (after : Store)
    (calm : ¬ Faulty (statements + 2) connection)
    (changed : change connection.store = .ok after) :
    (transaction began committed body).run connection =
      .ok ⟨⟩ ⟨after, connection.faults.drop (statements + 2)⟩ := by
  rw [run_transaction,
    (performs.bracketed began committed).done connection after calm changed]

/-- A transaction with a failing statement ends in an error and leaves the
store as it found it. -/
theorem Performs.run_transaction_of_error
    {body : Query Error Store PUnit}
    {statements : Nat}
    {change : Store → Except SqlError Store}
    (began committed : SqlError → Error)
    (performs : Performs body statements change)
    (connection : Connection Store)
    (failure : Faulty (statements + 2) connection ∨
      ∃ error, change connection.store = .error error) :
    ∃ error next,
      (transaction began committed body).run connection =
        .error error next ∧
      next.store = connection.store := by
  obtain ⟨error, next, ended⟩ :=
    (performs.bracketed began committed).failed connection failure
  refine ⟨error, ⟨connection.store, next.faults⟩, ?_, rfl⟩
  rw [run_transaction, ended]

/-! ## What holds of the store behind a query -/

/-- The rule of one statement: it fails on the store it found, or makes its
change. -/
theorem meets_statement
    (report : SqlError → Error)
    (effect : Store → Except SqlError (Value × Store))
    (post : Value → Connection Store → Prop)
    (fail : Error → Connection Store → Prop)
    (connection : Connection Store)
    (failed : ∀ error faults, fail error ⟨connection.store, faults⟩)
    (done : ∀ value after faults,
      effect connection.store = .ok (value, after) →
      post value ⟨after, faults⟩) :
    Effect.Meets (statement report effect) post fail connection := by
  unfold Effect.Meets
  by_cases faulty : Faulty 1 connection
  · have ran := run_statement_of_faulty report effect connection faulty
    rw [EStateM.run] at ran
    rw [ran]
    exact failed _ _
  · have ran := run_statement_of_not_faulty report effect connection faulty
    rw [EStateM.run] at ran
    rw [ran]
    cases result : effect connection.store with
    | error error => exact failed _ _
    | ok returned => exact done returned.1 returned.2 _ result

/-- A query that renames its errors does what it did. -/
@[simp] theorem meets_adaptExcept
    {Other : Type}
    (rename : Error → Other)
    (query : Query Error Store Value)
    (post : Value → Connection Store → Prop)
    (fail : Other → Connection Store → Prop)
    (connection : Connection Store) :
    Effect.Meets (EStateM.adaptExcept rename query) post fail connection ↔
      Effect.Meets query post (fun error => fail (rename error))
        connection := by
  simp only [Effect.Meets, EStateM.adaptExcept]
  cases query connection <;> rfl

/-- What a query meets on both of its ends holds of the store it leaves. -/
theorem storeAfter_of_meets
    (invariant : Store → Prop)
    (query : Query Error Store Value)
    (connection : Connection Store)
    (meets : Effect.Meets query (fun _ next => invariant next.store)
      (fun _ next => invariant next.store) connection) :
    invariant (query.storeAfter connection) := by
  unfold Effect.Meets at meets
  rw [storeAfter, EStateM.run]
  cases ran : query connection with
  | ok value next =>
      rw [ran] at meets
      exact meets
  | error error next =>
      rw [ran] at meets
      exact meets

end Query
end Foundation
end Hearthdeck
