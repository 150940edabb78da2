import Mathlib.Order.Defs.Unbundled
import Mathlib.Tactic.Core

/-!
# Programs with state and errors

A program reads and changes a state and may end in an error, which keeps the
state as it was when the error arose.  `Meets` says what holds of the state a
program leaves, both when it returns and when it fails.  The rules follow the
ways programs are put together; `Reachable` are the states between the steps
of a process that runs such programs and ends with the first error.
-/

namespace Hearthdeck
namespace Foundation
namespace Effect

universe u

variable {Error State Step : Type u} {Value Next Item : Type u}

/-- From the state the program returns to `post` or fails to `fail`. -/
def Meets
    (program : EStateM Error State Value)
    (post : Value → State → Prop)
    (fail : Error → State → Prop)
    (state : State) : Prop :=
  match program state with
  | .ok value next => post value next
  | .error error next => fail error next

/-- The rule of consequence. -/
theorem Meets.imp
    {program : EStateM Error State Value}
    {post post' : Value → State → Prop}
    {fail fail' : Error → State → Prop}
    {state : State}
    (meets : Meets program post fail state)
    (returned : ∀ value next, post value next → post' value next)
    (failed : ∀ error next, fail error next → fail' error next) :
    Meets program post' fail' state := by
  unfold Meets at meets ⊢
  cases outcome : program state with
  | ok value next =>
      rw [outcome] at meets
      exact returned value next meets
  | error error next =>
      rw [outcome] at meets
      exact failed error next meets

/-- Sequencing. -/
@[simp] theorem meets_bind
    (program : EStateM Error State Value)
    (next : Value → EStateM Error State Next)
    (post : Next → State → Prop)
    (fail : Error → State → Prop)
    (state : State) :
    Meets (program >>= next) post fail state ↔
      Meets program (fun value => Meets (next value) post fail) fail
        state := by
  simp only [Meets, bind, EStateM.bind]
  cases program state <;> rfl

@[simp] theorem meets_pure
    (value : Value)
    (post : Value → State → Prop)
    (fail : Error → State → Prop)
    (state : State) :
    Meets (pure value : EStateM Error State Value) post fail state ↔
      post value state := Iff.rfl

@[simp] theorem meets_get
    (post : State → State → Prop)
    (fail : Error → State → Prop)
    (state : State) :
    Meets (get : EStateM Error State State) post fail state ↔
      post state state := Iff.rfl

@[simp] theorem meets_modify
    (change : State → State)
    (post : PUnit → State → Prop)
    (fail : Error → State → Prop)
    (state : State) :
    Meets (modify change : EStateM Error State PUnit) post fail state ↔
      post ⟨⟩ (change state) := Iff.rfl

@[simp] theorem meets_throw
    (error : Error)
    (post : Value → State → Prop)
    (fail : Error → State → Prop)
    (state : State) :
    Meets (throw error : EStateM Error State Value) post fail state ↔
      fail error state := Iff.rfl

/-- An error that is caught continues in the handler, from the state in which
it arose. -/
@[simp] theorem meets_tryCatch
    (program : EStateM Error State Value)
    (handler : Error → EStateM Error State Value)
    (post : Value → State → Prop)
    (fail : Error → State → Prop)
    (state : State) :
    Meets (tryCatch program handler) post fail state ↔
      Meets program post (fun error => Meets (handler error) post fail)
        state := by
  simp only [Meets, tryCatch, tryCatchThe, MonadExceptOf.tryCatch,
    EStateM.tryCatch]
  cases program state <;> rfl

/-- The loop rule: what every round keeps holds after the loop. -/
theorem meets_forM
    (body : Item → EStateM Error State PUnit)
    (invariant : State → Prop)
    (fail : Error → State → Prop)
    (items : List Item)
    (round : ∀ item ∈ items, ∀ state, invariant state →
      Meets (body item) (fun _ => invariant) fail state)
    {state : State}
    (holds : invariant state) :
    Meets (forM items body) (fun _ => invariant) fail state := by
  induction items generalizing state with
  | nil => exact holds
  | cons item rest inductionHypothesis =>
      rw [List.forM_cons, meets_bind]
      refine (round item (by simp) state holds).imp ?_
        (fun _ _ failed => failed)
      intro _ next kept
      exact inductionHypothesis
        (fun later member => round later (by simp [member])) kept

/-- Two statements about one program, together. -/
theorem Meets.both
    {program : EStateM Error State Value}
    {post post' : Value → State → Prop}
    {fail fail' : Error → State → Prop}
    {state : State}
    (first : Meets program post fail state)
    (second : Meets program post' fail' state) :
    Meets program
      (fun value next => post value next ∧ post' value next)
      (fun error next => fail error next ∧ fail' error next) state := by
  unfold Meets at first second ⊢
  cases outcome : program state with
  | ok value next =>
      rw [outcome] at first second
      exact ⟨first, second⟩
  | error error next =>
      rw [outcome] at first second
      exact ⟨first, second⟩

/-- What a program returns may be used in what is said about it. -/
theorem Meets.result
    {program : EStateM Error State Value}
    {post : Value → State → Prop}
    {fail : Error → State → Prop}
    {state : State}
    (meets : Meets program post fail state) :
    Meets program
      (fun value next => post value next ∧ program state = .ok value next)
      fail state := by
  unfold Meets at meets ⊢
  cases outcome : program state with
  | ok value next =>
      rw [outcome] at meets
      exact ⟨meets, rfl⟩
  | error error next =>
      rw [outcome] at meets
      exact meets

/-! ## Frame conditions -/

/-- Whether the program returns or fails, the state it leaves is related to
the one it started in. -/
def Preserves
    (relation : State → State → Prop)
    (program : EStateM Error State Value) : Prop :=
  ∀ state, Meets program (fun _ next => relation state next)
    (fun _ next => relation state next) state

section Frame

variable {relation : State → State → Prop} [IsPreorder State relation]

theorem preserves_pure
    (value : Value) :
    Preserves relation (pure value : EStateM Error State Value) :=
  fun state => refl_of relation state

theorem preserves_get :
    Preserves relation (get : EStateM Error State State) :=
  fun state => refl_of relation state

theorem preserves_throw
    (error : Error) :
    Preserves relation
      (throw error : EStateM Error State Value) :=
  fun state => refl_of relation state

omit [IsPreorder State relation] in
theorem preserves_modify
    {change : State → State}
    (related : ∀ state, relation state (change state)) :
    Preserves relation
      (modify change : EStateM Error State PUnit) :=
  related

/-- The frame of a sequence. -/
theorem Preserves.bind
    {program : EStateM Error State Value}
    {next : Value → EStateM Error State Next}
    (first : Preserves relation program)
    (second : ∀ value, Preserves relation (next value)) :
    Preserves relation (program >>= next) := by
  intro state
  rw [meets_bind]
  refine (first state).imp ?_ (fun _ _ related => related)
  intro value middle related
  exact (second value middle).imp
    (fun _ _ later => trans_of relation related later)
    (fun _ _ later => trans_of relation related later)

/-- The frame of a loop. -/
theorem preserves_forM
    {body : Item → EStateM Error State PUnit}
    (round : ∀ item, Preserves relation (body item))
    (items : List Item) :
    Preserves relation (forM items body) := by
  induction items with
  | nil => exact preserves_pure _
  | cons item rest inductionHypothesis =>
      rw [List.forM_cons]
      exact (round item).bind fun _ => inductionHypothesis

end Frame

/-! ## Invariants of programs -/

/-- From every state in which the invariant holds, the program returns to such
a state or fails. -/
def Maintains
    (invariant : State → Prop)
    (program : EStateM Error State Value) : Prop :=
  ∀ state, invariant state →
    Meets program (fun _ => invariant) (fun _ _ => True) state

section Invariant

variable {invariant : State → Prop}

/-- The invariant of a sequence. -/
theorem Maintains.bind
    {program : EStateM Error State Value}
    {next : Value → EStateM Error State Next}
    (first : Maintains invariant program)
    (second : ∀ value, Maintains invariant (next value)) :
    Maintains invariant (program >>= next) := by
  intro state holds
  rw [meets_bind]
  refine (first state holds).imp ?_ (fun _ _ _ => trivial)
  intro value middle kept
  exact second value middle kept

end Invariant

/-- The states between the steps of a process: it starts in `start`, makes
allowed steps, and ends when a step fails. -/
inductive Reachable
    (start : State)
    (perform : Step → EStateM Error State PUnit)
    (allowed : State → Step → Prop) : State → Prop
  | start : Reachable start perform allowed start
  | step {state next : State} (step : Step) :
      Reachable start perform allowed state →
      allowed state step →
      perform step state = .ok ⟨⟩ next →
      Reachable start perform allowed next

/-- The invariant rule: what holds at the start and is kept by every allowed
step that does not fail holds in every reachable state. -/
theorem Reachable.invariant
    {start : State}
    {perform : Step → EStateM Error State PUnit}
    {allowed : State → Step → Prop}
    (invariant : State → Prop)
    (initial : invariant start)
    (kept : ∀ state step, invariant state → allowed state step →
      Meets (perform step) (fun _ => invariant) (fun _ _ => True) state)
    {state : State}
    (reachable : Reachable start perform allowed state) :
    invariant state := by
  induction reachable with
  | start => exact initial
  | step step before isAllowed ran inductionHypothesis =>
      have meets := kept _ _ inductionHypothesis isAllowed
      rw [Meets, ran] at meets
      exact meets

/-- Make the listed steps, as long as they are allowed and do not fail. -/
def replay
    (perform : Step → EStateM Error State PUnit)
    (allowed : State → Step → Prop)
    [∀ state step, Decidable (allowed state step)] :
    List Step → State → Option State
  | [], state => some state
  | step :: rest, state =>
      if allowed state step then
        match perform step state with
        | .ok _ next => replay perform allowed rest next
        | .error _ _ => none
      else
        none

/-- What can be replayed is reachable. -/
theorem Reachable.replay
    {start : State}
    {perform : Step → EStateM Error State PUnit}
    {allowed : State → Step → Prop}
    [∀ state step, Decidable (allowed state step)]
    (steps : List Step)
    {state final : State}
    (reachable : Reachable start perform allowed state)
    (replayed : Effect.replay perform allowed steps state = some final) :
    Reachable start perform allowed final := by
  induction steps generalizing state with
  | nil =>
      cases replayed
      exact reachable
  | cons step rest inductionHypothesis =>
      unfold Effect.replay at replayed
      split at replayed
      · rename_i isAllowed
        split at replayed
        · rename_i next ran
          exact inductionHypothesis (reachable.step step isAllowed ran) replayed
        · cases replayed
      · cases replayed

end Effect
end Foundation
end Hearthdeck
