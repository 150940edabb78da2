import Mathlib.Data.List.Induction

/-!
# Machines driven by calls

A machine has a state, and every call moves the state and emits a list of
outputs.  A run is a list of calls, oldest first.  This module holds the rules
the development uses about runs: the invariant rule, the composition of runs,
and the deletion of calls that an observer of the machine cannot notice.
-/

namespace Hearthdeck
namespace Foundation

universe u v w

/-- A deterministic machine with a start state and emitting calls. -/
structure Machine (State : Type u) (Call : Type v) (Output : Type w) where
  /-- The state before the first call. -/
  start : State
  /-- One call: the next state and what the call emits. -/
  step : State → Call → State × List Output

namespace Machine

variable {State : Type u} {Call : Type v} {Output : Type w}

/-- The state after a list of calls made from a given state. -/
def runFrom
    (machine : Machine State Call Output)
    (state : State)
    (calls : List Call) : State :=
  calls.foldl (fun current call => (machine.step current call).1) state

/-- The state after a list of calls made from the start state. -/
def run
    (machine : Machine State Call Output)
    (calls : List Call) : State :=
  machine.runFrom machine.start calls

/-- Everything a list of calls emits when it is made from a given state. -/
def outputsFrom
    (machine : Machine State Call Output) :
    State → List Call → List Output
  | _, [] => []
  | state, call :: calls =>
      (machine.step state call).2 ++
        machine.outputsFrom (machine.step state call).1 calls

@[simp] theorem runFrom_nil
    (machine : Machine State Call Output)
    (state : State) :
    machine.runFrom state [] = state := rfl

@[simp] theorem runFrom_cons
    (machine : Machine State Call Output)
    (state : State)
    (call : Call)
    (calls : List Call) :
    machine.runFrom state (call :: calls) =
      machine.runFrom (machine.step state call).1 calls := rfl

theorem runFrom_append
    (machine : Machine State Call Output)
    (state : State)
    (first second : List Call) :
    machine.runFrom state (first ++ second) =
      machine.runFrom (machine.runFrom state first) second := by
  simp [runFrom, List.foldl_append]

@[simp] theorem run_nil
    (machine : Machine State Call Output) :
    machine.run [] = machine.start := rfl

@[simp] theorem run_concat
    (machine : Machine State Call Output)
    (calls : List Call)
    (call : Call) :
    machine.run (calls ++ [call]) =
      (machine.step (machine.run calls) call).1 := by
  rw [run, runFrom_append]
  rfl

@[simp] theorem outputsFrom_nil
    (machine : Machine State Call Output)
    (state : State) :
    machine.outputsFrom state [] = [] := rfl

@[simp] theorem outputsFrom_cons
    (machine : Machine State Call Output)
    (state : State)
    (call : Call)
    (calls : List Call) :
    machine.outputsFrom state (call :: calls) =
      (machine.step state call).2 ++
        machine.outputsFrom (machine.step state call).1 calls := rfl

/-- A run of two parts emits what the first part emits, then what the second
emits from the state the first part leaves. -/
theorem outputsFrom_append
    (machine : Machine State Call Output)
    (state : State)
    (first second : List Call) :
    machine.outputsFrom state (first ++ second) =
      machine.outputsFrom state first ++
        machine.outputsFrom (machine.runFrom state first) second := by
  induction first generalizing state with
  | nil => rfl
  | cons call calls inductionHypothesis =>
      simp only [List.cons_append, outputsFrom_cons, runFrom_cons,
        inductionHypothesis, List.append_assoc]

/-- The invariant rule: what holds at the start and is kept by every call
holds after every run. -/
theorem run_induction
    (machine : Machine State Call Output)
    (invariant : State → Prop)
    (initial : invariant machine.start)
    (preserved : ∀ state call,
      invariant state → invariant (machine.step state call).1)
    (calls : List Call) :
    invariant (machine.run calls) := by
  induction calls using List.reverseRecOn with
  | nil => exact initial
  | append_singleton calls call inductionHypothesis =>
      rw [run_concat]
      exact preserved _ _ inductionHypothesis

/-- Every call of a run is made in a state in which it meets a condition. -/
def Along
    (machine : Machine State Call Output)
    (condition : State → Call → Prop)
    (calls : List Call) : Prop :=
  ∀ earlier call later, calls = earlier ++ call :: later →
    condition (machine.run earlier) call

theorem Along.of_append
    {machine : Machine State Call Output}
    {condition : State → Call → Prop}
    {first second : List Call}
    (along : machine.Along condition (first ++ second)) :
    machine.Along condition first := by
  intro earlier call later split
  apply along earlier call (later ++ second)
  rw [split, List.append_assoc, List.cons_append]

/-- The machine in another state at the start. -/
def startingIn
    (machine : Machine State Call Output)
    (state : State) : Machine State Call Output :=
  { machine with start := state }

/-- A run of two parts is a run that goes on from where the first part ends. -/
theorem run_append
    (machine : Machine State Call Output)
    (first second : List Call) :
    machine.run (first ++ second) =
      (machine.startingIn (machine.run first)).run second :=
  machine.runFrom_append machine.start first second

theorem Along.from_append
    {machine : Machine State Call Output}
    {condition : State → Call → Prop}
    {first second : List Call}
    (along : machine.Along condition (first ++ second)) :
    (machine.startingIn (machine.run first)).Along condition second := by
  intro earlier call later split
  rw [← machine.run_append]
  apply along (first ++ earlier) call later
  rw [split, List.append_assoc]

/-- The same from a given state, one call after the other. -/
def AlongFrom
    (machine : Machine State Call Output)
    (condition : State → Call → Prop) :
    State → List Call → Prop
  | _, [] => True
  | state, call :: calls =>
      condition state call ∧
        machine.AlongFrom condition (machine.step state call).1 calls

theorem along_of_alongFrom
    {machine : Machine State Call Output}
    {condition : State → Call → Prop}
    {calls : List Call}
    (along : machine.AlongFrom condition machine.start calls) :
    machine.Along condition calls := by
  have every : ∀ earlier call later state,
      machine.AlongFrom condition state (earlier ++ call :: later) →
      condition (machine.runFrom state earlier) call := by
    intro earlier call later
    induction earlier with
    | nil =>
        intro state along
        exact along.1
    | cons first earlier inductionHypothesis =>
        intro state along
        exact inductionHypothesis _ along.2
  intro earlier call later split
  subst split
  exact every earlier call later machine.start along

/-- The invariant rule for runs whose calls all meet a condition. -/
theorem run_induction_along
    (machine : Machine State Call Output)
    (condition : State → Call → Prop)
    (invariant : State → Prop)
    (initial : invariant machine.start)
    (preserved : ∀ state call, invariant state → condition state call →
      invariant (machine.step state call).1)
    (calls : List Call)
    (along : machine.Along condition calls) :
    invariant (machine.run calls) := by
  induction calls using List.reverseRecOn with
  | nil => exact initial
  | append_singleton calls call inductionHypothesis =>
      rw [run_concat]
      exact preserved _ _ (inductionHypothesis along.of_append)
        (along calls call [] rfl)

/-- What a call keeps exactly when it meets a condition, and no later call
restores, holds after the runs whose calls all meet the condition. -/
theorem run_iff_along
    (machine : Machine State Call Output)
    (condition : State → Call → Prop)
    (invariant : State → Prop)
    (initial : invariant machine.start)
    (exactly : ∀ calls call,
      invariant (machine.step (machine.run calls) call).1 ↔
        invariant (machine.run calls) ∧ condition (machine.run calls) call)
    (calls : List Call) :
    invariant (machine.run calls) ↔ machine.Along condition calls := by
  constructor
  · induction calls using List.reverseRecOn with
    | nil =>
        intro _ earlier call later split
        cases earlier <;> cases split
    | append_singleton calls last inductionHypothesis =>
        intro holds
        rw [run_concat] at holds
        obtain ⟨before, met⟩ := (exactly calls last).mp holds
        intro earlier call later split
        rcases List.eq_nil_or_concat later with none | ⟨others, final, some⟩
        · subst none
          obtain ⟨same, here⟩ := List.append_inj' split rfl
          cases here
          rw [← same]
          exact met
        · subst some
          have ends : calls ++ [last] =
              (earlier ++ call :: others) ++ [final] := by
            simpa using split
          exact inductionHypothesis before earlier call others
            (List.append_inj' ends rfl).1
  · intro along
    induction calls using List.reverseRecOn with
    | nil => exact initial
    | append_singleton calls call inductionHypothesis =>
        rw [run_concat]
        exact (exactly calls call).mpr
          ⟨inductionHypothesis along.of_append, along calls call [] rfl⟩

/-- What a call keeps exactly when it meets a condition holds in every state
of the runs whose calls all meet the condition, and of no others. -/
theorem always_iff_along
    (machine : Machine State Call Output)
    (condition : State → Call → Prop)
    (invariant : State → Prop)
    (initial : invariant machine.start)
    (exactly : ∀ state call, invariant state →
      (invariant (machine.step state call).1 ↔ condition state call))
    (calls : List Call) :
    (∀ earlier later, calls = earlier ++ later →
        invariant (machine.run earlier)) ↔
      machine.Along condition calls := by
  constructor
  · intro always earlier call later split
    have next : calls = (earlier ++ [call]) ++ later := by
      rw [split, List.append_assoc, List.singleton_append]
    have after := always _ _ next
    rw [run_concat] at after
    exact (exactly _ _ (always _ _ split)).mp after
  · intro along earlier later split
    subst split
    apply machine.run_induction_along condition invariant initial _ _
      along.of_append
    intro state call holds meets
    exact (exactly state call holds).mpr meets

/-- Calls that leave the state alone and emit nothing can be deleted from a
run without changing what the run emits. -/
theorem outputsFrom_filter
    (machine : Machine State Call Output)
    (relevant : Call → Bool)
    (silent : ∀ state call, relevant call = false →
      machine.step state call = (state, []))
    (state : State)
    (calls : List Call) :
    machine.outputsFrom state (calls.filter relevant) =
      machine.outputsFrom state calls := by
  induction calls generalizing state with
  | nil => rfl
  | cons call calls inductionHypothesis =>
      cases kept : relevant call with
      | true =>
          rw [List.filter_cons_of_pos kept, outputsFrom_cons,
            outputsFrom_cons, inductionHypothesis]
      | false =>
          rw [List.filter_cons_of_neg (by simp [kept]), outputsFrom_cons,
            inductionHypothesis, silent state call kept]
          rfl

end Machine
end Foundation
end Hearthdeck
