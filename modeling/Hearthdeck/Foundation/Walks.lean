import Hearthdeck.Foundation.Machine

/-!
# Walks

The calls of a machine seen as steps on a map: which states are reached from
which, and which steps take each other back.
-/

namespace Hearthdeck
namespace Foundation
namespace Machine

universe u v w

variable {State : Type u} {Call : Type v} {Output : Type w}
variable {machine : Machine State Call Output}

/-- Some calls lead from one state to the other. -/
def Reaches
    (machine : Machine State Call Output)
    (state target : State) : Prop :=
  ∃ calls, machine.runFrom state calls = target

theorem Reaches.refl (state : State) : machine.Reaches state state :=
  ⟨[], rfl⟩

theorem Reaches.call (state : State) (call : Call) :
    machine.Reaches state (machine.step state call).1 :=
  ⟨[call], rfl⟩

theorem Reaches.trans
    {state middle target : State}
    (first : machine.Reaches state middle)
    (second : machine.Reaches middle target) :
    machine.Reaches state target := by
  obtain ⟨calls, toMiddle⟩ := first
  obtain ⟨others, toTarget⟩ := second
  refine ⟨calls ++ others, ?_⟩
  rw [runFrom_append, toMiddle, toTarget]

/-- A goal is reached when some call always comes nearer to it. -/
theorem exists_reaches_of_nearer
    (holds : State → Prop)
    {goal : State → Prop}
    (distance : State → Nat)
    (nearer : ∀ state, holds state → ¬ goal state →
      ∃ call, holds (machine.step state call).1 ∧
        distance (machine.step state call).1 < distance state)
    {state : State}
    (here : holds state) :
    ∃ target, machine.Reaches state target ∧ holds target ∧ goal target := by
  by_cases arrived : goal state
  · exact ⟨state, .refl state, here, arrived⟩
  · obtain ⟨call, holdsNext, isNearer⟩ := nearer state here arrived
    obtain ⟨target, reaches, isGoal⟩ :=
      exists_reaches_of_nearer holds distance nearer holdsNext
    exact ⟨target, (Reaches.call state call).trans reaches, isGoal⟩
termination_by distance state

/-- What a call keeps is kept by as many of them as there are. -/
theorem holds_runFrom_replicate
    {holds : State → Prop}
    {call : Call}
    (preserved : ∀ state, holds state → holds (machine.step state call).1)
    (count : Nat)
    {state : State}
    (here : holds state) :
    holds (machine.runFrom state (List.replicate count call)) := by
  induction count generalizing state with
  | zero => exact here
  | succ count inductionHypothesis =>
      rw [List.replicate_succ, runFrom_cons]
      exact inductionHypothesis (preserved state here)

/-- Where one call takes the other back, as many calls of one kind as of the
other lead back to the start. -/
theorem runFrom_there_and_back
    (holds accepted : State → Prop)
    {there back : Call}
    (preserved : ∀ state, holds state → holds (machine.step state there).1)
    (undone : ∀ state, holds state → accepted state →
      (machine.step (machine.step state there).1 back).1 = state)
    (count : Nat)
    {state : State}
    (here : holds state)
    (taken : ∀ done < count,
      accepted (machine.runFrom state (List.replicate done there))) :
    machine.runFrom state
        (List.replicate count there ++ List.replicate count back) =
      state := by
  induction count with
  | zero => rfl
  | succ count inductionHypothesis =>
      have earlier := inductionHypothesis fun done less =>
        taken done (Nat.lt_succ_of_lt less)
      have last := undone _ (holds_runFrom_replicate preserved count here)
        (taken count (Nat.lt_succ_self count))
      rw [runFrom_append] at earlier
      rw [List.replicate_succ', List.replicate_succ]
      simp only [runFrom_append, runFrom_cons, runFrom_nil, last, earlier]

end Machine
end Foundation
end Hearthdeck
