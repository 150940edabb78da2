import Hearthdeck.Foundation.Flight
import Hearthdeck.Foundation.Machine

/-!
# Tasks over a shared state

A pool is a shared state together with the tasks that are under way.  A task
runs in sections: what it does under one lock, in one statement, or in one
system call.  A section changes the shared state, ends the task, and leaves
the tasks to go on with, which include the task itself where it has more to
do.  A run interleaves the sections of all tasks in every order, and starts
tasks by calls at any time.

An invariant of a pool has a part about the shared state and a part about
every task.  The rules below ask, for one section, that it keeps the first,
that it establishes the second for the tasks it leaves, and that it does not
disturb the other tasks.
-/

namespace Hearthdeck
namespace Foundation

universe u v w x

/-- A shared state and the tasks under way. -/
structure Pool (Shared : Type u) (Task : Type v) where
  shared : Shared
  tasks : List Task
  deriving DecidableEq, Repr

/-- What calls and tasks do. -/
structure Program
    (Shared : Type u)
    (Task : Type v)
    (Call : Type w)
    (Answer : Type x) where
  /-- A call, and the tasks it starts. -/
  enter : Shared → Call → Shared × List Task
  /-- The next section of a task, told what it is answered from outside, and
  the tasks it leaves. -/
  perform : Shared → Task → Answer → Shared × List Task

/-- A step of a run. -/
inductive Move (Call : Type w) (Answer : Type x)
  | call (request : Call)
  | advance (index : Nat) (answer : Answer)

namespace Program

variable {Shared : Type u} {Task : Type v} {Call : Type w} {Answer : Type x}

/-- One step of a pool.  An index at which no task stands does nothing. -/
def step
    (program : Program Shared Task Call Answer)
    (pool : Pool Shared Task) :
    Move Call Answer → Pool Shared Task
  | .call request =>
      let entered := program.enter pool.shared request
      { shared := entered.1
        tasks := pool.tasks ++ entered.2 }
  | .advance index answer =>
      match pool.tasks[index]? with
      | some task =>
          let performed := program.perform pool.shared task answer
          { shared := performed.1
            tasks := pool.tasks.eraseIdx index ++ performed.2 }
      | none => pool

/-- A program over its runs, from a shared state with nothing under way. -/
def machine
    (program : Program Shared Task Call Answer)
    (start : Shared) :
    Machine (Pool Shared Task) (Move Call Answer) Unit where
  start := ⟨start, []⟩
  step := fun pool move => (program.step pool move, [])

theorem step_advance
    (program : Program Shared Task Call Answer)
    {pool : Pool Shared Task}
    {index : Nat}
    {task : Task}
    (stands : pool.tasks[index]? = some task)
    (answer : Answer) :
    program.step pool (.advance index answer) =
      { shared := (program.perform pool.shared task answer).1
        tasks := pool.tasks.eraseIdx index ++
          (program.perform pool.shared task answer).2 } := by
  simp only [step, stands]

theorem step_idle
    (program : Program Shared Task Call Answer)
    {pool : Pool Shared Task}
    {index : Nat}
    (missing : pool.tasks[index]? = none)
    (answer : Answer) :
    program.step pool (.advance index answer) = pool := by
  simp only [step, missing]

end Program

namespace Pool

variable {Shared : Type u} {Task : Type v} {Call : Type w} {Answer : Type x}

/-- An invariant of the shared state that every task under way keeps its own
part of. -/
structure Holds
    (whole : Shared → Prop)
    (part : Shared → Task → Prop)
    (pool : Pool Shared Task) : Prop where
  shared : whole pool.shared
  each : ∀ task ∈ pool.tasks, part pool.shared task

variable
  {program : Program Shared Task Call Answer}
  {whole : Shared → Prop}
  {part : Shared → Task → Prop}
  {pool : Pool Shared Task}

/-- A call keeps an invariant that it keeps of the shared state, that the
tasks it starts have, and that it does not disturb in the others. -/
theorem Holds.call
    (holds : pool.Holds whole part)
    {request : Call}
    (kept : whole (program.enter pool.shared request).1)
    (others : ∀ task ∈ pool.tasks, part pool.shared task →
      part (program.enter pool.shared request).1 task)
    (started : ∀ task ∈ (program.enter pool.shared request).2,
      part (program.enter pool.shared request).1 task) :
    (program.step pool (.call request)).Holds whole part := by
  refine ⟨kept, ?_⟩
  intro task member
  rcases List.mem_append.mp member with stood | new
  · exact others task stood (holds.each task stood)
  · exact started task new

/-- A section keeps an invariant that it keeps of the shared state, that the
tasks it leaves have, and that it does not disturb in the others. -/
theorem Holds.advance
    (holds : pool.Holds whole part)
    {index : Nat}
    {task : Task}
    (stands : pool.tasks[index]? = some task)
    {answer : Answer}
    (kept : whole (program.perform pool.shared task answer).1)
    (others : ∀ other ∈ pool.tasks.eraseIdx index,
      part pool.shared other →
        part (program.perform pool.shared task answer).1 other)
    (left : ∀ other ∈ (program.perform pool.shared task answer).2,
      part (program.perform pool.shared task answer).1 other) :
    (program.step pool (.advance index answer)).Holds whole part := by
  rw [program.step_advance stands]
  refine ⟨kept, ?_⟩
  intro other member
  rcases List.mem_append.mp member with stood | new
  · have listed := List.mem_of_mem_eraseIdx stood
    exact others other stood (holds.each other listed)
  · exact left other new

/-- How many tasks have a property after a section: the others that had it,
and those the section leaves that have it. -/
theorem countP_advance
    (program : Program Shared Task Call Answer)
    {index : Nat}
    {task : Task}
    (stands : pool.tasks[index]? = some task)
    (answer : Answer)
    (property : Task → Bool) :
    (program.step pool (.advance index answer)).tasks.countP property +
        (if property task then 1 else 0) =
      pool.tasks.countP property +
        (program.perform pool.shared task answer).2.countP property := by
  rw [program.step_advance stands]
  dsimp only
  rw [List.countP_append, Flight.countP_of_getElem? stands property]
  omega

/-! ## Locks -/

/-- A lock is taken exactly while one task holds it. -/
def Locked
    (taken : Shared → Bool)
    (holds : Task → Bool)
    (pool : Pool Shared Task) : Prop :=
  pool.tasks.countP holds = if taken pool.shared then 1 else 0

/-- What a section does to a lock: it leaves it alone, takes it for one of the
tasks it leaves, keeps it for one of them, or gives it back. -/
inductive LockMoves
    (taken : Shared → Bool)
    (holds : Task → Bool)
    (shared : Shared)
    (task : Task)
    (performed : Shared × List Task) : Prop
  | same
      (kept : taken performed.1 = taken shared)
      (free : holds task = false)
      (others : performed.2.countP holds = 0)
  | takes
      (before : taken shared = false)
      (after : taken performed.1 = true)
      (free : holds task = false)
      (one : performed.2.countP holds = 1)
  | keeps
      (after : taken performed.1 = true)
      (held : holds task = true)
      (one : performed.2.countP holds = 1)
  | frees
      (after : taken performed.1 = false)
      (held : holds task = true)
      (others : performed.2.countP holds = 0)

variable {taken : Shared → Bool} {holds : Task → Bool}

theorem Locked.call
    (locked : pool.Locked taken holds)
    {request : Call}
    (kept : taken (program.enter pool.shared request).1 = taken pool.shared)
    (others : (program.enter pool.shared request).2.countP holds = 0) :
    (program.step pool (.call request)).Locked taken holds := by
  unfold Locked at locked ⊢
  change (pool.tasks ++ _).countP _ = if taken (program.enter _ _).1 then _
    else _
  rw [List.countP_append, locked, others, kept, Nat.add_zero]

theorem Locked.advance
    (locked : pool.Locked taken holds)
    {index : Nat}
    {task : Task}
    (stands : pool.tasks[index]? = some task)
    {answer : Answer}
    (moves : LockMoves taken holds pool.shared task
      (program.perform pool.shared task answer)) :
    (program.step pool (.advance index answer)).Locked taken holds := by
  have counted := countP_advance program stands answer holds
  unfold Locked at locked ⊢
  rw [locked] at counted
  have after : (program.step pool (.advance index answer)).shared =
      (program.perform pool.shared task answer).1 := by
    rw [program.step_advance stands]
  rw [after]
  cases moves with
  | same kept free others =>
      rw [free, others] at counted
      rw [kept]
      simpa using counted
  | takes before after free one =>
      rw [free, before, one] at counted
      rw [after]
      simpa using counted
  | keeps after held one =>
      rw [held, one] at counted
      have least := List.countP_pos_iff.mpr
        ⟨task, List.mem_of_getElem? stands, held⟩
      rw [locked] at least
      rw [after]
      simp only [if_true] at counted ⊢
      split at counted
      case isTrue was => omega
      case isFalse free =>
          rw [if_neg free] at least
          cases least
  | frees after held others =>
      rw [held, others] at counted
      rw [after]
      simp only [if_true, Nat.add_zero] at counted
      split at counted
      case isTrue was => simpa using counted
      case isFalse free => cases counted

/-- While the lock is free, no task holds it. -/
theorem Locked.free
    (locked : pool.Locked taken holds)
    (idle : taken pool.shared = false)
    {task : Task}
    (member : task ∈ pool.tasks) :
    holds task = false := by
  unfold Locked at locked
  rw [idle, if_neg Bool.false_ne_true, List.countP_eq_zero] at locked
  exact Bool.eq_false_iff.mpr (locked task member)

/-- Besides the task that holds the lock, no task does. -/
theorem Locked.others
    (locked : pool.Locked taken holds)
    {index : Nat}
    {task : Task}
    (stands : pool.tasks[index]? = some task)
    (held : holds task = true)
    {other : Task}
    (member : other ∈ pool.tasks.eraseIdx index) :
    holds other = false := by
  have split := Flight.countP_of_getElem? stands holds
  unfold Locked at locked
  rw [locked, held] at split
  have zero : (pool.tasks.eraseIdx index).countP holds = 0 := by
    split at split
    case isTrue was =>
        rw [if_pos rfl] at split
        omega
    case isFalse free =>
        rw [if_pos rfl] at split
        omega
  rw [List.countP_eq_zero] at zero
  exact Bool.eq_false_iff.mpr (zero other member)

/-! ## Exclusive tasks -/

/-- At most one task holds a key. -/
def Exclusive
    {Key : Type x}
    (holds : Key → Task → Bool)
    (pool : Pool Shared Task) : Prop :=
  ∀ key, pool.tasks.countP (holds key) ≤ 1

variable {Key : Type x} {keeps : Key → Task → Bool}

theorem Exclusive.call
    (exclusive : pool.Exclusive keeps)
    {request : Call}
    (none : ∀ key, ∀ task ∈ (program.enter pool.shared request).2,
      keeps key task = false) :
    (program.step pool (.call request)).Exclusive keeps := by
  intro key
  change (pool.tasks ++ (program.enter pool.shared request).2).countP _ ≤ 1
  have zero : (program.enter pool.shared request).2.countP (keeps key) =
      0 := by
    rw [List.countP_eq_zero]
    intro task member
    exact Bool.eq_false_iff.mp (none key task member)
  rw [List.countP_append, zero]
  exact exclusive key

/-- A section leaves a key to at most as many tasks as held it; or to one, if
none did. -/
theorem Exclusive.advance
    (exclusive : pool.Exclusive keeps)
    {index : Nat}
    {task : Task}
    (stands : pool.tasks[index]? = some task)
    {answer : Answer}
    (passed : ∀ key,
      (program.perform pool.shared task answer).2.countP (keeps key) ≤
          (if keeps key task then 1 else 0) ∨
        (program.perform pool.shared task answer).2.countP (keeps key) ≤ 1 ∧
          ∀ other ∈ pool.tasks, keeps key other = false) :
    (program.step pool (.advance index answer)).Exclusive keeps := by
  intro key
  have before := exclusive key
  have counted := countP_advance program stands answer
    (keeps key)
  rcases passed key with fewer | ⟨one, nobody⟩
  · omega
  · have zero : pool.tasks.countP (keeps key) = 0 := by
      rw [List.countP_eq_zero]
      intro other member
      exact Bool.eq_false_iff.mp (nobody other member)
    omega

/-- Besides the task that holds a key, no task does. -/
theorem Exclusive.others
    (exclusive : pool.Exclusive keeps)
    {index : Nat}
    {task : Task}
    (stands : pool.tasks[index]? = some task)
    {key : Key}
    (held : keeps key task = true)
    {other : Task}
    (member : other ∈ pool.tasks.eraseIdx index) :
    keeps key other = false := by
  have split := Flight.countP_of_getElem? stands (keeps key)
  have bound := exclusive key
  rw [held, if_pos rfl] at split
  have zero : (pool.tasks.eraseIdx index).countP (keeps key) = 0 := by omega
  rw [List.countP_eq_zero] at zero
  exact Bool.eq_false_iff.mpr (zero other member)

end Pool

/-! ## Programs seen as others -/

universe u' v' w' x'

/-- A program is seen as another, section by section: what its states, tasks
and calls stand for, and what a section does in the terms of the other. -/
structure View
    {Shared : Type u}
    {Task : Type v}
    {Call : Type w}
    {Answer : Type x}
    {Shared' : Type u'}
    {Task' : Type v'}
    {Call' : Type w'}
    {Answer' : Type x'}
    (program : Program Shared Task Call Answer)
    (model : Program Shared' Task' Call' Answer') where
  shared : Shared → Shared'
  task : Task → Task'
  call : Call → Call'
  answer : Shared → Task → Answer → Answer'
  /-- What an index at which no task stands is answered. -/
  idle : Answer'
  enter : ∀ state request,
    model.enter (shared state) (call request) =
      (shared (program.enter state request).1,
        (program.enter state request).2.map task)
  perform : ∀ state job outside,
    model.perform (shared state) (task job) (answer state job outside) =
      (shared (program.perform state job outside).1,
        (program.perform state job outside).2.map task)

namespace View

variable
  {Shared : Type u}
  {Task : Type v}
  {Call : Type w}
  {Answer : Type x}
  {Shared' : Type u'}
  {Task' : Type v'}
  {Call' : Type w'}
  {Answer' : Type x'}
  {program : Program Shared Task Call Answer}
  {model : Program Shared' Task' Call' Answer'}

/-- What a pool is seen as. -/
def pool
    (view : View program model)
    (pool : Pool Shared Task) : Pool Shared' Task' where
  shared := view.shared pool.shared
  tasks := pool.tasks.map view.task

/-- What a step is seen as. -/
def move
    (view : View program model)
    (pool : Pool Shared Task) :
    Move Call Answer → Move Call' Answer'
  | .call request => .call (view.call request)
  | .advance index outside =>
      match pool.tasks[index]? with
      | some job => .advance index (view.answer pool.shared job outside)
      | none => .advance index view.idle

/-- A step is seen as a step of the other program. -/
theorem step_pool
    (view : View program model)
    (pool : Pool Shared Task)
    (move : Move Call Answer) :
    view.pool (program.step pool move) =
      model.step (view.pool pool) (view.move pool move) := by
  cases move with
  | call request =>
      have entered := view.enter pool.shared request
      simp only [View.pool, View.move, Program.step, entered,
        List.map_append]
  | advance index outside =>
      cases stands : pool.tasks[index]? with
      | none =>
          have missing : (view.pool pool).tasks[index]? = none := by
            simp only [View.pool, List.getElem?_map, stands, Option.map_none]
          simp only [View.move, stands]
          rw [program.step_idle stands, model.step_idle missing]
      | some job =>
          have seen : (view.pool pool).tasks[index]? =
              some (view.task job) := by
            simp only [View.pool, List.getElem?_map, stands, Option.map_some]
          have performed := view.perform pool.shared job outside
          simp only [View.move, stands]
          rw [program.step_advance stands, model.step_advance seen]
          simp only [View.pool, performed, List.map_append,
            List.eraseIdx_map]

/-- What holds of the other program in its runs without certain steps holds of
what is seen in the runs that are seen without them. -/
theorem run_induction_along
    (view : View program model)
    (start : Shared)
    (condition : Pool Shared' Task' → Move Call' Answer' → Prop)
    (invariant : Pool Shared' Task' → Prop)
    (initial : invariant ⟨view.shared start, []⟩)
    (preserved : ∀ pool move, invariant pool → condition pool move →
      invariant (model.step pool move))
    (moves : List (Move Call Answer))
    (along : (program.machine start).Along
      (fun pool move => condition (view.pool pool) (view.move pool move))
      moves) :
    invariant (view.pool ((program.machine start).run moves)) := by
  apply (program.machine start).run_induction_along _
    (fun pool => invariant (view.pool pool)) initial _ moves along
  intro pool move holds meets
  change invariant (view.pool (program.step pool move))
  rw [view.step_pool]
  exact preserved _ _ holds meets

end View
end Foundation
end Hearthdeck
