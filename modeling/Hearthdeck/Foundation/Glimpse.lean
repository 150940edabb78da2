import Hearthdeck.Foundation.Pool

/-!
# Programs that contain others

A program may run the calls of another among its own.  Seen from the other,
its own tasks are hidden and its own steps are none.  So what a step of the
other program keeps, a step of this one keeps of what is seen of it.
-/

namespace Hearthdeck
namespace Foundation

universe u v w x u' v' w' x'

/-- A program contains another: what its state, its tasks and its calls are
seen as, if they are seen, and that hidden ones change nothing that is
seen. -/
structure Glimpse
    {Shared : Type u}
    {Task : Type v}
    {Call : Type w}
    {Answer : Type x}
    {Shared' : Type u'}
    {Task' : Type v'}
    {Call' : Type w'}
    {Answer' : Type x'}
    (program : Program Shared Task Call Answer)
    (model : Program Shared' Task' Call' Answer') where
  shared : Shared → Shared'
  task : Task → Option Task'
  call : Call → Option Call'
  answer : Answer → Answer'
  enter_seen : ∀ state request seen, call request = some seen →
    model.enter (shared state) seen =
      (shared (program.enter state request).1,
        (program.enter state request).2.filterMap task)
  enter_hidden : ∀ state request, call request = none →
    shared (program.enter state request).1 = shared state ∧
      (program.enter state request).2.filterMap task = []
  perform_seen : ∀ state job seen outside, task job = some seen →
    model.perform (shared state) seen (answer outside) =
      (shared (program.perform state job outside).1,
        (program.perform state job outside).2.filterMap task)
  perform_hidden : ∀ state job outside, task job = none →
    shared (program.perform state job outside).1 = shared state ∧
      (program.perform state job outside).2.filterMap task = []

namespace Glimpse

variable
  {Shared : Type u}
  {Task : Type v}
  {Call : Type w}
  {Answer : Type x}
  {Shared' : Type u'}
  {Task' : Type v'}
  {Call' : Type w'}
  {Answer' : Type x'}
  {program : Program Shared Task Call Answer}
  {model : Program Shared' Task' Call' Answer'}

/-- What is seen of a pool. -/
def pool
    (glimpse : Glimpse program model)
    (pool : Pool Shared Task) : Pool Shared' Task' where
  shared := glimpse.shared pool.shared
  tasks := pool.tasks.filterMap glimpse.task

/-- What is seen of a step; the index counts the tasks that are seen. -/
def move
    (glimpse : Glimpse program model)
    (pool : Pool Shared Task) :
    Move Call Answer → Option (Move Call' Answer')
  | .call request => (glimpse.call request).map .call
  | .advance index outside =>
      match pool.tasks[index]? with
      | none => none
      | some job =>
          (glimpse.task job).map fun _ =>
            .advance ((pool.tasks.take index).filterMap glimpse.task).length
              (glimpse.answer outside)

/-- What is seen of a list around one of its members. -/
theorem filterMap_around
    {Item : Type v}
    {Seen : Type v'}
    (see : Item → Option Seen)
    {items : List Item}
    {index : Nat}
    {item : Item}
    (stands : items[index]? = some item) :
    items.filterMap see =
        (items.take index).filterMap see ++ (see item).toList ++
          (items.drop (index + 1)).filterMap see ∧
      (items.eraseIdx index).filterMap see =
        (items.take index).filterMap see ++
          (items.drop (index + 1)).filterMap see := by
  obtain ⟨inside, rfl⟩ := List.getElem?_eq_some_iff.mp stands
  constructor
  · conv_lhs => rw [← List.take_append_drop index items,
      List.drop_eq_getElem_cons inside]
    rw [List.filterMap_append, List.filterMap_cons, List.append_assoc]
    cases see items[index] <;> rfl
  · rw [List.eraseIdx_eq_take_drop_succ, List.filterMap_append]

/-- A step is seen as a step of the other program, or not at all. -/
theorem step_pool
    (glimpse : Glimpse program model)
    (pool : Pool Shared Task)
    (move : Move Call Answer) :
    glimpse.pool (program.step pool move) =
      match glimpse.move pool move with
      | none => glimpse.pool pool
      | some seen => model.step (glimpse.pool pool) seen := by
  cases move with
  | call request =>
      cases seen : glimpse.call request with
      | none =>
          obtain ⟨same, nothing⟩ :=
            glimpse.enter_hidden pool.shared request seen
          simp only [Glimpse.move, seen, Option.map_none, Glimpse.pool,
            Program.step, List.filterMap_append, same, nothing,
            List.append_nil]
      | some request' =>
          have entered := glimpse.enter_seen pool.shared request request' seen
          simp only [Glimpse.move, seen, Option.map_some, Glimpse.pool,
            Program.step, entered, List.filterMap_append]
  | advance index outside =>
      cases stands : pool.tasks[index]? with
      | none =>
          simp only [Glimpse.move, stands]
          rw [program.step_idle stands]
      | some job =>
          obtain ⟨around, without⟩ := filterMap_around glimpse.task stands
          rw [program.step_advance stands]
          cases seen : glimpse.task job with
          | none =>
              obtain ⟨same, nothing⟩ :=
                glimpse.perform_hidden pool.shared job outside seen
              simp only [Glimpse.move, stands, seen, Option.map_none,
                Glimpse.pool, List.filterMap_append, same, nothing,
                List.append_nil, without, around, Option.toList_none]
          | some job' =>
              have performed :=
                glimpse.perform_seen pool.shared job job' outside seen
              have standing : (glimpse.pool pool).tasks[((pool.tasks.take
                  index).filterMap glimpse.task).length]? = some job' := by
                simp [Glimpse.pool, around, seen]
              simp only [Glimpse.move, stands, seen, Option.map_some]
              rw [model.step_advance standing]
              simp only [Glimpse.pool, performed, List.filterMap_append,
                without, around, seen, Option.toList_some, List.append_assoc,
                List.cons_append, List.nil_append]
              rw [List.eraseIdx_append_of_length_le (Nat.le_refl _),
                Nat.sub_self, List.eraseIdx_cons_zero, List.append_assoc]

end Glimpse
end Foundation
end Hearthdeck
