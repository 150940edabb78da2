import Mathlib.Data.List.Nodup

/-!
# Unwinding a stack of surfaces

Surfaces that are open or closed stand in an order, innermost first.  A press
that closes the first open surface, and opens none, brings their number down
by one; enough presses close them all.
-/

namespace Hearthdeck
namespace Foundation

universe u v w

variable {Surface : Type u} [DecidableEq Surface]

/-- The surfaces before the first open one are shut. -/
theorem shut_of_find?
    {order : List Surface}
    {shown : Surface → Bool}
    {first : Surface}
    (found : order.find? shown = some first)
    {surface : Surface}
    (earlier : surface ∈ order.takeWhile (· != first)) :
    shown surface = false := by
  induction order with
  | nil => cases earlier
  | cons head rest inductionHypothesis =>
      cases open_ : shown head with
      | true =>
          rw [List.find?_cons_of_pos open_, Option.some.injEq] at found
          rw [found, List.takeWhile_cons_of_neg (by simp)] at earlier
          cases earlier
      | false =>
          rw [List.find?_cons_of_neg (by rw [open_]; simp)] at found
          by_cases same : head = first
          · have contrary := List.find?_some found
            rw [← same, open_] at contrary
            cases contrary
          · rw [List.takeWhile_cons_of_pos (by simp [same])] at earlier
            rcases List.mem_cons.mp earlier with here | later
            · rw [here]
              exact open_
            · exact inductionHypothesis found later

/-- The first open surface is closed, and every other one stays as it is. -/
def ClosesFirst
    (order : List Surface)
    (before after : Surface → Bool) : Prop :=
  ∀ surface,
    after surface = (before surface && order.find? before != some surface)

namespace ClosesFirst

variable {order : List Surface} {before after : Surface → Bool}

/-- The first open surface is shut, and the others are as they were. -/
theorem of_first
    {surface : Surface}
    (first : order.find? before = some surface)
    (shut : after surface = false)
    (others : ∀ other, other ≠ surface → after other = before other) :
    ClosesFirst order before after := by
  intro other
  by_cases same : other = surface
  · rw [same, shut, first]
    simp
  · rw [others other same, first]
    simp [Ne.symm same]

/-- Nothing was open, and nothing changes. -/
theorem of_none
    (none : order.find? before = none)
    (same : ∀ surface, after surface = before surface) :
    ClosesFirst order before after := by
  intro surface
  rw [same surface, none]
  simp

/-- The first open surface is shut afterwards. -/
theorem closes_it
    (closes : ClosesFirst order before after)
    {surface : Surface}
    (first : order.find? before = some surface) :
    after surface = false := by
  rw [closes surface, first]
  simp

/-- On surfaces the first open one is not among, nothing changes. -/
theorem countP_other
    (closes : ClosesFirst order before after)
    {surface : Surface}
    (first : order.find? before = some surface)
    {others : List Surface}
    (absent : surface ∉ others) :
    others.countP after = others.countP before := by
  apply List.countP_congr
  intro other member
  have different : surface ≠ other := by
    rintro rfl
    exact absent member
  rw [closes other, first]
  simp [different]

/-- The number of open surfaces goes down by one. -/
theorem countP_after
    (closes : ClosesFirst order before after)
    (distinct : order.Nodup) :
    order.countP after = order.countP before - 1 := by
  induction order with
  | nil => rfl
  | cons surface rest inductionHypothesis =>
      obtain ⟨absent, distinct⟩ := List.nodup_cons.mp distinct
      cases shown : before surface with
      | true =>
          have first : (surface :: rest).find? before = some surface :=
            List.find?_cons_of_pos shown
          rw [List.countP_cons_of_neg (by rw [closes.closes_it first]; simp),
            List.countP_cons_of_pos shown, closes.countP_other first absent]
          rfl
      | false =>
          have later : (surface :: rest).find? before = rest.find? before :=
            List.find?_cons_of_neg (by rw [shown]; simp)
          have still : after surface = false := by
            rw [closes surface, shown]
            rfl
          rw [List.countP_cons_of_neg (by rw [still]; simp),
            List.countP_cons_of_neg (by rw [shown]; simp)]
          apply inductionHypothesis _ distinct
          intro other
          rw [closes other, later]

end ClosesFirst

/-- Enough presses close every surface, if every press keeps the states in
which a press closes the first one. -/
theorem countP_foldl_eq_zero
    {State : Type v}
    {Press : Type w}
    {order : List Surface}
    (distinct : order.Nodup)
    {isOpen : State → Surface → Bool}
    (ready : State → Prop)
    {press : State → Press → State}
    (kept : ∀ state input, ready state → ready (press state input))
    (closes : ∀ state input, ready state →
      ClosesFirst order (isOpen state) (isOpen (press state input)))
    {state : State}
    (start : ready state)
    {presses : List Press}
    (enough : order.countP (isOpen state) ≤ presses.length) :
    order.countP (isOpen (presses.foldl press state)) = 0 := by
  induction presses generalizing state with
  | nil => exact Nat.le_zero.mp enough
  | cons input later inductionHypothesis =>
      apply inductionHypothesis (kept state input start)
      rw [(closes state input start).countP_after distinct]
      rw [List.length_cons] at enough
      omega

end Foundation
end Hearthdeck
