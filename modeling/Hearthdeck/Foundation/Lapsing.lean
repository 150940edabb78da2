import Mathlib.Data.List.Nodup

/-!
# Queues whose entries lapse

Entries wait in a queue until they are taken or lapse.  Lapsed entries are
pruned now and then, not at the instant they lapse, so the queue itself says
little.  What it is good for at an instant are its fresh entries: those of all
the entries ever queued that are fresh and have not been taken.
-/

namespace Hearthdeck
namespace Foundation
namespace Lapsing

universe u

variable {Item : Type u}

/-- An entry, since when it waits, and its number among all entries. -/
structure Entry (Item : Type u) where
  item : Item
  since : Nat
  number : Nat
  deriving DecidableEq, Repr

/-- The entry has not lapsed. -/
def Entry.fresh
    (lifetime now : Nat)
    (entry : Entry Item) : Bool :=
  now - entry.since < lifetime

/-- Remove the lapsed entries. -/
def prune
    (lifetime now : Nat)
    (queue : List (Entry Item)) : List (Entry Item) :=
  queue.filter (Entry.fresh lifetime now)

/-- The entry waits: it is fresh and has not been taken. -/
def Waits
    (lifetime now : Nat)
    (taken : List Nat)
    (entry : Entry Item) : Bool :=
  !taken.contains entry.number && entry.fresh lifetime now

/-- The fresh entries of a queue are those of all entries that wait. -/
structure Reflects
    (lifetime now : Nat)
    (all : List (Entry Item))
    (taken : List Nat)
    (queue : List (Entry Item)) : Prop where
  fresh : queue.filter (Entry.fresh lifetime now) =
    all.filter (Waits lifetime now taken)
  distinct : (all.map Entry.number).Nodup
  /-- What was taken was an entry. -/
  known : ∀ number ∈ taken, number ∈ all.map Entry.number

variable
  {lifetime now : Nat}
  {all queue : List (Entry Item)}
  {taken : List Nat}

theorem Entry.fresh_of_later
    {later : Nat}
    (ordered : now ≤ later)
    {entry : Entry Item}
    (fresh : entry.fresh lifetime later = true) :
    entry.fresh lifetime now = true := by
  simp only [Entry.fresh, decide_eq_true_eq] at fresh ⊢
  omega

theorem reflects_nil :
    Reflects lifetime now ([] : List (Entry Item)) [] [] where
  fresh := rfl
  distinct := List.nodup_nil
  known := List.forall_mem_nil _

/-- Pruning loses no fresh entry. -/
theorem Reflects.prune
    (reflects : Reflects lifetime now all taken queue) :
    Reflects lifetime now all taken (prune lifetime now queue) where
  fresh := by
    rw [Lapsing.prune, List.filter_filter]
    simpa using reflects.fresh
  distinct := reflects.distinct
  known := reflects.known

theorem Reflects.prune_eq
    (reflects : Reflects lifetime now all taken queue) :
    Lapsing.prune lifetime now queue =
      all.filter (Waits lifetime now taken) :=
  reflects.fresh

/-- What is fresh later is fresh now. -/
theorem fresh_and_fresh
    {later : Nat}
    (ordered : now ≤ later)
    (entry : Entry Item) :
    (entry.fresh lifetime later && entry.fresh lifetime now) =
      entry.fresh lifetime later := by
  cases fresh : entry.fresh lifetime later with
  | false => rfl
  | true => exact Entry.fresh_of_later ordered fresh

/-- Time passes. -/
theorem Reflects.later
    (reflects : Reflects lifetime now all taken queue)
    {later : Nat}
    (ordered : now ≤ later) :
    Reflects lifetime later all taken queue where
  fresh := by
    have narrowed := congrArg
      (List.filter (Entry.fresh lifetime later)) reflects.fresh
    rw [List.filter_filter, List.filter_filter] at narrowed
    simp only [Waits, Bool.and_left_comm _ (!_),
      fresh_and_fresh ordered] at narrowed
    exact narrowed
  distinct := reflects.distinct
  known := reflects.known

/-- An entry joins the queue. -/
theorem Reflects.concat
    (reflects : Reflects lifetime now all taken queue)
    {entry : Entry Item}
    (new : entry.number ∉ all.map Entry.number)
    (fresh : entry.fresh lifetime now = true) :
    Reflects lifetime now (all ++ [entry]) taken (queue ++ [entry]) where
  fresh := by
    have untaken : entry.number ∉ taken :=
      fun member => new (reflects.known _ member)
    have waits : Waits lifetime now taken entry = true := by
      rw [Waits, fresh, Bool.and_true, Bool.not_eq_true',
        ← Bool.not_eq_true, List.contains_iff_mem]
      exact untaken
    rw [List.filter_append, List.filter_append, reflects.fresh,
      List.filter_cons_of_pos fresh, List.filter_cons_of_pos waits]
    rfl
  distinct := by
    rw [List.map_append, List.nodup_append]
    refine ⟨reflects.distinct, List.nodup_singleton _, ?_⟩
    intro number member other last
    obtain rfl := List.mem_singleton.mp last
    exact fun same => new (same ▸ member)
  known number member := by
    rw [List.map_append]
    exact List.mem_append_left _ (reflects.known number member)

/-- Removing the first entry with a property removes the entries of its
number. -/
theorem eraseP_eq_filter
    {entries : List (Entry Item)}
    (distinct : (entries.map Entry.number).Nodup)
    {wanted : Entry Item → Bool}
    {first : Entry Item}
    (found : entries.find? wanted = some first) :
    entries.eraseP wanted =
      entries.filter fun entry => entry.number != first.number := by
  induction entries with
  | nil => cases found
  | cons entry later inductionHypothesis =>
      rw [List.map_cons, List.nodup_cons] at distinct
      cases takes : wanted entry with
      | true =>
          rw [List.find?_cons_of_pos takes, Option.some.injEq] at found
          subst found
          rw [List.eraseP_cons_of_pos takes,
            List.filter_cons_of_neg (by simp)]
          refine (List.filter_eq_self.mpr fun other member => ?_).symm
          rw [bne_iff_ne]
          exact fun same =>
            distinct.1 (same ▸ List.mem_map_of_mem member)
      | false =>
          have skips : ¬ wanted entry = true := by simp [takes]
          rw [List.find?_cons_of_neg skips] at found
          have different : entry.number ≠ first.number := fun same =>
            distinct.1 (same ▸ List.mem_map_of_mem
              (List.mem_of_find?_eq_some found))
          rw [List.eraseP_cons_of_neg skips,
            inductionHypothesis distinct.2 found,
            List.filter_cons_of_pos (by simpa using different)]

/-- The first fresh entry with a property is the first of all entries that
waits and has it. -/
theorem Reflects.find?_eq
    (reflects : Reflects lifetime now all taken queue)
    (wanted : Entry Item → Bool) :
    (Lapsing.prune lifetime now queue).find? wanted =
      all.find? fun entry =>
        Waits lifetime now taken entry && wanted entry := by
  rw [reflects.prune_eq, List.find?_filter]
  simp only [Bool.decide_and, Bool.decide_eq_true]

/-- The first fresh entry with a property is taken. -/
theorem Reflects.take
    (reflects : Reflects lifetime now all taken queue)
    {wanted : Entry Item → Bool}
    {first : Entry Item}
    (found : (Lapsing.prune lifetime now queue).find? wanted = some first) :
    Reflects lifetime now all (taken ++ [first.number])
      ((Lapsing.prune lifetime now queue).eraseP wanted) where
  fresh := by
    rw [reflects.prune_eq] at found ⊢
    have distinct :
        ((all.filter (Waits lifetime now taken)).map Entry.number).Nodup :=
      reflects.distinct.sublist (List.filter_sublist.map _)
    rw [eraseP_eq_filter distinct found, List.filter_filter,
      List.filter_filter]
    refine List.filter_congr fun entry _ => ?_
    unfold Waits
    rw [List.contains_append, List.contains_cons, List.contains_nil]
    cases entry.fresh lifetime now
    all_goals cases taken.contains entry.number
    all_goals simp [bne]
  distinct := reflects.distinct
  known number member := by
    rcases List.mem_append.mp member with earlier | last
    · exact reflects.known number earlier
    · obtain rfl := List.mem_singleton.mp last
      rw [reflects.prune_eq] at found
      exact List.mem_map_of_mem
        (List.mem_of_mem_filter (List.mem_of_find?_eq_some found))

/-- What is taken has not been taken before. -/
theorem Reflects.notMem_of_find?
    (reflects : Reflects lifetime now all taken queue)
    {wanted : Entry Item → Bool}
    {first : Entry Item}
    (found : (Lapsing.prune lifetime now queue).find? wanted = some first) :
    first.number ∉ taken := by
  rw [reflects.find?_eq] at found
  have waits := List.find?_some found
  simp only [Waits, Bool.and_eq_true, Bool.not_eq_true'] at waits
  intro member
  rw [List.contains_iff_mem.mpr member] at waits
  cases waits.1.1

end Lapsing
end Foundation
end Hearthdeck
