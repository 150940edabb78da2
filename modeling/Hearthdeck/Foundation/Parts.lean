import Mathlib.Data.List.Induction
import Mathlib.Data.Option.Basic

/-!
# Stores kept in parts

Every key of a store belongs to one owner, and an owner replaces what stands
under its keys as a whole.  A step is such a replacement or changes nothing.

After any steps, what stands under a key is what the latest replacement of its
owner put there: neither the replacements of others nor their order matter.
-/

namespace Hearthdeck
namespace Foundation
namespace Parts

universe u v w x y

variable
  {Owner : Type u} {Key : Type v} {Row : Type w} {Step : Type x}
  {Store : Type y}

/-- A replacement: who replaces, and what by. -/
structure Replacement (Owner : Type u) (Key : Type v) (Row : Type w) where
  owner : Owner
  rows : Key → Option Row

/-- The latest replacement an owner made. -/
def latest
    [DecidableEq Owner]
    (replaces : Step → Option (Replacement Owner Key Row))
    (steps : List Step)
    (owner : Owner) : Option (Replacement Owner Key Row) :=
  steps.reverse.findSome? fun step =>
    (replaces step).filter fun replacement => replacement.owner = owner

/-- The steps of a store replace the rows of one owner, among allowed steps and
as long as only proper rows stand in the store. -/
structure Kept
    [DecidableEq Owner]
    (ownerOf : Key → Owner)
    (look : Store → Key → Option Row)
    (step : Store → Step → Store)
    (replaces : Step → Option (Replacement Owner Key Row))
    (Allowed : Step → Prop)
    (Proper : Key → Row → Prop) : Prop where
  quiet : ∀ store move, Allowed move → replaces move = none →
    look (step store move) = look store
  replaced : ∀ store move replacement, Allowed move →
    replaces move = some replacement →
    (∀ key row, look store key = some row → Proper key row) →
    ∀ key, look (step store move) key =
      if ownerOf key = replacement.owner then replacement.rows key
      else look store key
  proper : ∀ move replacement, Allowed move →
    replaces move = some replacement →
    ∀ key row, ownerOf key = replacement.owner →
      replacement.rows key = some row → Proper key row

variable
  [DecidableEq Owner]
  {ownerOf : Key → Owner}
  {look : Store → Key → Option Row}
  {step : Store → Step → Store}
  {replaces : Step → Option (Replacement Owner Key Row)}
  {Allowed : Step → Prop}
  {Proper : Key → Row → Prop}

theorem latest_concat
    (steps : List Step)
    (move : Step)
    (owner : Owner) :
    latest replaces (steps ++ [move]) owner =
      ((replaces move).filter fun replacement =>
        replacement.owner = owner).or (latest replaces steps owner) := by
  unfold latest
  rw [List.reverse_append, List.reverse_singleton, List.singleton_append,
    List.findSome?_cons]
  cases (replaces move).filter fun replacement => replacement.owner = owner with
  | none => rfl
  | some replacement => rfl

/-- What stands under a key was put there by the latest replacement of its
owner, and is proper. -/
theorem Kept.look_foldl
    (kept : Kept ownerOf look step replaces Allowed Proper)
    {start : Store}
    (bare : ∀ key, look start key = none)
    (steps : List Step)
    (allowed : ∀ move ∈ steps, Allowed move) :
    (∀ key, look (steps.foldl step start) key =
      (latest replaces steps (ownerOf key)).bind fun replacement =>
        replacement.rows key) ∧
    ∀ key row, look (steps.foldl step start) key = some row →
      Proper key row := by
  induction steps using List.reverseRecOn with
  | nil =>
      refine ⟨bare, ?_⟩
      intro key row found
      cases (bare key).symm.trans found
  | append_singleton steps move inductionHypothesis =>
      obtain ⟨allowed, last⟩ := List.forall_mem_append.mp allowed
      have permitted := last move List.mem_cons_self
      obtain ⟨looks, proper⟩ := inductionHypothesis allowed
      rw [List.foldl_append, List.foldl_cons, List.foldl_nil]
      cases made : replaces move with
      | none =>
          rw [kept.quiet _ move permitted made]
          refine ⟨?_, proper⟩
          intro key
          rw [looks, latest_concat, made, Option.filter_none, Option.none_or]
      | some replacement =>
          have replaced :=
            kept.replaced _ move replacement permitted made proper
          refine ⟨?_, ?_⟩
          · intro key
            rw [replaced, latest_concat, made, Option.filter_some]
            by_cases own : ownerOf key = replacement.owner
            · rw [if_pos own, if_pos (decide_eq_true own.symm)]
              rfl
            · rw [if_neg own, if_neg (by simpa using Ne.symm own),
                Option.none_or, looks]
          · intro key row found
            rw [replaced] at found
            split at found
            case isTrue own =>
                exact kept.proper move replacement permitted made key row own
                  found
            case isFalse other => exact proper key row found

end Parts
end Foundation
end Hearthdeck
