import Mathlib.Data.List.Induction
import Mathlib.Data.List.Chain

/-!
# Past-time statements about histories

A history is the list of calls made so far, oldest first.  Judgements about a
call are relations between the history before it and the call itself.  The
operator `Since` says that a triggering call was made and that every call
after it was quiet; the rules below derive such statements from flags that a
state machine keeps.
-/

namespace Hearthdeck
namespace Foundation
namespace History

universe u

variable {Call : Type u}

/-- Every later call is quiet, each judged after the calls made before it. -/
def Throughout
    (quiet : List Call → Call → Prop) :
    List Call → List Call → Prop
  | _, [] => True
  | before, call :: later =>
      quiet before call ∧ Throughout quiet (before ++ [call]) later

/-- A triggering call was made, and every call after it was quiet. -/
def Since
    (trigger quiet : List Call → Call → Prop)
    (history : List Call) : Prop :=
  ∃ before call after,
    history = before ++ call :: after ∧
      trigger before call ∧
      Throughout quiet (before ++ [call]) after

@[simp] theorem throughout_nil
    (quiet : List Call → Call → Prop)
    (before : List Call) :
    Throughout quiet before [] := trivial

/-- Appending one call to a quiet stretch needs only that call to be quiet. -/
theorem throughout_concat
    (quiet : List Call → Call → Prop)
    (before later : List Call)
    (call : Call) :
    Throughout quiet before (later ++ [call]) ↔
      Throughout quiet before later ∧ quiet (before ++ later) call := by
  induction later generalizing before with
  | nil => simp [Throughout]
  | cons next later inductionHypothesis =>
      simp only [List.cons_append, Throughout, inductionHypothesis,
        List.append_assoc, List.nil_append, and_assoc]

@[simp] theorem not_since_nil
    (trigger quiet : List Call → Call → Prop) :
    ¬Since trigger quiet [] := by
  rintro ⟨before, call, after, split, _⟩
  simp at split

/-- The recursion of `Since` over the newest call. -/
theorem since_concat
    (trigger quiet : List Call → Call → Prop)
    (history : List Call)
    (call : Call) :
    Since trigger quiet (history ++ [call]) ↔
      trigger history call ∨
        (Since trigger quiet history ∧ quiet history call) := by
  constructor
  · rintro ⟨before, first, after, split, triggered, throughout⟩
    induction after using List.reverseRecOn with
    | nil =>
        obtain ⟨rfl, same⟩ := List.append_inj' split rfl
        simp only [List.cons.injEq, and_true] at same
        exact Or.inl (same ▸ triggered)
    | append_singleton after last _ =>
        rw [← List.cons_append, ← List.append_assoc] at split
        obtain ⟨rfl, same⟩ := List.append_inj' split rfl
        simp only [List.cons.injEq, and_true] at same
        subst same
        rw [throughout_concat] at throughout
        refine Or.inr ⟨⟨before, first, after, rfl, triggered,
          throughout.1⟩, ?_⟩
        simpa using throughout.2
  · rintro (triggered | ⟨⟨before, first, after, rfl, triggered, throughout⟩,
      quietNow⟩)
    · exact ⟨history, call, [], rfl, triggered, trivial⟩
    · refine ⟨before, first, after ++ [call], by simp, triggered, ?_⟩
      rw [throughout_concat]
      exact ⟨throughout, by simpa using quietNow⟩

/-- A flag that is down at first, that only a triggering call raises and that
every call which is not quiet lowers, witnesses `Since`. -/
theorem since_of_flag
    {trigger quiet : List Call → Call → Prop}
    (flag : List Call → Prop)
    (initial : ¬flag [])
    (raised : ∀ history call, flag (history ++ [call]) →
      trigger history call ∨ (flag history ∧ quiet history call))
    (history : List Call)
    (up : flag history) :
    Since trigger quiet history := by
  induction history using List.reverseRecOn with
  | nil => exact absurd up initial
  | append_singleton history call inductionHypothesis =>
      rw [since_concat]
      rcases raised history call up with triggered | ⟨before, quietNow⟩
      · exact Or.inl triggered
      · exact Or.inr ⟨inductionHypothesis before, quietNow⟩

/-- Since a call that is neither quiet nor triggering, a triggering call was
made. -/
theorem Since.after_disturbance
    {trigger quiet : List Call → Call → Prop}
    {before later : List Call}
    {call : Call}
    (since : Since trigger quiet (before ++ call :: later))
    (noTrigger : ¬trigger before call)
    (disturbed : ¬quiet before call) :
    ∃ between first rest, later = between ++ first :: rest ∧
      trigger (before ++ call :: between) first := by
  induction later using List.reverseRecOn with
  | nil =>
      rw [since_concat] at since
      rcases since with triggered | ⟨_, quietNow⟩
      · exact absurd triggered noTrigger
      · exact absurd quietNow disturbed
  | append_singleton later last inductionHypothesis =>
      rw [← List.cons_append, ← List.append_assoc, since_concat] at since
      rcases since with triggered | ⟨earlier, _⟩
      · exact ⟨later, last, [], rfl, triggered⟩
      · obtain ⟨between, first, rest, rfl, triggered⟩ :=
          inductionHypothesis earlier
        exact ⟨between, first, rest ++ [last], by simp, triggered⟩

/-! ## Two-valued logs -/

/-- The values of a log alternate and the first one is `true`. -/
def Alternates (log : List Bool) : Prop :=
  (false :: log).IsChain (· ≠ ·)

/-- The value a log ends with; an empty log counts as `false`. -/
def latest (log : List Bool) : Bool :=
  log.getLastD false

@[simp] theorem alternates_nil : Alternates [] :=
  List.isChain_singleton false

@[simp] theorem latest_nil : latest [] = false := rfl

@[simp] theorem latest_concat
    (log : List Bool)
    (value : Bool) :
    latest (log ++ [value]) = value := by
  simp [latest]

/-- A log ends with what was appended to it, if anything was. -/
theorem latest_append (first second : List Bool) :
    latest (first ++ second) =
      if second = [] then latest first else latest second := by
  induction second using List.reverseRecOn with
  | nil => simp
  | append_singleton second value _ =>
      rw [← List.append_assoc, latest_concat, latest_concat,
        if_neg (by simp)]

/-- A log goes on alternating as long as the new value differs from its
latest one. -/
theorem alternates_concat
    (log : List Bool)
    (value : Bool) :
    Alternates (log ++ [value]) ↔ Alternates log ∧ latest log ≠ value := by
  have lastOfCons : (false :: log).getLast? = some (latest log) := by
    rw [List.getLast?_cons, latest, List.getLastD_eq_getLast?]
  unfold Alternates
  rw [← List.cons_append, List.isChain_append, lastOfCons]
  simp

end History
end Foundation
end Hearthdeck
