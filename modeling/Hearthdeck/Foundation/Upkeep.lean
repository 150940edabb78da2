import Mathlib.Data.List.Basic

/-!
# Copies that are kept up

A keeper visits a copy of what it ships and writes it where there is none, or
where it takes what there is for its own.  It goes by the content alone.  A
visit may not reach its write, and the write may be cut off.

What is left by a write that was cut off may be nothing the keeper takes for
its own.  Then no later visit writes again, as for a copy of someone else.
This is the only way in which a copy that nobody else wrote is not the one
that is wanted after a whole visit.
-/

namespace Hearthdeck
namespace Foundation

universe u

/-- What is shipped, and what is taken for the keeper's own. -/
structure Keeper (Content : Type u) where
  wanted : Content
  /-- What was shipped before. -/
  former : Content
  /-- What is left of a write that is cut off after so many parts. -/
  left : Nat → Content

/-- How far a visit gets. -/
inductive Reach
  | untouched
  | cut (written : Nat)
  | whole
  deriving DecidableEq, Repr

namespace Keeper

variable {Content : Type u}

/-- A visit writes: there is no copy, or one that was shipped before and is not
wanted. -/
def Due (keeper : Keeper Content) : Option Content → Prop
  | none => True
  | some content => content = keeper.former ∧ content ≠ keeper.wanted

/-- A content that the keeper does not take for its own. -/
def Foreign (keeper : Keeper Content) (content : Content) : Prop :=
  content ≠ keeper.former ∧ content ≠ keeper.wanted

/-- There is no copy, or one that the keeper takes for its own. -/
def Kept (keeper : Keeper Content) (copy : Option Content) : Prop :=
  ∀ content ∈ copy, ¬ keeper.Foreign content

variable {keeper : Keeper Content} {copy : Option Content} {content : Content}

theorem Foreign.not_due
    (foreign : keeper.Foreign content) :
    ¬ keeper.Due (some content) :=
  fun due => foreign.1 due.1

theorem kept_wanted : keeper.Kept (some keeper.wanted) := by
  intro content same
  cases same
  exact fun foreign => foreign.2 rfl

/-- What is kept and not due is wanted. -/
theorem Kept.eq_wanted
    (kept : keeper.Kept copy)
    (done : ¬ keeper.Due copy) :
    copy = some keeper.wanted := by
  cases copy with
  | none => exact absurd trivial done
  | some content =>
      by_contra other
      have unwanted : content ≠ keeper.wanted := fun same =>
        other (congrArg some same)
      exact kept content rfl ⟨fun same => done ⟨same, unwanted⟩, unwanted⟩

/-! ## Visits -/

variable [DecidableEq Content]

instance (keeper : Keeper Content) : DecidablePred keeper.Due
  | none => inferInstanceAs (Decidable True)
  | some _ => inferInstanceAs (Decidable (_ ∧ _))

/-- What a visit makes of a copy. -/
def visit
    (keeper : Keeper Content)
    (copy : Option Content)
    (reach : Reach) : Option Content :=
  if keeper.Due copy then
    match reach with
    | .untouched => copy
    | .cut written => some (keeper.left written)
    | .whole => some keeper.wanted
  else
    copy

/-- What visits make of a copy, one after the other. -/
def visits
    (keeper : Keeper Content)
    (copy : Option Content)
    (reaches : List Reach) : Option Content :=
  reaches.foldl keeper.visit copy

/-- One of the visits is cut off and leaves this content, which the keeper does
not take for its own. -/
def Spoilt
    (keeper : Keeper Content)
    (copy : Option Content)
    (reaches : List Reach)
    (content : Content) : Prop :=
  ∃ earlier written later, reaches = earlier ++ .cut written :: later ∧
    keeper.Due (keeper.visits copy earlier) ∧
    keeper.left written = content ∧ keeper.Foreign content

theorem visit_of_due
    (due : keeper.Due copy)
    (written : Nat) :
    keeper.visit copy (.cut written) = some (keeper.left written) :=
  if_pos due

theorem visit_of_not_due
    (done : ¬ keeper.Due copy)
    (reach : Reach) :
    keeper.visit copy reach = copy :=
  if_neg done

theorem visits_append
    (copy : Option Content)
    (first second : List Reach) :
    keeper.visits copy (first ++ second) =
      keeper.visits (keeper.visits copy first) second := by
  simp [visits, List.foldl_append]

theorem Foreign.visit
    (foreign : keeper.Foreign content)
    (reach : Reach) :
    keeper.visit (some content) reach = some content :=
  visit_of_not_due foreign.not_due reach

/-- No visit changes a copy that is not taken for the keeper's own. -/
theorem Foreign.visits
    (foreign : keeper.Foreign content)
    (reaches : List Reach) :
    keeper.visits (some content) reaches = some content := by
  induction reaches with
  | nil => rfl
  | cons reach later inductionHypothesis =>
      rw [Keeper.visits, List.foldl_cons, foreign.visit]
      exact inductionHypothesis

theorem visit_untouched
    (copy : Option Content) :
    keeper.visit copy .untouched = copy := by
  simp [visit]

/-- After a whole visit there is nothing to write. -/
theorem not_due_visit_whole
    (copy : Option Content) :
    ¬ keeper.Due (keeper.visit copy .whole) := by
  unfold visit
  split
  case isTrue due => exact fun again => again.2 rfl
  case isFalse done => exact done

/-- A whole visit makes a kept copy the wanted one. -/
theorem Kept.visit_whole
    (kept : keeper.Kept copy) :
    keeper.visit copy .whole = some keeper.wanted := by
  unfold visit
  split
  case isTrue due => rfl
  case isFalse done => exact kept.eq_wanted done

/-- A kept copy stays kept, or is spoilt by this visit. -/
theorem Kept.visit
    (kept : keeper.Kept copy)
    (reach : Reach) :
    keeper.Kept (keeper.visit copy reach) ∨
      ∃ written, reach = .cut written ∧ keeper.Due copy ∧
        keeper.Foreign (keeper.left written) ∧
        keeper.visit copy reach = some (keeper.left written) := by
  unfold Keeper.visit
  split
  case isFalse done => exact .inl kept
  case isTrue due =>
      cases reach with
      | untouched => exact .inl kept
      | whole => exact .inl kept_wanted
      | cut written =>
          by_cases foreign : keeper.Foreign (keeper.left written)
          · exact .inr ⟨written, rfl, due, foreign, rfl⟩
          · refine .inl fun content same => ?_
            cases same
            exact foreign

/-- After any visits a kept copy is kept, or spoilt with what it then is. -/
theorem Kept.visits
    (kept : keeper.Kept copy)
    (reaches : List Reach) :
    keeper.Kept (keeper.visits copy reaches) ∨
      ∃ content, keeper.Spoilt copy reaches content ∧
        keeper.visits copy reaches = some content := by
  induction reaches generalizing copy with
  | nil => exact .inl kept
  | cons reach later inductionHypothesis =>
      change keeper.Kept (keeper.visits (keeper.visit copy reach) later) ∨
        ∃ content, keeper.Spoilt copy (reach :: later) content ∧
          keeper.visits (keeper.visit copy reach) later = some content
      rcases kept.visit reach with still | ⟨written, rfl, due, foreign, result⟩
      · rcases inductionHypothesis still with calm | ⟨content, spoilt, found⟩
        · exact .inl calm
        · obtain ⟨earlier, written, rest, rfl, due, same, foreign⟩ := spoilt
          exact .inr ⟨content,
            ⟨reach :: earlier, written, rest, rfl, due, same, foreign⟩, found⟩
      · rw [result, foreign.visits]
        exact .inr ⟨_, ⟨[], written, later, rfl, due, rfl, foreign⟩, rfl⟩

theorem Spoilt.foreign
    {reaches : List Reach}
    (spoilt : keeper.Spoilt copy reaches content) :
    keeper.Foreign content := by
  obtain ⟨_, _, _, _, _, _, foreign⟩ := spoilt
  exact foreign

/-- A spoilt copy stays what it was spoilt with. -/
theorem Spoilt.visits
    {reaches : List Reach}
    (spoilt : keeper.Spoilt copy reaches content) :
    keeper.visits copy reaches = some content := by
  obtain ⟨earlier, written, later, rfl, due, rfl, foreign⟩ := spoilt
  rw [visits_append]
  change keeper.visits (keeper.visit _ (.cut written)) later = _
  rw [visit_of_due due]
  exact foreign.visits later

/-- After a whole visit a kept copy is another than the wanted one exactly when
it was spoilt with that. -/
theorem Kept.visits_whole_iff
    (kept : keeper.Kept copy)
    (reaches : List Reach)
    (content : Content) :
    keeper.visit (keeper.visits copy reaches) .whole = some content ∧
        content ≠ keeper.wanted ↔
      keeper.Spoilt copy reaches content := by
  constructor
  · rintro ⟨found, unwanted⟩
    rcases kept.visits reaches with calm | ⟨other, spoilt, same⟩
    · rw [calm.visit_whole] at found
      exact absurd (Option.some.inj found).symm unwanted
    · rw [same, spoilt.foreign.visit] at found
      cases found
      exact spoilt
  · intro spoilt
    rw [spoilt.visits, spoilt.foreign.visit]
    exact ⟨rfl, spoilt.foreign.2⟩

end Keeper
end Foundation
end Hearthdeck
