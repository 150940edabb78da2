import Mathlib.Algebra.Order.Ring.Defs
import Mathlib.Tactic.Linarith

/-!
# Following a target with a viewport

A viewport of some size slides along a content.  Following a target, which is
an interval of the content, moves the viewport only when the target is not
wholly in it, and then pins an edge of the target to an edge of the viewport,
clamped to how far the viewport can slide.

A target that fits is in view after it was followed and is left alone from
then on.  A target that does not fit is never in view, so a rule that moves
whenever it is not never comes to rest.
-/

namespace Hearthdeck
namespace Foundation
namespace Following

universe u

variable {Length : Type u} [CommRing Length] [LinearOrder Length]

/-- The furthest a viewport slides along a content. -/
def furthest (content viewport : Length) : Length :=
  max (content - viewport) 0

/-- The nearest offset between zero and a bound. -/
def clamped (bound offset : Length) : Length :=
  max 0 (min offset bound)

/-- An interval is wholly in the viewport, but for some slack. -/
structure InView (slack viewport start stop offset : Length) : Prop where
  start : offset ≤ start + slack
  stop : stop ≤ offset + viewport + slack

/-- The edge of a target that is pinned when it is not in view. -/
def pinned (viewport start stop offset : Length) : Option Length :=
  if start < offset then
    some start
  else if offset + viewport < stop then
    some (stop - viewport)
  else
    none

/-- Following a target of a content. -/
def follow (content viewport start stop offset : Length) : Option Length :=
  (pinned viewport start stop offset).map
    (clamped (furthest content viewport))

/-- Following from where following led leads nowhere. -/
def Settles (rule : Length → Option Length) : Prop :=
  ∀ offset target, rule offset = some target → rule target = none

/-- A rule that keeps a target in view: it moves to offsets the viewport can
slide to, with the target in view, and rests there; and where it does not move
the target is in view already. -/
structure Keeps
    (rule : Length → Option Length)
    (slack content viewport start stop : Length) : Prop where
  inRange : ∀ offset target, rule offset = some target →
    0 ≤ target ∧ target ≤ furthest content viewport
  inView : ∀ offset target, rule offset = some target →
    InView 0 viewport start stop target
  settles : Settles rule
  stays : ∀ offset, rule offset = none →
    InView slack viewport start stop
      (clamped (furthest content viewport) offset)

variable {slack content viewport start stop bound offset : Length}

/-- A rule that moves whenever the target is out of view never rests when the
target does not fit. -/
theorem not_settles_of_not_fits
    {rule : Length → Option Length}
    (moves : ∀ offset, rule offset = none → stop - start ≤ viewport)
    (large : viewport < stop - start) :
    ¬ Settles rule := by
  intro settles
  cases first : rule 0 with
  | none => exact absurd (moves 0 first) (not_le.mpr large)
  | some target =>
      exact absurd (moves target (settles 0 target first)) (not_le.mpr large)

/-! ## Clamping -/

theorem furthest_nonneg : 0 ≤ furthest content viewport :=
  le_max_right _ _

theorem clamped_nonneg : 0 ≤ clamped bound offset :=
  le_max_left _ _

theorem clamped_le
    (nonneg : 0 ≤ bound) :
    clamped bound offset ≤ bound :=
  max_le nonneg (min_le_right _ _)

theorem clamped_of_mem
    (nonneg : 0 ≤ offset)
    (atMost : offset ≤ bound) :
    clamped bound offset = offset := by
  rw [clamped, min_eq_left atMost, max_eq_right nonneg]

theorem clamped_of_ge
    (nonneg : 0 ≤ bound)
    (atLeast : bound ≤ offset) :
    clamped bound offset = bound := by
  rw [clamped, min_eq_right atLeast, max_eq_right nonneg]

theorem clamped_max :
    clamped bound (max offset 0) = clamped bound offset := by
  rcases le_total offset 0 with below | above
  · rw [max_eq_right below, clamped, clamped, max_eq_left (min_le_left _ _),
      max_eq_left ((min_le_left _ _).trans below)]
  · rw [max_eq_left above]

variable [IsStrictOrderedRing Length]

theorem content_le_furthest_add :
    content ≤ furthest content viewport + viewport := by
  have least := le_max_left (content - viewport) 0
  change content - viewport ≤ furthest content viewport at least
  linarith

/-- Clamping keeps in view what is in view, as far as the bound goes. -/
theorem InView.clamped
    (inView : InView slack viewport start stop offset)
    (starts : 0 ≤ start + slack)
    (stops : stop ≤ bound + viewport + slack) :
    InView slack viewport start stop (clamped bound offset) := by
  have first := inView.start
  have last := inView.stop
  refine ⟨max_le starts ((min_le_left _ _).trans first), ?_⟩
  rcases le_total offset bound with inside | beyond
  · have atLeast : offset ≤ Following.clamped bound offset := by
      rw [Following.clamped, min_eq_left inside]
      exact le_max_right _ _
    linarith
  · have atLeast : bound ≤ Following.clamped bound offset := by
      rw [Following.clamped, min_eq_right beyond]
      exact le_max_right _ _
    linarith

theorem InView.clamped_furthest
    (inView : InView 0 viewport start stop offset)
    (starts : 0 ≤ start)
    (stops : stop ≤ content) :
    InView 0 viewport start stop
      (Following.clamped (furthest content viewport) offset) := by
  have least := @content_le_furthest_add _ _ _ content viewport _
  exact inView.clamped (by linarith) (by linarith)

theorem InView.mono
    (inView : InView 0 viewport start stop offset)
    (nonneg : 0 ≤ slack) :
    InView slack viewport start stop offset := by
  have first := inView.start
  have last := inView.stop
  exact ⟨by linarith, by linarith⟩

/-- Clamping comes no further from what is within the bound. -/
theorem abs_clamped_sub_le
    {target : Length}
    (nonneg : 0 ≤ target)
    (atMost : target ≤ bound) :
    |clamped bound offset - target| ≤ |offset - target| := by
  have above := le_abs_self (offset - target)
  have below := neg_abs_le (offset - target)
  have distance := abs_nonneg (offset - target)
  rw [abs_le]
  rcases le_total offset bound with inside | beyond
  · rw [clamped, min_eq_left inside]
    rcases le_total 0 offset with positive | negative
    · rw [max_eq_right positive]
      exact ⟨by linarith, by linarith⟩
    · rw [max_eq_left negative]
      exact ⟨by linarith, by linarith⟩
  · rw [clamped, min_eq_right beyond, max_eq_right (nonneg.trans atMost)]
    exact ⟨by linarith, by linarith⟩

/-! ## Targets that fit -/

theorem inView_start
    (fits : stop - start ≤ viewport) :
    InView 0 viewport start stop start :=
  ⟨by linarith, by linarith⟩

theorem inView_stop
    (fits : stop - start ≤ viewport) :
    InView 0 viewport start stop (stop - viewport) :=
  ⟨by linarith, by linarith⟩

theorem pinned_eq_none_iff :
    pinned viewport start stop offset = none ↔
      InView 0 viewport start stop offset := by
  rw [pinned]
  split_ifs with before behind
  · refine iff_of_false nofun fun inView => ?_
    have first := inView.start
    linarith
  · refine iff_of_false nofun fun inView => ?_
    have last := inView.stop
    linarith
  · exact iff_of_true rfl ⟨by linarith, by linarith⟩

theorem inView_of_pinned
    {target : Length}
    (fits : stop - start ≤ viewport)
    (isPinned : pinned viewport start stop offset = some target) :
    InView 0 viewport start stop target := by
  rw [pinned] at isPinned
  split_ifs at isPinned
  · cases isPinned
    exact inView_start fits
  · cases isPinned
    exact inView_stop fits

theorem follow_eq_none_iff :
    follow content viewport start stop offset = none ↔
      InView 0 viewport start stop offset := by
  rw [follow, Option.map_eq_none_iff, pinned_eq_none_iff]

/-- Following a target that fits keeps it in view. -/
theorem keeps_follow
    (starts : 0 ≤ start)
    (stops : stop ≤ content)
    (fits : stop - start ≤ viewport) :
    Keeps (follow content viewport start stop) 0 content viewport start
      stop := by
  have inView : ∀ offset target,
      follow content viewport start stop offset = some target →
      InView 0 viewport start stop target := by
    intro offset target moves
    obtain ⟨pin, isPinned, rfl⟩ := Option.map_eq_some_iff.mp moves
    exact (inView_of_pinned fits isPinned).clamped_furthest starts stops
  refine ⟨fun offset target moves => ?_, inView, fun offset target moves => ?_,
    fun offset rests => ?_⟩
  · obtain ⟨pin, _, rfl⟩ := Option.map_eq_some_iff.mp moves
    exact ⟨clamped_nonneg, clamped_le furthest_nonneg⟩
  · exact follow_eq_none_iff.mpr (inView offset target moves)
  · exact (follow_eq_none_iff.mp rests).clamped_furthest starts stops

/-- Following settles exactly when the target fits. -/
theorem settles_follow_iff
    (starts : 0 ≤ start)
    (stops : stop ≤ content) :
    Settles (follow content viewport start stop) ↔ stop - start ≤ viewport := by
  refine ⟨fun settles => ?_, fun fits =>
    (keeps_follow starts stops fits).settles⟩
  by_contra large
  have rests_fits : ∀ offset,
      follow content viewport start stop offset = none →
      stop - start ≤ viewport := by
    intro offset rests
    have inView := follow_eq_none_iff.mp rests
    have first := inView.start
    have last := inView.stop
    linarith
  exact not_settles_of_not_fits rests_fits (not_le.mp large) settles

end Following
end Foundation
end Hearthdeck
