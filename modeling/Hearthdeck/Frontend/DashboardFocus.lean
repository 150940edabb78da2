import Hearthdeck.Foundation.Walks
import Hearthdeck.Frontend.App
import Mathlib.Data.Nat.Dist

/-!
# The cursor of the dashboard

The dashboard is a stack of rails, each a row of as many cards as it has.  The
cursor is on a card and remembers the card it last moved sideways to, which a
step to another rail comes back to where the rail is long enough.

The number of a rail is counted in integers here and in an `i32` by the loop.
A step clamps the cursor first, so the loop counts from -1 to the length of the
stack, and the two agree for stacks of fewer than 2 ^ 31 rails.
-/

namespace Hearthdeck
namespace Frontend
namespace Dashboard

open Foundation

/-- `Cursor`. -/
structure Cursor where
  rail : Nat
  card : Nat
  remembered : Nat
  deriving DecidableEq, Repr

/-- `cards_in`. -/
def cardsIn (rails : List Nat) (index : Nat) : Nat :=
  rails[index]?.getD 0

/-- `clamp`. -/
def clamp (cursor : Cursor) (rails : List Nat) : Cursor :=
  let rail :=
    if 0 < cardsIn rails cursor.rail then
      cursor.rail
    else
      (rails.findIdx? fun cards => 0 < cards).getD 0
  { rail := rail
    card := min cursor.card (cardsIn rails rail - 1)
    remembered := cursor.remembered }

/-- The loop of `shift_rail`: the first rail with cards among those it visits.
It leaves the list after at most as many rounds as the list has rails, and
never counts past its ends by more than one. -/
def seek (rails : List Nat) (delta : Int) : Nat → Int → Option Nat
  | 0, _ => none
  | rounds + 1, rail =>
      if 0 ≤ rail ∧ rail < rails.length then
        if 0 < cardsIn rails rail.toNat then
          some rail.toNat
        else
          seek rails delta rounds (rail + delta)
      else
        none

/-- `shift_rail`. -/
def shiftRail (cursor : Cursor) (rails : List Nat) (delta : Int) : Cursor :=
  match seek rails delta rails.length (cursor.rail + delta) with
  | some rail =>
      { rail := rail
        card := min cursor.remembered (cardsIn rails rail - 1)
        remembered := cursor.remembered }
  | none => cursor

/-- `step`. -/
def step
    (cursor : Cursor)
    (direction : Direction)
    (rails : List Nat) : Cursor :=
  let cursor := clamp cursor rails
  match direction with
  | .left =>
      let card := cursor.card - 1
      { cursor with
        card := card
        remembered := card }
  | .right =>
      let last := cardsIn rails cursor.rail - 1
      let card := min (cursor.card + 1) last
      { cursor with
        card := card
        remembered := card }
  | .up => shiftRail cursor rails (-1)
  | .down => shiftRail cursor rails 1

/-- `confirm`. -/
def confirm (cursor : Cursor) (rails : List Nat) : Option (Nat × Nat) :=
  let cursor := clamp cursor rails
  if cursor.card < cardsIn rails cursor.rail then
    some (cursor.rail, cursor.card)
  else
    none

/-- The pad on the dashboard, from a cursor on. -/
def walk (rails : List Nat) (start : Cursor) :
    Machine Cursor Direction Empty where
  start := start
  step cursor direction := (step cursor direction rails, [])

/-! ## The nearest rails -/

variable {rails : List Nat} {rail target other : Nat} {cursor : Cursor}

theorem lt_length_of_cardsIn
    (some : 0 < cardsIn rails rail) :
    rail < rails.length := by
  by_contra beyond
  rw [cardsIn, List.getElem?_eq_none (by omega)] at some
  exact Nat.lt_irrefl 0 some

/-- The next rail with cards below a rail. -/
structure NextDown (rails : List Nat) (rail target : Nat) : Prop where
  below : rail < target
  cards : 0 < cardsIn rails target
  between : ∀ index, rail < index → index < target → cardsIn rails index = 0

/-- The next rail with cards above a rail. -/
structure NextUp (rails : List Nat) (rail target : Nat) : Prop where
  above : target < rail
  cards : 0 < cardsIn rails target
  between : ∀ index, target < index → index < rail → cardsIn rails index = 0

theorem NextDown.unique
    (first : NextDown rails rail target)
    (second : NextDown rails rail other) :
    target = other := by
  rcases Nat.lt_trichotomy target other with before | same | after
  · have none := second.between target first.below before
    have cards := first.cards
    omega
  · exact same
  · have none := first.between other second.below after
    have cards := second.cards
    omega

theorem NextUp.unique
    (first : NextUp rails rail target)
    (second : NextUp rails rail other) :
    target = other := by
  rcases Nat.lt_trichotomy target other with before | same | after
  · have none := first.between other before second.above
    have cards := second.cards
    omega
  · exact same
  · have none := second.between target after first.above
    have cards := first.cards
    omega

theorem NextDown.back
    (next : NextDown rails rail target)
    (cards : 0 < cardsIn rails rail) :
    NextUp rails target rail :=
  ⟨next.below, cards, next.between⟩

theorem NextUp.back
    (next : NextUp rails rail target)
    (cards : 0 < cardsIn rails rail) :
    NextDown rails target rail :=
  ⟨next.above, cards, next.between⟩

/-- A rail with cards further down is the next one or hides it. -/
theorem exists_nextDown
    {rails : List Nat}
    {rail other : Nat}
    (below : rail < other)
    (cards : 0 < cardsIn rails other) :
    ∃ target, NextDown rails rail target ∧ target ≤ other := by
  by_cases hidden : ∃ index, rail < index ∧ index < other ∧
      0 < cardsIn rails index
  · obtain ⟨index, after, before, some⟩ := hidden
    obtain ⟨target, next, atMost⟩ := exists_nextDown after some
    exact ⟨target, next, by omega⟩
  · refine ⟨other, ⟨below, cards, fun index after before => ?_⟩, le_rfl⟩
    by_contra some
    exact hidden ⟨index, after, before, by omega⟩
termination_by other

theorem exists_nextUp
    {rails : List Nat}
    {rail other : Nat}
    (above : other < rail)
    (cards : 0 < cardsIn rails other) :
    ∃ target, NextUp rails rail target ∧ other ≤ target := by
  by_cases hidden : ∃ index, other < index ∧ index < rail ∧
      0 < cardsIn rails index
  · obtain ⟨index, after, before, some⟩ := hidden
    obtain ⟨target, next, atLeast⟩ := exists_nextUp before some
    exact ⟨target, next, by omega⟩
  · refine ⟨other, ⟨above, cards, fun index after before => ?_⟩, le_rfl⟩
    by_contra some
    exact hidden ⟨index, after, before, by omega⟩
termination_by rail - other

/-- Downwards the loop finds the next rail, given enough rounds. -/
theorem seek_down_eq_some_iff
    {rounds : Nat}
    (enough : rails.length ≤ rail + 1 + rounds) :
    seek rails 1 rounds (rail + 1) = some target ↔
      NextDown rails rail target := by
  induction rounds generalizing rail with
  | zero =>
      refine iff_of_false (by simp [seek]) fun next => ?_
      have inside := lt_length_of_cardsIn next.cards
      have below := next.below
      omega
  | succ rounds inductionHypothesis =>
      have isNext : ((rail : Int) + 1).toNat = rail + 1 := by omega
      rw [seek, isNext]
      split
      case isTrue inside =>
          split
          case isTrue cards =>
              have next : NextDown rails rail (rail + 1) :=
                ⟨by omega, cards, fun index after before => by omega⟩
              constructor
              · intro same
                cases same
                exact next
              · intro other
                rw [next.unique other]
          case isFalse empty =>
              have further := @inductionHypothesis (rail + 1) (by omega)
              rw [Int.natCast_succ] at further
              rw [further]
              constructor
              · intro next
                refine ⟨by have := next.below; omega, next.cards,
                  fun index after before => ?_⟩
                by_cases first : index = rail + 1
                · subst first
                  omega
                · exact next.between index (by omega) before
              · intro next
                have below : rail + 1 ≠ target := by
                  rintro rfl
                  exact empty next.cards
                exact ⟨by have := next.below; omega, next.cards,
                  fun index after before =>
                    next.between index (by omega) before⟩
      case isFalse outside =>
          refine iff_of_false nofun fun next => ?_
          have inside := lt_length_of_cardsIn next.cards
          have below := next.below
          omega

/-- Upwards it finds the next rail too. -/
theorem seek_up_eq_some_iff
    {rounds : Nat}
    (enough : rail ≤ rounds)
    (inside : rail ≤ rails.length) :
    seek rails (-1) rounds (rail + -1) = some target ↔
      NextUp rails rail target := by
  induction rounds generalizing rail with
  | zero =>
      refine iff_of_false (by simp [seek]) fun next => ?_
      have above := next.above
      omega
  | succ rounds inductionHypothesis =>
      cases rail with
      | zero =>
          refine iff_of_false (by simp [seek]) fun next => ?_
          exact Nat.not_lt_zero _ next.above
      | succ rail =>
          have isNext : ((rail + 1 : Nat) : Int) + -1 = rail := by omega
          rw [isNext, seek, if_pos ⟨by omega, by omega⟩, Int.toNat_natCast]
          split
          case isTrue cards =>
              have next : NextUp rails (rail + 1) rail :=
                ⟨by omega, cards, fun index after before => by omega⟩
              constructor
              · intro same
                cases same
                exact next
              · intro other
                rw [next.unique other]
          case isFalse empty =>
              rw [@inductionHypothesis rail (by omega) (by omega)]
              constructor
              · intro next
                refine ⟨by have := next.above; omega, next.cards,
                  fun index after before => ?_⟩
                by_cases last : index = rail
                · subst last
                  omega
                · exact next.between index after (by omega)
              · intro next
                have above : target ≠ rail := by
                  rintro rfl
                  exact empty next.cards
                exact ⟨by have := next.above; omega, next.cards,
                  fun index after before =>
                    next.between index after (by omega)⟩

/-! ## What a step does -/

/-- A cursor on the card it remembers, or on the last of a rail that is too
short for it. -/
structure Settled (rails : List Nat) (cursor : Cursor) : Prop where
  cards : 0 < cardsIn rails cursor.rail
  card : cursor.card = min cursor.remembered (cardsIn rails cursor.rail - 1)

theorem Settled.onCard
    (settled : Settled rails cursor) :
    cursor.card < cardsIn rails cursor.rail := by
  have cards := settled.cards
  have card := settled.card
  omega

theorem settled_of_remembered
    (onCard : cursor.card < cardsIn rails cursor.rail)
    (remembers : cursor.remembered = cursor.card) :
    Settled rails cursor :=
  ⟨by omega, by omega⟩

theorem clamp_of_onCard
    (onCard : cursor.card < cardsIn rails cursor.rail) :
    clamp cursor rails = cursor := by
  have cards : 0 < cardsIn rails cursor.rail := by omega
  have same :
      min cursor.card (cardsIn rails cursor.rail - 1) = cursor.card := by
    omega
  simp only [clamp, if_pos cards, same]

/-- Where a vertical step lands. -/
def landed (cursor : Cursor) (rails : List Nat) (rail : Nat) : Cursor where
  rail := rail
  card := min cursor.remembered (cardsIn rails rail - 1)
  remembered := cursor.remembered

theorem settled_landed
    (cards : 0 < cardsIn rails rail) :
    Settled rails (landed cursor rails rail) :=
  ⟨cards, rfl⟩

/-- Back on the rail it came from the cursor is what it was. -/
theorem landed_landed
    (settled : Settled rails cursor) :
    landed (landed cursor rails rail) rails cursor.rail = cursor := by
  have card := settled.card
  simp only [landed]
  rw [← card]

theorem step_left
    (onCard : cursor.card < cardsIn rails cursor.rail) :
    step cursor .left rails =
      ⟨cursor.rail, cursor.card - 1, cursor.card - 1⟩ := by
  simp only [step, clamp_of_onCard onCard]

theorem step_right
    (onCard : cursor.card < cardsIn rails cursor.rail) :
    step cursor .right rails =
      ⟨cursor.rail, min (cursor.card + 1) (cardsIn rails cursor.rail - 1),
        min (cursor.card + 1) (cardsIn rails cursor.rail - 1)⟩ := by
  simp only [step, clamp_of_onCard onCard]

/-- A shift lands on the rail that the loop finds, or goes nowhere. -/
theorem shiftRail_cases
    {delta : Int}
    {Next : Nat → Prop}
    (found : ∀ target,
      seek rails delta rails.length (cursor.rail + delta) = some target ↔
        Next target) :
    (∃ target, Next target ∧
        shiftRail cursor rails delta = landed cursor rails target) ∨
      (¬ ∃ target, Next target) ∧ shiftRail cursor rails delta = cursor := by
  rw [shiftRail]
  cases outcome : seek rails delta rails.length (cursor.rail + delta) with
  | some target => exact .inl ⟨target, (found target).mp outcome, rfl⟩
  | none =>
      refine .inr ⟨?_, rfl⟩
      rintro ⟨target, next⟩
      rw [(found target).mpr next] at outcome
      cases outcome

/-- Down is the next rail below, or nowhere. -/
theorem step_down
    (onCard : cursor.card < cardsIn rails cursor.rail) :
    (∃ target, NextDown rails cursor.rail target ∧
        step cursor .down rails = landed cursor rails target) ∨
      (¬ ∃ target, NextDown rails cursor.rail target) ∧
        step cursor .down rails = cursor := by
  have moved : step cursor .down rails = shiftRail cursor rails 1 := by
    simp only [step, clamp_of_onCard onCard]
  rw [moved]
  exact shiftRail_cases fun target => seek_down_eq_some_iff (by omega)

/-- Up is the next rail above, or nowhere. -/
theorem step_up
    (onCard : cursor.card < cardsIn rails cursor.rail) :
    (∃ target, NextUp rails cursor.rail target ∧
        step cursor .up rails = landed cursor rails target) ∨
      (¬ ∃ target, NextUp rails cursor.rail target) ∧
        step cursor .up rails = cursor := by
  have inside := @lt_length_of_cardsIn rails cursor.rail (by omega)
  have moved : step cursor .up rails = shiftRail cursor rails (-1) := by
    simp only [step, clamp_of_onCard onCard]
  rw [moved]
  exact shiftRail_cases fun target =>
    seek_up_eq_some_iff (by omega) (by omega)

/-- A step keeps the cursor on a card. -/
theorem Settled.step
    (settled : Settled rails cursor)
    (direction : Direction) :
    Settled rails (step cursor direction rails) := by
  have onCard := settled.onCard
  cases direction with
  | left =>
      rw [step_left onCard]
      exact settled_of_remembered (by dsimp only; omega) rfl
  | right =>
      rw [step_right onCard]
      exact settled_of_remembered (by dsimp only; omega) rfl
  | up =>
      rcases step_up onCard with ⟨target, next, moved⟩ | ⟨_, stayed⟩
      · rw [moved]
        exact settled_landed next.cards
      · rw [stayed]
        exact settled
  | down =>
      rcases step_down onCard with ⟨target, next, moved⟩ | ⟨_, stayed⟩
      · rw [moved]
        exact settled_landed next.cards
      · rw [stayed]
        exact settled

/-- A run from a card that is remembered is on a card throughout. -/
theorem settled_run
    {start : Cursor}
    (onCard : start.card < cardsIn rails start.rail)
    (remembers : start.remembered = start.card)
    (directions : List Direction) :
    Settled rails ((walk rails start).run directions) :=
  (walk rails start).run_induction (Settled rails)
    (settled_of_remembered onCard remembers)
    (fun _ direction settled => settled.step direction) directions

/-! ## What is confirmed -/

/-- A clamped cursor is on a card as soon as there is one. -/
theorem clamp_onCard
    (cards : 0 < cardsIn rails rail) :
    (clamp cursor rails).card < cardsIn rails (clamp cursor rails).rail := by
  have some : 0 < cardsIn rails (clamp cursor rails).rail := by
    rw [clamp]
    dsimp only
    split
    case isTrue here => exact here
    case isFalse =>
        have inside := lt_length_of_cardsIn cards
        have isCards : cardsIn rails rail = rails[rail] := by
          rw [cardsIn, List.getElem?_eq_getElem inside, Option.getD_some]
        cases found : rails.findIdx? fun cards => 0 < cards with
        | none =>
            have empty := List.findIdx?_eq_none_iff.mp found rails[rail]
              (List.getElem_mem inside)
            rw [← isCards] at empty
            simp [cards] at empty
        | some index =>
            obtain ⟨isIndex, holds, _⟩ :=
              List.findIdx?_eq_some_iff_getElem.mp found
            rw [Option.getD_some, cardsIn, List.getElem?_eq_getElem isIndex,
              Option.getD_some]
            exact of_decide_eq_true holds
  have bounded : (clamp cursor rails).card ≤
      cardsIn rails (clamp cursor rails).rail - 1 := Nat.min_le_right _ _
  omega

theorem confirm_eq_some
    {card : Nat}
    (confirmed : confirm cursor rails = some (rail, card)) :
    card < cardsIn rails rail := by
  dsimp only [confirm] at confirmed
  split at confirmed
  case isTrue onCard =>
      cases confirmed
      exact onCard
  case isFalse => cases confirmed

/-- Nothing is confirmed exactly when there is no card. -/
theorem confirm_eq_none_iff :
    confirm cursor rails = none ↔ ∀ index, cardsIn rails index = 0 := by
  dsimp only [confirm]
  split
  case isTrue onCard =>
      refine iff_of_false nofun fun empty => ?_
      rw [empty] at onCard
      exact Nat.not_lt_zero _ onCard
  case isFalse offCard =>
      refine iff_of_true rfl fun index => ?_
      by_contra some
      exact offCard (clamp_onCard (Nat.pos_of_ne_zero some))

/-! ## There and back -/

theorem up_down
    (settled : Settled rails cursor)
    (moves : (step cursor .down rails).rail ≠ cursor.rail) :
    step (step cursor .down rails) .up rails = cursor := by
  rcases step_down settled.onCard with ⟨target, next, moved⟩ | ⟨_, stayed⟩
  · rw [moved]
    have back : NextUp rails (landed cursor rails target).rail cursor.rail :=
      next.back settled.cards
    have there : Settled rails (landed cursor rails target) :=
      settled_landed next.cards
    rcases step_up there.onCard with ⟨other, nextUp, isBack⟩ | ⟨none, _⟩
    · rw [isBack, nextUp.unique back, landed_landed settled]
    · exact absurd ⟨_, back⟩ none
  · exact absurd (congrArg Cursor.rail stayed) moves

theorem down_up
    (settled : Settled rails cursor)
    (moves : (step cursor .up rails).rail ≠ cursor.rail) :
    step (step cursor .up rails) .down rails = cursor := by
  rcases step_up settled.onCard with ⟨target, next, moved⟩ | ⟨_, stayed⟩
  · rw [moved]
    have back : NextDown rails (landed cursor rails target).rail cursor.rail :=
      next.back settled.cards
    have there : Settled rails (landed cursor rails target) :=
      settled_landed next.cards
    rcases step_down there.onCard with ⟨other, nextDown, isBack⟩ | ⟨none, _⟩
    · rw [isBack, nextDown.unique back, landed_landed settled]
    · exact absurd ⟨_, back⟩ none
  · exact absurd (congrArg Cursor.rail stayed) moves

/-! ## Every card is reached -/

theorem exists_reaches_rail
    {start : Cursor}
    (settled : Settled rails cursor)
    (cards : 0 < cardsIn rails rail) :
    ∃ target, (walk rails start).Reaches cursor target ∧
      Settled rails target ∧ target.rail = rail := by
  refine Machine.exists_reaches_of_nearer (Settled rails)
    (fun cursor => Nat.dist cursor.rail rail) (fun cursor settled away => ?_)
    settled
  rcases Nat.lt_or_gt_of_ne away with below | above
  · refine ⟨.down, settled.step .down, ?_⟩
    obtain ⟨target, next, atMost⟩ := exists_nextDown below cards
    rcases step_down settled.onCard with ⟨other, isNext, moved⟩ | ⟨none, _⟩
    · change Nat.dist (step cursor .down rails).rail rail < _
      have after := next.below
      rw [moved, isNext.unique next]
      simp only [Nat.dist, landed]
      omega
    · exact absurd ⟨target, next⟩ none
  · refine ⟨.up, settled.step .up, ?_⟩
    obtain ⟨target, next, atLeast⟩ := exists_nextUp above cards
    rcases step_up settled.onCard with ⟨other, isNext, moved⟩ | ⟨none, _⟩
    · change Nat.dist (step cursor .up rails).rail rail < _
      have before := next.above
      rw [moved, isNext.unique next]
      simp only [Nat.dist, landed]
      omega
    · exact absurd ⟨target, next⟩ none

theorem exists_reaches_card
    {start : Cursor}
    {card : Nat}
    (settled : Settled rails cursor)
    (isCard : card < cardsIn rails cursor.rail) :
    ∃ target, (walk rails start).Reaches cursor target ∧
      (Settled rails target ∧ target.rail = cursor.rail) ∧
        target.card = card := by
  refine Machine.exists_reaches_of_nearer
    (fun other => Settled rails other ∧ other.rail = cursor.rail)
    (fun cursor => Nat.dist cursor.card card) (fun other kept away => ?_)
    ⟨settled, rfl⟩
  obtain ⟨settledOther, sameRail⟩ := kept
  rcases Nat.lt_or_gt_of_ne away with before | after
  · refine ⟨.right, ⟨settledOther.step .right, ?_⟩, ?_⟩
    · change (step other .right rails).rail = _
      rw [step_right settledOther.onCard, sameRail]
    · change Nat.dist (step other .right rails).card card < _
      rw [step_right settledOther.onCard, sameRail]
      simp only [Nat.dist]
      omega
  · refine ⟨.left, ⟨settledOther.step .left, ?_⟩, ?_⟩
    · change (step other .left rails).rail = _
      rw [step_left settledOther.onCard, sameRail]
    · change Nat.dist (step other .left rails).card card < _
      rw [step_left settledOther.onCard]
      simp only [Nat.dist]
      omega

/-! ## The walk -/

/-- Every run from a card that is remembered stays on cards.  A vertical step
lands on the nearest rail with cards in its direction or stays; as many steps
up as there were steps down, each to another rail, lead back, and the other
way round; and every card of every rail is reached. -/
theorem walk_stays_on_cards
    (rails : List Nat)
    (start : Cursor)
    (onCard : start.card < cardsIn rails start.rail)
    (remembers : start.remembered = start.card)
    (directions : List Direction) :
    let pad := walk rails start
    let here := pad.run directions
    here.card < cardsIn rails here.rail ∧
    (∀ target, NextDown rails here.rail target →
      (step here .down rails).rail = target) ∧
    ((¬ ∃ target, NextDown rails here.rail target) →
      step here .down rails = here) ∧
    (∀ target, NextUp rails here.rail target →
      (step here .up rails).rail = target) ∧
    ((¬ ∃ target, NextUp rails here.rail target) →
      step here .up rails = here) ∧
    (∀ count,
      (∀ done < count,
        let there := pad.runFrom here (List.replicate done .down)
        (step there .down rails).rail ≠ there.rail) →
      pad.runFrom here
        (List.replicate count .down ++ List.replicate count .up) = here) ∧
    (∀ count,
      (∀ done < count,
        let there := pad.runFrom here (List.replicate done .up)
        (step there .up rails).rail ≠ there.rail) →
      pad.runFrom here
        (List.replicate count .up ++ List.replicate count .down) = here) ∧
    ∀ rail card, card < cardsIn rails rail →
      ∃ target, pad.Reaches here target ∧ target.rail = rail ∧
        target.card = card := by
  intro pad here
  have settled : Settled rails here := settled_run onCard remembers directions
  have isOnCard := settled.onCard
  refine ⟨isOnCard, fun target next => ?_, fun none => ?_,
    fun target next => ?_, fun none => ?_, fun count moves => ?_,
    fun count moves => ?_, fun rail card isCard => ?_⟩
  · rcases step_down isOnCard with ⟨other, isNext, moved⟩ | ⟨none, _⟩
    · rw [moved, next.unique isNext]
      rfl
    · exact absurd ⟨target, next⟩ none
  · rcases step_down isOnCard with ⟨other, isNext, _⟩ | ⟨_, stayed⟩
    · exact absurd ⟨other, isNext⟩ none
    · exact stayed
  · rcases step_up isOnCard with ⟨other, isNext, moved⟩ | ⟨none, _⟩
    · rw [moved, next.unique isNext]
      rfl
    · exact absurd ⟨target, next⟩ none
  · rcases step_up isOnCard with ⟨other, isNext, _⟩ | ⟨_, stayed⟩
    · exact absurd ⟨other, isNext⟩ none
    · exact stayed
  · exact Machine.runFrom_there_and_back (Settled rails)
      (fun cursor => (step cursor .down rails).rail ≠ cursor.rail)
      (fun _ kept => kept.step .down) (fun _ => up_down) count settled moves
  · exact Machine.runFrom_there_and_back (Settled rails)
      (fun cursor => (step cursor .up rails).rail ≠ cursor.rail)
      (fun _ kept => kept.step .up) (fun _ => down_up) count settled moves
  · obtain ⟨onRail, toRail, settledThere, isRail⟩ :=
      exists_reaches_rail settled (Nat.zero_lt_of_lt isCard)
    subst isRail
    obtain ⟨target, toCard, ⟨_, sameRail⟩, isTarget⟩ :=
      exists_reaches_card settledThere isCard
    exact ⟨target, toRail.trans toCard, sameRail, isTarget⟩

/-- On three rails of four, one and three cards. -/
theorem walk_stays_on_cards_three_rails :
    step (step ⟨0, 2, 2⟩ .down [4, 1, 3]) .up [4, 1, 3] = ⟨0, 2, 2⟩ := by
  have laws := walk_stays_on_cards [4, 1, 3] ⟨0, 2, 2⟩ (by decide) rfl []
  exact laws.2.2.2.2.2.1 1 fun done less => by
    obtain rfl : done = 0 := by omega
    decide

end Dashboard
end Frontend
end Hearthdeck
