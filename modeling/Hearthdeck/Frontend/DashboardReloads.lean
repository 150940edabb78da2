import Hearthdeck.Foundation.FileNames
import Hearthdeck.Frontend.DashboardPage

/-!
# Reloads of the dashboard

The rails of the dashboard are read again in the background.  The pad is named
by the card it was on and put back on the first card of that name.

This module says what a press against an edge and a reading of what is already
held do to the cursor.  Both are meant to do nothing; both may lose the card
the cursor remembers, and a reading may move the pad to another rail when two
rails have one name.
-/

namespace Hearthdeck
namespace Frontend
namespace Dashboard

open Foundation
open Foundation.FileName (splitLast splitLast_append)

/-- The part of the shell the dashboard lives in.  A reading that is answered
carries the number it was asked under. -/
structure Shell where
  sources : Sources
  cursor : Cursor
  collectionsRequest : Nat
  sourceRevision : Nat
  retriesCollections : Bool
  retriesConsoles : Bool

namespace Sources

/-- The first place with a card of a name. -/
def place (page : Sources) (id : String) : Option (Nat × Nat) :=
  page.dashboardRails.zipIdx.findSome? fun (source, rail) =>
    ((List.range (page.dashboardRailLength source)).find? fun card =>
      source.cardId card = id).map fun card => (rail, card)

end Sources

namespace Shell

/-- `dashboard_cursor_card`. -/
def dashboardCursorCard (shell : Shell) : Option String :=
  shell.sources.dashboardCardIdAt shell.cursor.rail shell.cursor.card

/-- `reland_dashboard`. -/
def relandDashboard (shell : Shell) (was : Option String) : Shell :=
  match was.bind shell.sources.place with
  | some (rail, card) =>
      { shell with
        cursor :=
          { rail := rail
            card := card
            remembered := card } }
  | none =>
      { shell with
        cursor := clamp shell.cursor shell.sources.dashboardRailLengths }

/-- `step_dashboard`, as far as the cursor goes. -/
def stepDashboard (shell : Shell) (direction : Direction) : Shell :=
  { shell with
    cursor := step shell.cursor direction shell.sources.dashboardRailLengths }

/-- The `CollectionsLoaded` arm. -/
def collectionsLoaded
    (shell : Shell)
    (request : Nat)
    (result : Except String (List Collection)) : Shell :=
  if request ≠ shell.collectionsRequest then
    shell
  else
    match result with
    | .ok collections =>
        let was := shell.dashboardCursorCard
        relandDashboard
          { shell with
            sources := { shell.sources with collections := collections }
            retriesCollections := false } was
    | .error _ =>
        { shell with
          retriesCollections := true
          collectionsRequest := shell.collectionsRequest + 1 }

/-- The `ConsolesLoaded` arm. -/
def consolesLoaded
    (shell : Shell)
    (source : Nat)
    (result : Except String (List RetroConsole)) : Shell :=
  if source ≠ shell.sourceRevision then
    shell
  else
    match result with
    | .ok platforms =>
        let was := shell.dashboardCursorCard
        relandDashboard
          { shell with
            sources := { shell.sources with consolePlatforms := platforms }
            retriesConsoles := false } was
    | .error _ => { shell with retriesConsoles := true }

end Shell

/-! ## Names of cards -/

theorem dash_notMem_toDigits (number : Nat) :
    '-' ∉ Nat.toDigits 10 number := by
  intro member
  have isDigit := Nat.isDigit_of_mem_toDigits (by decide) (by decide) member
  simp at isDigit

/-- A card's name says its rail's name and its place. -/
theorem dashboardCardId_inj
    {slug other : String}
    {index place : Nat} :
    dashboardCardId slug index = dashboardCardId other place ↔
      slug = other ∧ index = place := by
  constructor
  · intro same
    have chars : ("dashboard-card-" ++ slug ++ "-" ++ toString index).toList =
        ("dashboard-card-" ++ other ++ "-" ++ toString place).toList :=
      congrArg String.toList same
    simp only [String.toList_append, List.append_assoc,
      List.append_cancel_left_eq] at chars
    change slug.toList ++ '-' :: (Nat.repr index).toList =
      other.toList ++ '-' :: (Nat.repr place).toList at chars
    rw [Nat.toList_repr, Nat.toList_repr] at chars
    have cut := congrArg (splitLast '-') chars
    rw [splitLast_append (dash_notMem_toDigits index),
      splitLast_append (dash_notMem_toDigits place)] at cut
    obtain ⟨slugs, digits⟩ := Prod.mk.inj (Option.some.inj cut)
    have numbers := congrArg (Nat.ofDigitChars 10 · 0) digits
    simp only [Nat.ofDigitChars_ten_toDigits] at numbers
    exact ⟨String.toList_injective slugs, numbers⟩
  · rintro ⟨rfl, rfl⟩
    rfl

theorem cardId_inj
    {rail other : Rail}
    {card place : Nat} :
    rail.cardId card = other.cardId place ↔
      rail.name = other.name ∧ card = place :=
  dashboardCardId_inj

/-! ## Where the pad is put back -/

theorem find?_range_eq
    (holds : Prop)
    [Decidable holds]
    (count card : Nat) :
    ((List.range count).find? fun index =>
        decide (holds ∧ index = card)) =
      if holds ∧ card < count then some card else none := by
  split
  case isTrue found =>
      rw [List.find?_range_eq_some, List.mem_range]
      exact ⟨decide_eq_true ⟨found.1, rfl⟩, found.2, fun index before =>
        by simp [before.ne]⟩
  case isFalse missing =>
      rw [List.find?_eq_none]
      intro index inside
      rw [decide_eq_true_eq]
      rintro ⟨isHeld, rfl⟩
      exact missing ⟨isHeld, List.mem_range.mp inside⟩

theorem findSome?_zipIdx
    {Item Value : Type}
    (holds : Item → Bool)
    (value : Value)
    (items : List Item)
    (first : Nat) :
    ((items.zipIdx first).findSome? fun entry =>
        if holds entry.1 then some (entry.2, value) else none) =
      (items.findIdx? holds).map fun index => (first + index, value) := by
  induction items generalizing first with
  | nil => rfl
  | cons item items inductionHypothesis =>
      rw [List.zipIdx_cons, List.findSome?_cons, List.findIdx?_cons]
      dsimp only
      rw [inductionHypothesis]
      cases holds item with
      | true => simp
      | false =>
          cases items.findIdx? holds <;>
            simp [Nat.add_comm, Nat.add_left_comm]

variable {page : Sources} {source : Rail} {rail card : Nat}

/-- The place of a card's name is the first rail of its rail's name that has
so many cards. -/
theorem place_cardId :
    page.place (source.cardId card) =
      (page.dashboardRails.findIdx? fun other =>
        other.name = source.name ∧ card < page.dashboardRailLength other).map
          fun rail => (rail, card) := by
  have each : ∀ other : Rail, ∀ rail : Nat,
      ((List.range (page.dashboardRailLength other)).find? fun index =>
        other.cardId index = source.cardId card).map
          (fun card => (rail, card)) =
      if decide (other.name = source.name ∧
          card < page.dashboardRailLength other) then
        some (rail, card)
      else
        none := by
    intro other rail
    simp only [cardId_inj, find?_range_eq, decide_eq_true_eq]
    split_ifs <;> rfl
  have all := findSome?_zipIdx
    (fun other : Rail => decide (other.name = source.name ∧
      card < page.dashboardRailLength other)) card page.dashboardRails 0
  simp only [Nat.zero_add] at all
  simp only [Sources.place, each, all]

/-- A rail further up with the same name and a card in the same place. -/
def Doubled (page : Sources) (cursor : Cursor) : Prop :=
  ∃ rail < cursor.rail, ∃ source other,
    page.dashboardRails[cursor.rail]? = some source ∧
    page.dashboardRails[rail]? = some other ∧
    other.name = source.name ∧ cursor.card < page.dashboardRailLength other

/-- A card is found where it is exactly when no rail further up doubles it. -/
theorem place_eq_iff
    {cursor : Cursor}
    (isSource : page.dashboardRails[cursor.rail]? = some source)
    (isCard : cursor.card < page.dashboardRailLength source) :
    ∃ first, page.place (source.cardId cursor.card) =
        some (first, cursor.card) ∧
      (first = cursor.rail ↔ ¬ Doubled page cursor) := by
  obtain ⟨inside, isHere⟩ := List.getElem?_eq_some_iff.mp isSource
  rw [place_cardId]
  cases found : page.dashboardRails.findIdx? fun other =>
      other.name = source.name ∧
        cursor.card < page.dashboardRailLength other with
  | none =>
      have missing := List.findIdx?_eq_none_iff.mp found source
        (List.mem_of_getElem? isSource)
      simp [isCard] at missing
  | some first =>
      obtain ⟨isFirst, holds, least⟩ :=
        List.findIdx?_eq_some_iff_getElem.mp found
      refine ⟨first, rfl, ?_⟩
      constructor
      · rintro rfl ⟨rail, before, source', other, isSource', isOther, doubles⟩
        rw [isSource] at isSource'
        cases isSource'
        obtain ⟨isRail, rfl⟩ := List.getElem?_eq_some_iff.mp isOther
        have none := least rail before
        simp [doubles] at none
      · intro single
        rcases Nat.lt_trichotomy first cursor.rail with before | same | after
        · have both := of_decide_eq_true holds
          exact absurd ⟨first, before, source, _, isSource,
            List.getElem?_eq_getElem isFirst, both⟩ single
        · exact same
        · have none := least cursor.rail after
          rw [isHere] at none
          simp [isCard] at none

/-! ## The cursor of a run -/

/-- A cursor on a card, or on nothing at all while there is no card. -/
def AtRest (page : Sources) (cursor : Cursor) : Prop :=
  Settled page.dashboardRailLengths cursor ∨
    page.dashboardRailLengths = [] ∧ cursor = ⟨0, 0, 0⟩

/-- The cursor of a fresh start, or one on a card that it remembers. -/
def Starts (page : Sources) (cursor : Cursor) : Prop :=
  cursor = ⟨0, 0, 0⟩ ∨
    cursor.card < cardsIn page.dashboardRailLengths cursor.rail ∧
      cursor.remembered = cursor.card

theorem atRest_of_starts
    {cursor : Cursor}
    (starts : Starts page cursor) :
    AtRest page cursor := by
  rcases starts with rfl | ⟨onCard, remembers⟩
  · cases lengths : page.dashboardRailLengths with
    | nil => exact .inr ⟨lengths, rfl⟩
    | cons first others =>
        have positive : first ∈ page.dashboardRailLengths := by
          rw [lengths]
          exact List.mem_cons_self
        have some := of_decide_eq_true (List.mem_filter.mp positive).2
        refine .inl (settled_of_remembered ?_ rfl)
        rw [lengths]
        exact some
  · exact .inl (settled_of_remembered onCard remembers)

theorem AtRest.step
    {cursor : Cursor}
    (atRest : AtRest page cursor)
    (direction : Direction) :
    AtRest page (step cursor direction page.dashboardRailLengths) := by
  rcases atRest with settled | ⟨none, rfl⟩
  · exact .inl (settled.step direction)
  · refine .inr ⟨none, ?_⟩
    rw [none]
    cases direction <;> rfl

/-- The pad in the shell. -/
def Shell.pad (shell : Shell) : Machine Shell Direction Empty where
  start := shell
  step shell direction := (shell.stepDashboard direction, [])

/-- Steps move nothing but the cursor and leave it at rest. -/
theorem run_pad
    {shell : Shell}
    (starts : Starts shell.sources shell.cursor)
    (directions : List Direction) :
    ∃ cursor, AtRest shell.sources cursor ∧
      shell.pad.run directions = { shell with cursor := cursor } := by
  refine shell.pad.run_induction
    (fun here => ∃ cursor, AtRest shell.sources cursor ∧
      here = { shell with cursor := cursor })
    ⟨shell.cursor, atRest_of_starts starts, rfl⟩ ?_ directions
  rintro _ direction ⟨cursor, atRest, rfl⟩
  exact ⟨_, atRest.step direction, rfl⟩

/-! ## What changes nothing -/

/-- A press against an end of a rail by a cursor that remembers another card. -/
def Forgets (page : Sources) (cursor : Cursor) (direction : Direction) : Prop :=
  cursor.remembered ≠ cursor.card ∧
    (direction = .left ∧ cursor.card = 0 ∨
      direction = .right ∧
        cursor.card + 1 = cardsIn page.dashboardRailLengths cursor.rail)

/-- A step that stays on its card keeps the cursor exactly when it forgets
nothing. -/
theorem step_keeps_iff
    {cursor : Cursor}
    (atRest : AtRest page cursor)
    (direction : Direction) :
    ((step cursor direction page.dashboardRailLengths).rail = cursor.rail →
      (step cursor direction page.dashboardRailLengths).card = cursor.card →
      step cursor direction page.dashboardRailLengths = cursor) ↔
      ¬ Forgets page cursor direction := by
  rcases atRest with settled | ⟨none, rfl⟩
  · have onCard := settled.onCard
    obtain ⟨here, card, remembered⟩ := cursor
    dsimp only at onCard
    cases direction with
    | left =>
        rw [step_left onCard]
        simp [Forgets]
        omega
    | right =>
        rw [step_right onCard]
        simp [Forgets]
        omega
    | up =>
        refine iff_of_true (fun sameRail sameCard => ?_) (by simp [Forgets])
        rcases step_up settled.onCard with ⟨target, next, moved⟩ | ⟨_, stayed⟩
        · rw [moved] at sameRail
          exact absurd sameRail next.above.ne
        · exact stayed
    | down =>
        refine iff_of_true (fun sameRail sameCard => ?_) (by simp [Forgets])
        rcases step_down settled.onCard with ⟨target, next, moved⟩ | ⟨_, stayed⟩
        · rw [moved] at sameRail
          exact absurd sameRail next.below.ne'
        · exact stayed
  · rw [none]
    refine iff_of_true (fun _ _ => ?_) (by simp [Forgets])
    cases direction <;> rfl

/-- A cursor that a reading of the same rails moves: it remembers another card,
or its card is doubled. -/
def Moves (page : Sources) (cursor : Cursor) : Prop :=
  cursor.remembered ≠ cursor.card ∨ Doubled page cursor

theorem cursor_relandDashboard
    (shell : Shell)
    (was : Option String) :
    (shell.relandDashboard was).cursor =
      match was.bind shell.sources.place with
      | some (rail, card) => ⟨rail, card, card⟩
      | none => clamp shell.cursor shell.sources.dashboardRailLengths := by
  rw [Shell.relandDashboard]
  split <;> rfl

theorem relandDashboard_keeps_iff
    {shell : Shell}
    (atRest : AtRest shell.sources shell.cursor) :
    (shell.relandDashboard shell.dashboardCursorCard).cursor = shell.cursor ↔
      ¬ Moves shell.sources shell.cursor := by
  obtain ⟨sources, cursor, request, revision, collections, consoles⟩ := shell
  dsimp only at atRest ⊢
  rcases atRest with settled | ⟨none, rfl⟩
  · obtain ⟨source, isSource, isCard⟩ :=
      (Sources.lt_cardsIn_iff _ _).mp settled.onCard
    have isNamed : sources.dashboardCardIdAt cursor.rail cursor.card =
        some (source.cardId cursor.card) := by
      rw [Sources.dashboardCardIdAt, isSource]
      exact if_pos isCard
    obtain ⟨first, isPlace, isFirst⟩ := place_eq_iff isSource isCard
    obtain ⟨here, card, remembered⟩ := cursor
    simp only [cursor_relandDashboard, Shell.dashboardCursorCard, isNamed,
      Option.bind_some, isPlace]
    rw [Cursor.mk.injEq, isFirst, Moves]
    tauto
  · have noRail : sources.dashboardCardIdAt 0 0 = Option.none := by
      have unwalked := (Sources.drawnCard_eq_none_iff id 0 0).mpr
        (by rw [none]; exact Nat.not_lt_zero _)
      rw [Sources.dashboardCardIdAt_eq id, unwalked, Option.map_none]
    refine iff_of_true ?_ ?_
    · simp only [cursor_relandDashboard, Shell.dashboardCursorCard, noRail,
        Option.bind_none, none]
      rfl
    · rintro (forgets | ⟨rail, before, _⟩)
      · exact forgets rfl
      · exact Nat.not_lt_zero _ before

/-- In every state a run of steps reaches, a step that stays on its card keeps
the whole cursor exactly when it is no press against an end of a rail by a
cursor that remembers another card; and a reading of what is held keeps it
exactly when it is out of date, or the cursor remembers the card it is on and
no rail further up has the same name and a card in the same place. -/
theorem idle_keeps_cursor_iff
    (shell : Shell)
    (starts : Starts shell.sources shell.cursor)
    (directions : List Direction) :
    let here := shell.pad.run directions
    (∀ direction,
      ((here.stepDashboard direction).cursor.rail = here.cursor.rail →
        (here.stepDashboard direction).cursor.card = here.cursor.card →
        (here.stepDashboard direction).cursor = here.cursor) ↔
        ¬ Forgets here.sources here.cursor direction) ∧
    (∀ request,
      (here.collectionsLoaded request (.ok here.sources.collections)).cursor =
          here.cursor ↔
        request ≠ here.collectionsRequest ∨
          ¬ Moves here.sources here.cursor) ∧
    ∀ source,
      (here.consolesLoaded source (.ok here.sources.consolePlatforms)).cursor =
          here.cursor ↔
        source ≠ here.sourceRevision ∨ ¬ Moves here.sources here.cursor := by
  intro here
  obtain ⟨cursor, atRest, isHere⟩ := run_pad starts directions
  have settled : AtRest here.sources here.cursor := by
    rw [show here = _ from isHere]
    exact atRest
  refine ⟨step_keeps_iff settled, fun request => ?_, fun source => ?_⟩
  · rw [Shell.collectionsLoaded]
    split
    case isTrue stale => exact iff_of_true rfl (.inl stale)
    case isFalse current =>
        rw [or_iff_right current, ← relandDashboard_keeps_iff settled]
        simp only [cursor_relandDashboard]
  · rw [Shell.consolesLoaded]
    split
    case isTrue stale => exact iff_of_true rfl (.inl stale)
    case isFalse current =>
        rw [or_iff_right current, ← relandDashboard_keeps_iff settled]
        simp only [cursor_relandDashboard]

/-- A short rail over a long one. -/
def twoRails : Shell where
  sources :=
    { collections :=
        [⟨"favorites", none, [⟨"a", "A", none, none⟩]⟩,
          ⟨"play-later", none,
            [⟨"b", "B", none, none⟩, ⟨"c", "C", none, none⟩,
              ⟨"d", "D", none, none⟩]⟩]
      consolePlatforms := []
      entries := []
      tileSize := 140
      consoleTileSize := 70 }
  cursor := ⟨0, 0, 0⟩
  collectionsRequest := 1
  sourceRevision := 0
  retriesCollections := false
  retriesConsoles := false

/-- Down to the long rail, two cards to the right, and up again. -/
def upFromTheThird : List Direction := [.down, .right, .right, .up]

theorem idle_keeps_cursor_iff_two_rails :
    ((twoRails.pad.run upFromTheThird).collectionsLoaded 1
        (.ok twoRails.sources.collections)).cursor =
      (twoRails.pad.run upFromTheThird).cursor ↔
    (1 ≠ twoRails.collectionsRequest ∨
      ¬ Moves twoRails.sources (twoRails.pad.run upFromTheThird).cursor) :=
  (idle_keeps_cursor_iff twoRails (.inl rfl) upFromTheThird).2.1 1

/-- Up from the third card of the long rail, a press to the left or a reading
of the same collections changes nothing that is seen and moves the next step
down from the third card to the first. -/
theorem idle_loses_the_card :
    let here := twoRails.pad.run upFromTheThird
    let pressed := here.stepDashboard .left
    let read := here.collectionsLoaded 1 (.ok here.sources.collections)
    here.cursor = ⟨0, 0, 2⟩ ∧ (here.stepDashboard .down).cursor = ⟨1, 2, 2⟩ ∧
      pressed.cursor = ⟨0, 0, 0⟩ ∧
      (pressed.stepDashboard .down).cursor = ⟨1, 0, 0⟩ ∧
      read.cursor = ⟨0, 0, 0⟩ ∧
      (read.stepDashboard .down).cursor = ⟨1, 0, 0⟩ := by
  decide +kernel

end Dashboard
end Frontend
end Hearthdeck
