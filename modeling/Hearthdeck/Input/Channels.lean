import Hearthdeck.Input.Delivery
import Mathlib.Logic.Function.Basic

/-!
# Two channels of one control

A pad may report a trigger or a direction twice, as a key and as an axis.
Both channels end in one control, and the last report wins: an axis below its
threshold releases a control whose key is down.  Without such reports, what is
held is what is asserted, and a pull is one press.
-/

namespace Hearthdeck
namespace Input

open Foundation Protocol

/-! ## What a pad reports -/

/-- What a pad last reported: the keys that are down, and where its axes
are. -/
structure Reported where
  keys : KeyCode → Bool := fun _ => false
  axes : Axis → Option Int := fun _ => none

namespace Reported

/-- One more event.  A key that repeats itself stays as it is. -/
def after (reported : Reported) : InputEvent → Reported
  | .key code value =>
      if value ≠ 2 then
        { reported with
          keys := Function.update reported.keys code (decide (value ≠ 0)) }
      else
        reported
  | .absoluteAxis code value =>
      { reported with
        axes := Function.update reported.axes code (some value) }
  | .other => reported

/-- A key of the control is down, or an axis of it is past its threshold. -/
def Asserts
    (ranges : Axis → Option AxisRange)
    (reported : Reported)
    (control : Control) : Prop :=
  (∃ code, reported.keys code = true ∧ keyControl code = some control) ∨
    ∃ code value, reported.axes code = some value ∧
      (control, true) ∈ axisControls ranges code value

end Reported

/-- The edges of an event, as `Broker::poll` makes them. -/
def edges (ranges : Axis → Option AxisRange) :
    InputEvent → List (Control × Bool)
  | .key code value =>
      if value ≠ 2 then
        ((keyControl code).map fun control =>
          (control, decide (value ≠ 0))).toList
      else
        []
  | .absoluteAxis code value => axisControls ranges code value
  | .other => []

variable {ranges : Axis → Option AxisRange}

/-- Which controls an axis drives does not depend on where it is. -/
theorem axisControls_controls
    (ranges : Axis → Option AxisRange)
    (code : Axis)
    (value other : Int) :
    (axisControls ranges code value).map Prod.fst =
      (axisControls ranges code other).map Prod.fst := by
  cases code <;> rfl

/-- An event makes at most one edge of a control. -/
theorem edges_nodup
    (ranges : Axis → Option AxisRange)
    (event : InputEvent) :
    ((edges ranges event).map Prod.fst).Nodup := by
  cases event with
  | key code value =>
      dsimp only [edges]
      split
      case isTrue edge =>
          cases keyControl code with
          | none => exact List.nodup_nil
          | some control => exact List.nodup_singleton _
      case isFalse repeated => exact List.nodup_nil
  | absoluteAxis code value =>
      change ((axisControls ranges code value).map Prod.fst).Nodup
      rw [axisControls_controls ranges code value 0]
      cases code with
      | absX => exact (by decide : [Control.stickLeft, .stickRight].Nodup)
      | absY => exact (by decide : [Control.stickUp, .stickDown].Nodup)
      | absHat0x => exact (by decide : [Control.dpadLeft, .dpadRight].Nodup)
      | absHat0y => exact (by decide : [Control.dpadUp, .dpadDown].Nodup)
      | absRx =>
          exact (by decide : [Control.pointerLeft, .pointerRight].Nodup)
      | absRy => exact (by decide : [Control.pointerUp, .pointerDown].Nodup)
      | absZ => exact List.nodup_singleton _
      | absRz => exact List.nodup_singleton _
      | other code => exact List.nodup_nil
  | other => exact List.nodup_nil

/-- An event that presses a control reports a source of it. -/
theorem asserts_of_mem_edges
    {event : InputEvent}
    {control : Control}
    (pressed : (control, true) ∈ edges ranges event)
    (reported : Reported) :
    (reported.after event).Asserts ranges control := by
  cases event with
  | key code value =>
      dsimp only [edges] at pressed
      split at pressed
      case isTrue edge =>
          obtain ⟨other, mapped, same⟩ :=
            Option.map_eq_some_iff.mp (Option.mem_toList.mp pressed)
          obtain ⟨rfl, down⟩ := Prod.mk.inj same
          refine .inl ⟨code, ?_, mapped⟩
          dsimp only [Reported.after]
          rw [if_pos edge]
          exact (Function.update_self _ _ _).trans down
      case isFalse repeated => cases pressed
  | absoluteAxis code value =>
      exact .inr ⟨code, value, Function.update_self _ _ _, pressed⟩
  | other => cases pressed

/-- An event does not matter to the controls of which it makes no edge. -/
theorem asserts_after_iff
    {event : InputEvent}
    {control : Control}
    (unmoved : control ∉ (edges ranges event).map Prod.fst)
    (reported : Reported) :
    (reported.after event).Asserts ranges control ↔
      reported.Asserts ranges control := by
  cases event with
  | key code value =>
      dsimp only [edges] at unmoved
      dsimp only [Reported.after]
      split
      case isTrue edge =>
          rw [if_pos edge] at unmoved
          have elsewhere : keyControl code ≠ some control := by
            intro mapped
            rw [mapped] at unmoved
            exact unmoved (List.mem_singleton_self control)
          apply or_congr_left
          apply exists_congr
          intro other
          apply and_congr_left
          intro mapped
          have different : other ≠ code := by
            rintro rfl
            exact elsewhere mapped
          dsimp only
          rw [Function.update_of_ne different]
      case isFalse repeated => exact Iff.rfl
  | absoluteAxis code value =>
      apply or_congr_right
      apply exists_congr
      intro other
      apply exists_congr
      intro position
      apply and_congr_left
      intro driven
      have different : other ≠ code := by
        rintro rfl
        apply unmoved
        change control ∈ (axisControls ranges other value).map Prod.fst
        rw [axisControls_controls ranges other value position]
        exact List.mem_map_of_mem driven
      dsimp only [Reported.after]
      rw [Function.update_of_ne different]
  | other => exact Iff.rfl

/-! ## What ownership makes of it -/

/-- An edge of a control as ownership took it. -/
structure Taken where
  control : Control
  pressed : Bool
  /-- The edge changed what the pad holds. -/
  changed : Bool
  /-- The pad is armed and holds no Guide, and a surface that navigates owns
  it. -/
  heard : Bool
  signals : List Signal
  deriving DecidableEq

/-- A pad is listened to for navigation. -/
def Pad.heard (pad : Pad) (owner : Owner) : Bool :=
  pad.armed && decide (.guide ∉ pad.held) &&
    (decide (owner = .frontend) || decide (owner = .overlay))

/-- One edge, as ownership takes it. -/
def take
    (id : PadId)
    (now : Nat)
    (keyboardEnabled : Bool)
    (state : Ownership)
    (edge : Control × Bool) : Ownership × Taken :=
  let pad := (state.pads.lookup id).getD {}
  let result := state.button id edge.1 edge.2 now keyboardEnabled
  (result.1,
    { control := edge.1
      pressed := edge.2
      changed := pad.changes edge.1 edge.2
      heard := pad.heard state.owner
      signals := result.2 })

/-- The edges of an event, one after the other. -/
def takeAll
    (id : PadId)
    (now : Nat)
    (keyboardEnabled : Bool) :
    Ownership → List (Control × Bool) → Ownership × List Taken
  | state, [] => (state, [])
  | state, edge :: rest =>
      let first := take id now keyboardEnabled state edge
      let later := takeAll id now keyboardEnabled first.1 rest
      (later.1, first.2 :: later.2)

variable {id : PadId} {now : Nat} {keyboardEnabled : Bool}

theorem mem_heldOn_take
    (state : Ownership)
    (edge : Control × Bool)
    (control : Control) :
    control ∈ (take id now keyboardEnabled state edge).1.heldOn id ↔
      if control = edge.1 then edge.2 = true
      else control ∈ state.heldOn id := by
  have known : (take id now keyboardEnabled state edge).1.pads.lookup id =
      some (((state.pads.lookup id).getD {}).button state.owner edge.1 edge.2
        now keyboardEnabled).1 :=
    AList.lookup_insert _
  rw [Ownership.heldOn_of_lookup known, Pad.button_held]
  obtain ⟨other, pressed⟩ := edge
  by_cases same : control = other
  · subst same
    rw [if_pos rfl]
    cases pressed with
    | true => simp
    | false => simp
  · rw [if_neg same]
    exact Pad.mem_touch_other _ same pressed

/-- A control without an edge is held as before. -/
theorem mem_heldOn_takeAll
    {edges : List (Control × Bool)}
    {control : Control}
    (unmoved : control ∉ edges.map Prod.fst)
    (state : Ownership) :
    control ∈ (takeAll id now keyboardEnabled state edges).1.heldOn id ↔
      control ∈ state.heldOn id := by
  induction edges generalizing state with
  | nil => exact Iff.rfl
  | cons edge rest inductionHypothesis =>
      have different : control ≠ edge.1 := by
        rintro rfl
        exact unmoved List.mem_cons_self
      have later : control ∉ rest.map Prod.fst :=
        fun member => unmoved (List.mem_cons_of_mem _ member)
      refine (inductionHypothesis later _).trans ?_
      rw [mem_heldOn_take, if_neg different]

/-- A control of which an event makes an edge is held as the edge says. -/
theorem mem_heldOn_takeAll_of_mem
    {edges : List (Control × Bool)}
    (once : (edges.map Prod.fst).Nodup)
    {control : Control}
    {pressed : Bool}
    (member : (control, pressed) ∈ edges)
    (state : Ownership) :
    control ∈ (takeAll id now keyboardEnabled state edges).1.heldOn id ↔
      pressed = true := by
  induction edges generalizing state with
  | nil => cases member
  | cons edge rest inductionHypothesis =>
      obtain ⟨fresh, others⟩ := List.nodup_cons.mp once
      rcases List.mem_cons.mp member with rfl | later
      · refine (mem_heldOn_takeAll fresh _).trans ?_
        rw [mem_heldOn_take, if_pos rfl]
      · exact inductionHypothesis others later _

/-- What ownership took of one control. -/
def takenOf (control : Control) (taken : List Taken) : List Taken :=
  taken.filter fun edge => decide (edge.control = control)

theorem takenOf_takeAll
    {edges : List (Control × Bool)}
    {control : Control}
    (unmoved : control ∉ edges.map Prod.fst)
    (state : Ownership) :
    takenOf control (takeAll id now keyboardEnabled state edges).2 = [] := by
  induction edges generalizing state with
  | nil => rfl
  | cons edge rest inductionHypothesis =>
      have different : edge.1 ≠ control := by
        rintro rfl
        exact unmoved List.mem_cons_self
      have later : control ∉ rest.map Prod.fst :=
        fun member => unmoved (List.mem_cons_of_mem _ member)
      change List.filter _ (_ :: _) = []
      rw [List.filter_cons_of_neg]
      · exact inductionHypothesis later _
      · rw [decide_eq_true_iff]
        exact different

/-- An edge of a control is the only one of its event, and changes what the
pad held before the event or not. -/
theorem takenOf_takeAll_of_mem
    {edges : List (Control × Bool)}
    (once : (edges.map Prod.fst).Nodup)
    {control : Control}
    {pressed : Bool}
    (member : (control, pressed) ∈ edges)
    (state : Ownership) :
    ∃ before,
      (control ∈ Ownership.heldOn before id ↔ control ∈ state.heldOn id) ∧
      takenOf control (takeAll id now keyboardEnabled state edges).2 =
        [(take id now keyboardEnabled before (control, pressed)).2] := by
  induction edges generalizing state with
  | nil => cases member
  | cons edge rest inductionHypothesis =>
      obtain ⟨fresh, others⟩ := List.nodup_cons.mp once
      rcases List.mem_cons.mp member with rfl | later
      · refine ⟨state, Iff.rfl, ?_⟩
        change List.filter _ (_ :: _) = _
        have alone : List.filter (fun edge => decide (edge.control = control))
            (takeAll id now keyboardEnabled
              (take id now keyboardEnabled state (control, pressed)).1
              rest).2 = [] :=
          takenOf_takeAll fresh _
        rw [List.filter_cons_of_pos, alone]
        exact decide_eq_true rfl
      · have different : control ≠ edge.1 := by
          intro same
          apply fresh
          rw [← same]
          exact List.mem_map.mpr ⟨_, later, rfl⟩
        obtain ⟨before, same, taken⟩ := inductionHypothesis others later
          (take id now keyboardEnabled state edge).1
        refine ⟨before, ?_, ?_⟩
        · rw [same, mem_heldOn_take, if_neg different]
        · rw [← taken]
          change List.filter _ (_ :: _) = _
          rw [List.filter_cons_of_neg]
          · rfl
          · rw [decide_eq_true_iff]
            exact fun equal => different equal.symm

/-- The controls that a pad may report both ways. -/
def twofold : Control → Bool
  | .leftTrigger => true
  | .rightTrigger => true
  | .dpadLeft => true
  | .dpadRight => true
  | .dpadUp => true
  | .dpadDown => true
  | _ => false

/-- Such a control is no part of a chord. -/
theorem chord_of_twofold
    {control : Control}
    (both : twofold control = true)
    (pad : Pad)
    (pressed : Bool) :
    pad.chord control pressed = (pad, none) := by
  have notStart : control ≠ .start := by
    rintro rfl
    cases both
  have notSelect : control ≠ .select := by
    rintro rfl
    cases both
  unfold Pad.chord
  simp [notStart, notSelect]

theorem navigate_signals
    {control : Control}
    {act : Action}
    (acts : action control = some act)
    (pad : Pad)
    (pressed : Bool) :
    (pad.navigate control pressed now).2 =
      if pressed then [.action act] else [] := by
  unfold Pad.navigate
  rw [acts]
  dsimp only
  cases pressed with
  | false =>
      rw [if_pos rfl]
      split <;> rfl
  | true =>
      rw [if_neg Bool.true_eq_false.mp]
      split <;> rfl

/-- Such a control acts at a press that changes something and is heard. -/
theorem button_signals
    {control : Control}
    (both : twofold control = true)
    {act : Action}
    (acts : action control = some act)
    (pad : Pad)
    (owner : Owner)
    (pressed : Bool) :
    (pad.button owner control pressed now keyboardEnabled).2 =
      if pad.changes control pressed && pressed && pad.heard owner then
        [.action act]
      else
        [] := by
  have notGuide : control ≠ .guide := by
    rintro rfl
    cases both
  have notWest : control ≠ .west := by
    rintro rfl
    cases both
  have notEast : control ≠ .east := by
    rintro rfl
    cases both
  have guide : .guide ∈ (pad.touch control pressed).held ↔
      .guide ∈ pad.held := Pad.mem_touch_other _ notGuide.symm pressed
  unfold Pad.button Pad.heard
  dsimp only
  cases changed : pad.changes control pressed with
  | false => rfl
  | true =>
      cases armed : pad.armed with
      | false => simp [armed]
      | true =>
          rw [if_neg (by simp [armed]), if_neg notGuide,
            if_neg (fun chord => notWest chord.2.1)]
          by_cases held : Control.guide ∈ pad.held
          · rw [if_pos (guide.mpr held)]
            simp [held]
          · rw [if_neg (held ∘ guide.mp)]
            have interacts : ∀ surface,
                ((pad.touch control pressed).interact surface control pressed
                  now).2 = if pressed then [.action act] else [] := by
              intro surface
              unfold Pad.interact
              rw [chord_of_twofold both, ite_self]
              exact navigate_signals acts _ _
            cases owner with
            | frontend =>
                rw [if_neg nofun, if_neg (not_not_intro (.inl rfl)), interacts]
                simp [held]
            | overlay =>
                rw [if_neg nofun, if_neg (not_not_intro (.inr rfl)), interacts]
                simp [held]
            | textEntry => simp [notEast]
            | observe => simp
            | desktop => simp
            | keyboard => simp

/-! ## Runs -/

/-- What ownership knows, and what one pad last reported. -/
structure Feed where
  ownership : Ownership := {}
  reported : Reported := {}

/-- A call that neither presses a control of a pad nor removes it. -/
def Foreign (id : PadId) : Ownership.Call → Prop
  | .button other _ _ _ _ => other ≠ id
  | .remove other => other ≠ id
  | _ => True

/-- What happens: an event of the pad is read, or something else is. -/
inductive PadMove (id : PadId)
  | event (event : InputEvent) (now : Nat) (keyboardEnabled : Bool)
  | other (call : Ownership.Call) (foreign : Foreign id call)

namespace Feed

/-- One event of the pad, or one other call. -/
def step
    (ranges : Axis → Option AxisRange)
    (feed : Feed) : PadMove id → Feed × List Taken
  | .event event now keyboardEnabled =>
      let result := takeAll id now keyboardEnabled feed.ownership
        (edges ranges event)
      ({ ownership := result.1, reported := feed.reported.after event },
        result.2)
  | .other call _ =>
      ({ feed with ownership := (feed.ownership.step call).1 }, [])

/-- The life of one pad, from before it is opened. -/
def machine
    (id : PadId)
    (ranges : Axis → Option AxisRange) :
    Machine Feed (PadMove id) Taken where
  start := {}
  step := step ranges

/-- What the pad holds is what its sources assert. -/
def Agrees
    (id : PadId)
    (ranges : Axis → Option AxisRange)
    (feed : Feed) : Prop :=
  ∀ control, control ∈ feed.ownership.heldOn id ↔
    feed.reported.Asserts ranges control

/-- An event releases a control that another source of it asserts. -/
def Cancels
    (ranges : Axis → Option AxisRange)
    (feed : Feed) : PadMove id → Prop
  | .event event _ _ =>
      ∃ control, (control, false) ∈ edges ranges event ∧
        (feed.reported.after event).Asserts ranges control
  | .other _ _ => False

/-- Other calls do not matter to what the pad holds. -/
theorem heldOn_of_foreign
    {call : Ownership.Call}
    (foreign : Foreign id call)
    (state : Ownership) :
    (state.step call).1.heldOn id = state.heldOn id := by
  have viewed : ∀ state : Ownership,
      state.heldOn id = ((state.view id).pad.getD {}).held := fun _ => rfl
  rw [viewed, viewed, Ownership.view_step]
  generalize state.view id = view
  obtain ⟨owner, pad⟩ := view
  cases call with
  | button other control pressed now keyboardEnabled =>
      dsimp only [Ownership.View.step]
      rw [if_neg foreign]
  | tick order now =>
      cases pad with
      | none => rfl
      | some pad => exact Pad.tick_held pad now
  | setOwner next =>
      dsimp only [Ownership.View.step]
      split
      · cases pad <;> rfl
      · rfl
  | suspend => cases pad <;> rfl
  | remove other =>
      dsimp only [Ownership.View.step]
      rw [if_neg foreign]

/-- An event keeps the agreement exactly when it cancels no other source. -/
theorem agrees_step_iff
    (feed : Feed)
    (move : PadMove id)
    (agrees : Agrees id ranges feed) :
    Agrees id ranges (feed.step ranges move).1 ↔
      ¬ Cancels ranges feed move := by
  cases move with
  | other call foreign =>
      constructor
      · exact fun _ impossible => impossible
      · intro _ control
        change control ∈ (feed.ownership.step call).1.heldOn _ ↔ _
        rw [heldOn_of_foreign foreign]
        exact agrees control
  | event event now keyboardEnabled =>
      have once := edges_nodup ranges event
      constructor
      · rintro after ⟨control, released, asserted⟩
        have held := (after control).mpr asserted
        have holds := (mem_heldOn_takeAll_of_mem once released _).mp held
        cases holds
      · intro keeps control
        change control ∈ (takeAll _ _ _ _ _).1.heldOn _ ↔
          (feed.reported.after event).Asserts ranges control
        by_cases moved : control ∈ (edges ranges event).map Prod.fst
        · obtain ⟨⟨_, pressed⟩, member, rfl⟩ := List.mem_map.mp moved
          rw [mem_heldOn_takeAll_of_mem once member]
          cases pressed with
          | true =>
              exact iff_of_true rfl (asserts_of_mem_edges member _)
          | false =>
              apply iff_of_false nofun
              intro asserted
              exact keeps ⟨_, member, asserted⟩
        · rw [mem_heldOn_takeAll moved, asserts_after_iff moved]
          exact agrees control

/-! ## Pulls -/

/-- An edge that changes nothing, and at which nothing acts. -/
def Quiet (control : Control) (edge : Taken) : Prop :=
  edge.changed = false ∧
    (twofold control = true → ∀ act, action control = some act →
      edge.signals = [])

/-- A press that changes something, at which its control acts if it is
heard. -/
def Press (control : Control) (edge : Taken) : Prop :=
  (edge.changed && edge.pressed) = true ∧
    (twofold control = true → ∀ act, action control = some act →
      edge.signals = if edge.heard then [.action act] else [])

/-- What a control that both channels may move says when it is pressed. -/
theorem take_signals
    {control : Control}
    (both : twofold control = true)
    {act : Action}
    (acts : action control = some act)
    (state : Ownership) :
    (take id now keyboardEnabled state (control, true)).2.signals =
      if ((state.pads.lookup id).getD {}).changes control true && true &&
          ((state.pads.lookup id).getD {}).heard state.owner then
        [.action act]
      else
        [] :=
  button_signals both acts _ _ _

/-- A press of a control that is held changes nothing. -/
theorem quiet_of_take
    {state : Ownership}
    {control : Control}
    (held : control ∈ state.heldOn id) :
    Quiet control (take id now keyboardEnabled state (control, true)).2 := by
  have unchanged :
      ((state.pads.lookup id).getD {}).changes control true = false :=
    decide_eq_false (not_not_intro held)
  refine ⟨unchanged, fun both act acts => ?_⟩
  rw [take_signals both acts, unchanged]
  rfl

theorem press_of_take
    {state : Ownership}
    {control : Control}
    (free : control ∉ state.heldOn id) :
    Press control (take id now keyboardEnabled state (control, true)).2 := by
  have changed :
      ((state.pads.lookup id).getD {}).changes control true = true :=
    decide_eq_true free
  refine ⟨Bool.and_eq_true_iff.mpr ⟨changed, rfl⟩, fun both act acts => ?_⟩
  rw [take_signals both acts, changed]
  rfl

/-- What a step takes of a control that is held after it: at most one edge,
which is a press, and which matters if the control was not held. -/
theorem takenOf_step
    {feed : Feed}
    {move : PadMove id}
    {control : Control}
    (held : control ∈ (feed.step ranges move).1.ownership.heldOn id) :
    (control ∈ feed.ownership.heldOn id ∧
        ∀ edge ∈ takenOf control (feed.step ranges move).2,
          Quiet control edge) ∨
      control ∉ feed.ownership.heldOn id ∧
        ∃ press, takenOf control (feed.step ranges move).2 = [press] ∧
          Press control press := by
  cases move with
  | other call foreign =>
      left
      change control ∈ (feed.ownership.step call).1.heldOn _ at held
      rw [heldOn_of_foreign foreign] at held
      exact ⟨held, nofun⟩
  | event event now keyboardEnabled =>
      have once := edges_nodup ranges event
      change control ∈ (takeAll _ _ _ _ _).1.heldOn _ at held
      change (_ ∧ ∀ edge ∈ takenOf control (takeAll id now keyboardEnabled
        feed.ownership (edges ranges event)).2, _) ∨ _ ∧ ∃ press,
          takenOf control (takeAll id now keyboardEnabled feed.ownership
            (edges ranges event)).2 = _ ∧ _
      by_cases moved : control ∈ (edges ranges event).map Prod.fst
      · obtain ⟨⟨driven, pressed⟩, member, rfl⟩ := List.mem_map.mp moved
        have down := (mem_heldOn_takeAll_of_mem once member _).mp held
        subst down
        obtain ⟨before, same, taken⟩ :=
          takenOf_takeAll_of_mem once member feed.ownership
        rw [taken, ← same]
        by_cases was : driven ∈ before.heldOn id
        · left
          refine ⟨was, fun edge listed => ?_⟩
          rw [List.mem_singleton.mp listed]
          exact quiet_of_take was
        · right
          exact ⟨was, _, rfl, press_of_take was⟩
      · left
        rw [takenOf_takeAll moved]
        rw [mem_heldOn_takeAll moved] at held
        exact ⟨held, nofun⟩

/-- While a control stays held, nothing happens to it. -/
theorem quiet_while_held
    {control : Control}
    (pull : List (PadMove id))
    {feed : Feed}
    (held : ∀ first rest, pull = first ++ rest →
      control ∈ ((machine id ranges).runFrom feed first).ownership.heldOn id) :
    ∀ edge ∈ takenOf control ((machine id ranges).outputsFrom feed pull),
      Quiet control edge := by
  induction pull generalizing feed with
  | nil => nofun
  | cons move rest inductionHypothesis =>
      have before := held [] (move :: rest) rfl
      have after := held [move] rest rfl
      have later : ∀ edge ∈ takenOf control
          ((machine id ranges).outputsFrom (feed.step ranges move).1 rest),
          Quiet control edge :=
        inductionHypothesis fun first others split =>
          held (move :: first) others (congrArg _ split)
      intro edge member
      unfold takenOf at member later
      rw [Machine.outputsFrom_cons, List.filter_append] at member
      rcases List.mem_append.mp member with here | there
      · rcases takenOf_step after with ⟨_, quiet⟩ | ⟨free, _⟩
        · exact quiet edge here
        · exact absurd before free
      · exact later edge there

/-- Of a control, one press changed something, and at most it acted. -/
def OnePress (control : Control) (taken : List Taken) : Prop :=
  ∃ press,
    ((takenOf control taken).filter fun edge =>
      edge.changed && edge.pressed) = [press] ∧
    (twofold control = true → ∀ act, action control = some act →
      (takenOf control taken).flatMap Taken.signals =
        if press.heard then [.action act] else [])

theorem onePress_of_quiet
    {control : Control}
    {first later : List Taken}
    {press : Taken}
    (one : takenOf control first = [press])
    (presses : Press control press)
    (quiet : ∀ edge ∈ takenOf control later, Quiet control edge) :
    OnePress control (first ++ later) := by
  have split : takenOf control (first ++ later) =
      press :: takenOf control later := by
    unfold takenOf at one ⊢
    rw [List.filter_append, one]
    rfl
  refine ⟨press, ?_, ?_⟩
  · have none : (takenOf control later).filter
        (fun edge => edge.changed && edge.pressed) = [] := by
      rw [List.filter_eq_nil_iff]
      intro edge member
      rw [(quiet edge member).1]
      exact Bool.false_ne_true
    rw [split, List.filter_cons, if_pos presses.1, none]
  · intro both act acts
    have silent : (takenOf control later).flatMap Taken.signals = [] := by
      rw [List.flatMap_eq_nil_iff]
      intro edge member
      exact (quiet edge member).2 both act acts
    rw [split, List.flatMap_cons, silent, List.append_nil]
    exact presses.2 both act acts

/-- One continuous pull: no source asserts the control before it, and one or
another does all along it. -/
structure Pull
    (ranges : Axis → Option AxisRange)
    (earlier pull : List (PadMove id))
    (control : Control) : Prop where
  released : ¬ ((machine id ranges).run earlier).reported.Asserts ranges
    control
  starts : pull ≠ []
  lasts : ∀ first rest, pull = first ++ rest → first ≠ [] →
    ((machine id ranges).run (earlier ++ first)).reported.Asserts ranges
      control

/-- Where what is held is what is asserted, a pull is one press. -/
theorem onePress_of_pull
    {earlier pull : List (PadMove id)}
    {control : Control}
    (agrees : ∀ first rest, pull = first ++ rest →
      Agrees id ranges ((machine id ranges).run (earlier ++ first)))
    (pulled : Pull ranges earlier pull control) :
    OnePress control ((machine id ranges).outputsFrom
      ((machine id ranges).run earlier) pull) := by
  cases pull with
  | nil => exact absurd rfl pulled.starts
  | cons move rest =>
      have before := agrees [] (move :: rest) rfl
      rw [List.append_nil] at before
      have free := (not_congr (before control)).mpr pulled.released
      have held : ∀ first others, rest = first ++ others →
          control ∈ ((machine id ranges).runFrom
            (((machine id ranges).run earlier).step ranges move).1
              first).ownership.heldOn id := by
        intro first others split
        have asserted := pulled.lasts (move :: first) others
          (congrArg _ split) nofun
        have agreed := agrees (move :: first) others (congrArg _ split)
        rw [← agreed, Machine.run, Machine.runFrom_append] at asserted
        exact asserted
      rw [Machine.outputsFrom_cons]
      rcases takenOf_step (held [] rest rfl) with ⟨was, _⟩ | ⟨_, press, one, is⟩
      · exact absurd was free
      · exact onePress_of_quiet one is (quiet_while_held rest held)

/-- What a pad holds is what its sources assert, and every pull of a control
is one press of it, in exactly the runs in which no event releases a control
that another source asserts. -/
theorem sources_agree_iff
    (id : PadId)
    (ranges : Axis → Option AxisRange)
    (moves : List (PadMove id)) :
    ((∀ earlier later, moves = earlier ++ later →
        Agrees id ranges ((machine id ranges).run earlier)) ∧
      ∀ earlier pull later control, moves = earlier ++ pull ++ later →
        Pull ranges earlier pull control →
          OnePress control ((machine id ranges).outputsFrom
            ((machine id ranges).run earlier) pull)) ↔
      (machine id ranges).Along (fun feed move => ¬ Cancels ranges feed move)
        moves := by
  have always := (machine id ranges).always_iff_along
    (fun feed move => ¬ Cancels ranges feed move) (Agrees id ranges)
    (by
      intro control
      apply iff_of_false (Finset.notMem_empty _)
      rintro (⟨_, down, _⟩ | ⟨_, _, known, _⟩)
      · cases down
      · cases known)
    agrees_step_iff moves
  rw [← always]
  constructor
  · exact And.left
  · intro agrees
    refine ⟨agrees, ?_⟩
    intro earlier pull later control split pulled
    apply onePress_of_pull _ pulled
    intro first rest parts
    apply agrees (earlier ++ first) (rest ++ later)
    rw [split, parts]
    simp only [List.append_assoc]

/-- One trigger, with the range of a byte. -/
def triggerRanges : Axis → Option AxisRange
  | .absZ => some ⟨0, 255⟩
  | _ => none

/-- A trigger is pulled: its axis moves, its key goes down, and its axis moves
on past its centre. -/
def pullMoves : List (PadMove 1) :=
  [.event (.absoluteAxis .absZ 0) 0 false,
    .other (.setOwner .frontend) trivial,
    .other (.tick .stored 1) trivial,
    .event (.absoluteAxis .absZ 60) 2 false,
    .event (.key .btnTl2 1) 3 false,
    .event (.absoluteAxis .absZ 100) 4 false,
    .event (.absoluteAxis .absZ 140) 5 false]

/-- While the key is down, the axis releases the trigger, and one pull acts
twice. -/
theorem one_pull_acts_twice :
    ¬ Agrees 1 triggerRanges
        ((machine 1 triggerRanges).run (pullMoves.take 6)) ∧
      ((machine 1 triggerRanges).outputsFrom {} pullMoves).flatMap
        Taken.signals = [.action .prevTab, .action .prevTab] := by
  constructor
  · intro agrees
    have held := (agrees .leftTrigger).mpr (.inl ⟨.btnTl2, rfl, rfl⟩)
    exact absurd held (by decide)
  · decide

/-! ## The broker -/

theorem takeAll_append
    (state : Ownership)
    (first second : List (Control × Bool)) :
    takeAll id now keyboardEnabled state (first ++ second) =
      ((takeAll id now keyboardEnabled
          (takeAll id now keyboardEnabled state first).1 second).1,
        (takeAll id now keyboardEnabled state first).2 ++
          (takeAll id now keyboardEnabled
            (takeAll id now keyboardEnabled state first).1 second).2) := by
  induction first generalizing state with
  | nil => rfl
  | cons edge rest inductionHypothesis =>
      rw [List.cons_append, takeAll, inductionHypothesis]
      rfl

/-- Several events are taken edge by edge. -/
theorem runFrom_events
    (feed : Feed)
    (events : List InputEvent) :
    ((machine id ranges).runFrom feed
        (events.map (.event · now keyboardEnabled))).ownership =
        (takeAll id now keyboardEnabled feed.ownership
          (events.flatMap (edges ranges))).1 ∧
      (machine id ranges).outputsFrom feed
        (events.map (.event · now keyboardEnabled)) =
        (takeAll id now keyboardEnabled feed.ownership
          (events.flatMap (edges ranges))).2 := by
  induction events generalizing feed with
  | nil => exact ⟨rfl, rfl⟩
  | cons event rest inductionHypothesis =>
      have later := inductionHypothesis
        (feed.step ranges (.event event now keyboardEnabled : PadMove id)).1
      rw [List.flatMap_cons, takeAll_append]
      refine ⟨later.1, ?_⟩
      rw [List.map_cons, Machine.outputsFrom_cons]
      exact congrArg _ later.2

end Feed

namespace Broker

open Effect

variable (outside : Outside)

/-- A method has ownership take edges and returns what it says to them. -/
def Takes
    (id : PadId)
    (now : Nat)
    (keyboardEnabled : Bool)
    (edges : List (Control × Bool))
    (program : Method (List Signal)) : Prop :=
  ∀ broker, Meets program
    (fun signals after =>
      after.state = (takeAll id now keyboardEnabled broker.state edges).1 ∧
        signals = (takeAll id now keyboardEnabled broker.state
          edges).2.flatMap Taken.signals)
    (fun _ _ => True) broker

theorem Takes.append
    {first second : Method (List Signal)}
    {edges later : List (Control × Bool)}
    (takes : Takes id now keyboardEnabled edges first)
    (takesLater : Takes id now keyboardEnabled later second) :
    Takes id now keyboardEnabled (edges ++ later) (do
      let signals ← first
      let others ← second
      pure (signals ++ others)) := by
  intro broker
  rw [meets_bind]
  refine (takes broker).imp ?_ (fun _ _ _ => trivial)
  rintro signals middle ⟨state, rfl⟩
  rw [meets_bind]
  refine (takesLater middle).imp ?_ (fun _ _ _ => trivial)
  rintro others after ⟨state', rfl⟩
  rw [state] at state'
  refine ⟨?_, ?_⟩
  · rw [Feed.takeAll_append, state']
  · rw [Feed.takeAll_append, List.flatMap_append, state]

theorem Takes.bind
    {program : Method (List Signal)}
    {edges : List (Control × Bool)}
    {tail : List Signal → Method (List Signal)}
    (takes : Takes id now keyboardEnabled edges program)
    (returns : ∀ computed, Returns computed (tail computed)) :
    Takes id now keyboardEnabled edges (program >>= tail) := by
  intro broker
  rw [meets_bind]
  refine (takes broker).imp ?_ (fun _ _ _ => trivial)
  rintro computed middle ⟨state, same⟩
  refine (returns computed middle).imp ?_ (fun _ _ _ => trivial)
  rintro result after ⟨idles, rfl⟩
  exact ⟨idles.state.trans state, same⟩

theorem button_takes
    (edge : Control × Bool) :
    Takes id now keyboardEnabled [edge]
      (button id edge.1 edge.2 now keyboardEnabled) := by
  intro broker
  exact ⟨rfl, (List.append_nil _).symm⟩

theorem buttons_takes
    (edges : List (Control × Bool)) :
    Takes id now keyboardEnabled edges
      (buttons id now keyboardEnabled edges) := by
  induction edges with
  | nil => exact fun broker => ⟨rfl, rfl⟩
  | cons edge rest inductionHypothesis =>
      exact (button_takes edge).append inductionHypothesis

/-- An event of a pad is taken edge by edge. -/
theorem pollEvent_takes
    (pad : OpenPad)
    (event : InputEvent) :
    Takes pad.id now keyboardEnabled (edges pad.ranges event)
      (pollEvent outside pad now keyboardEnabled event) := by
  intro broker
  unfold pollEvent
  rw [meets_bind, meets_get]
  cases event with
  | key code value =>
      dsimp only [edges]
      split
      case isTrue edge =>
          refine (buttons_takes _).bind ?_ broker
          intro computed
          have forwarded : Returns computed (do
              forward outside (broker.state.armed pad.id) pad.id fun mapper =>
                mapKey mapper pad.id code value
              Pure.pure computed) :=
            .after (forward_idles outside _ _ _) fun _ => .pure computed
          split
          · exact .after (emitMapped_idles outside _) fun _ => forwarded
          · exact forwarded
      case isFalse repeated => exact ⟨rfl, rfl⟩
  | absoluteAxis code value =>
      refine (buttons_takes _).bind ?_ broker
      intro computed
      exact .after (forward_idles outside _ _ _) fun _ => .pure computed
  | other => exact ⟨rfl, rfl⟩

/-- The events that a poll reads of a pad are moves of its life. -/
theorem pollEvents_runs
    (pad : OpenPad)
    (events : List InputEvent)
    (broker : Broker)
    (reported : Reported) :
    Meets (pollEvents outside pad now keyboardEnabled events)
      (fun signals after =>
        after.state = ((Feed.machine pad.id pad.ranges).runFrom
          ⟨broker.state, reported⟩
            (events.map (.event · now keyboardEnabled))).ownership ∧
        signals = ((Feed.machine pad.id pad.ranges).outputsFrom
          ⟨broker.state, reported⟩
            (events.map (.event · now keyboardEnabled))).flatMap
              Taken.signals)
      (fun _ _ => True) broker := by
  have takes : Takes pad.id now keyboardEnabled
      (events.flatMap (edges pad.ranges))
      (pollEvents outside pad now keyboardEnabled events) := by
    induction events with
    | nil => exact fun broker => ⟨rfl, rfl⟩
    | cons event rest inductionHypothesis =>
        exact (pollEvent_takes outside pad event).append inductionHypothesis
  obtain ⟨state, outputs⟩ := Feed.runFrom_events ⟨broker.state, reported⟩
    events
  rw [state, outputs]
  exact takes broker

/-- What a device shows when it is opened, as events. -/
def shown (device : Device) : List InputEvent :=
  device.keys.map (.key · 1) ++
    device.axes.map (fun axis => .absoluteAxis axis.1 axis.2) ++
    [.key .btnMode (if KeyCode.btnMode ∈ device.keys then 1 else 0)]

theorem flatMap_shown (device : Device) :
    (shown device).flatMap (edges device.ranges) =
      device.keys.filterMap (fun key =>
          (keyControl key).map fun control => (control, true)) ++
        (device.axes.flatMap fun axis =>
          axisControls device.ranges axis.1 axis.2) ++
        [(.guide, decide (KeyCode.btnMode ∈ device.keys))] := by
  unfold shown
  rw [List.flatMap_append, List.flatMap_append, List.flatMap_map,
    List.flatMap_map, List.filterMap_eq_flatMap_toList]
  refine congrArg _ ?_
  by_cases held : KeyCode.btnMode ∈ device.keys
  · rw [if_pos held, decide_eq_true held]
    rfl
  · rw [if_neg held, decide_eq_false held]
    rfl

theorem seed_takes
    (edges : List (Control × Bool))
    (broker : Broker) :
    Meets (seed id edges)
      (fun _ after => after.state = (takeAll id 0 false broker.state edges).1)
      (fun _ _ => True) broker := by
  induction edges generalizing broker with
  | nil => rfl
  | cons edge rest inductionHypothesis =>
      unfold seed
      rw [List.forM_cons, meets_bind]
      exact inductionHypothesis _

/-- Opening a device begins the life of its pad with what the device shows. -/
theorem snapshot_runs
    (device : Device)
    (broker : Broker)
    (reported : Reported) :
    Meets (snapshot outside id device)
      (fun _ after => after.state = ((Feed.machine id device.ranges).runFrom
        ⟨broker.state, reported⟩
          ((shown device).map (.event · 0 false))).ownership)
      (fun _ _ => True) broker := by
  rw [(Feed.runFrom_events ⟨broker.state, reported⟩ (shown device)).1,
    flatMap_shown, Feed.takeAll_append, Feed.takeAll_append]
  unfold snapshot
  rw [meets_bind]
  refine (orError_idles outside broker).imp ?_ (fun _ _ _ => trivial)
  intro _ first idles
  rw [meets_bind]
  refine (orError_idles outside first).imp ?_ (fun _ _ _ => trivial)
  intro _ second idles'
  rw [meets_bind]
  refine (seed_takes _ second).imp ?_ (fun _ _ _ => trivial)
  intro _ third keys
  rw [idles'.state, idles.state] at keys
  rw [meets_bind]
  refine (orError_idles outside third).imp ?_ (fun _ _ _ => trivial)
  intro _ fourth idles''
  rw [meets_bind]
  refine (seed_takes _ fourth).imp ?_ (fun _ _ _ => trivial)
  intro _ fifth axes
  rw [idles''.state, keys] at axes
  refine (seed_takes _ fifth).imp ?_ (fun _ _ _ => trivial)
  intro _ last guide
  rw [axes] at guide
  exact guide

end Broker
end Input
end Hearthdeck
