import Hearthdeck.Input.Ownership

/-!
# One pad of the ownership machine

The branches of `Ownership::button` are listed once, as the constructors of
`ButtonOutcome`; every later argument about a button edge is a case analysis
on them.  The second half projects the machine to one pad: what happens to a
pad depends on its own edges, the clock and the owner, never on another pad.
-/

namespace Hearthdeck
namespace Input

open Foundation Protocol History

namespace Pad

/-- The edge changes the held controls of an armed pad. -/
def Edge (pad : Pad) (control : Control) (pressed : Bool) : Prop :=
  pad.changes control pressed = true ∧ pad.armed = true

@[simp] theorem touch_armed
    (pad : Pad)
    (control : Control)
    (pressed : Bool) :
    (pad.touch control pressed).armed = pad.armed := rfl

@[simp] theorem touch_guideUsed
    (pad : Pad)
    (control : Control)
    (pressed : Bool) :
    (pad.touch control pressed).guideUsed = pad.guideUsed := rfl

@[simp] theorem touch_selectUsed
    (pad : Pad)
    (control : Control)
    (pressed : Bool) :
    (pad.touch control pressed).selectUsed = pad.selectUsed := rfl

@[simp] theorem touch_startUsed
    (pad : Pad)
    (control : Control)
    (pressed : Bool) :
    (pad.touch control pressed).startUsed = pad.startUsed := rfl

@[simp] theorem touch_repeating
    (pad : Pad)
    (control : Control)
    (pressed : Bool) :
    (pad.touch control pressed).repeating = pad.repeating := rfl

@[simp] theorem mem_touch_pressed
    (pad : Pad)
    (control other : Control) :
    other ∈ (pad.touch control true).held ↔
      other = control ∨ other ∈ pad.held := by
  simp [touch]

@[simp] theorem mem_touch_released
    (pad : Pad)
    (control other : Control) :
    other ∈ (pad.touch control false).held ↔
      other ≠ control ∧ other ∈ pad.held := by
  simp [touch]

/-- An edge of one control does not touch another. -/
theorem mem_touch_other
    (pad : Pad)
    {control other : Control}
    (different : other ≠ control)
    (pressed : Bool) :
    other ∈ (pad.touch control pressed).held ↔ other ∈ pad.held := by
  cases pressed <;> simp [different]

@[simp] theorem changes_pressed
    (pad : Pad)
    (control : Control) :
    pad.changes control true = true ↔ control ∉ pad.held := by
  simp [changes]

@[simp] theorem changes_released
    (pad : Pad)
    (control : Control) :
    pad.changes control false = true ↔ control ∈ pad.held := by
  simp [changes]

/-- Everything a button edge can do to its pad and every signal it can
return. -/
inductive ButtonOutcome
    (pad : Pad)
    (owner : Owner)
    (control : Control)
    (pressed : Bool)
    (now : Nat)
    (keyboardEnabled : Bool) : Pad × List Signal → Prop
  | ignored :
      ¬pad.Edge control pressed →
      ButtonOutcome pad owner control pressed now keyboardEnabled
        (pad.touch control pressed, [])
  | guidePressed :
      pad.Edge control pressed →
      control = .guide →
      pressed = true →
      ButtonOutcome pad owner control pressed now keyboardEnabled
        ({ pad.touch control pressed with
            guideUsed := false, repeating := none }, [])
  | guideReleased :
      pad.Edge control pressed →
      control = .guide →
      pressed = false →
      ButtonOutcome pad owner control pressed now keyboardEnabled
        (pad.touch control pressed,
          if pad.guideUsed then [] else [.action .toggleOverlay])
  | keyboardOpened :
      pad.Edge control pressed →
      control = .west →
      pressed = true →
      .guide ∈ pad.held →
      pad.guideUsed = false →
      keyboardEnabled = true →
      (owner = .observe ∨ owner = .desktop) →
      ButtonOutcome pad owner control pressed now keyboardEnabled
        ({ pad.touch control pressed with guideUsed := true }, [.keyboard])
  | swallowed :
      pad.Edge control pressed →
      control ≠ .guide →
      .guide ∈ pad.held →
      ButtonOutcome pad owner control pressed now keyboardEnabled
        (pad.touch control pressed, [])
  | textBack :
      pad.Edge control pressed →
      .guide ∉ pad.held →
      owner = .textEntry →
      control = .east →
      pressed = true →
      ButtonOutcome pad owner control pressed now keyboardEnabled
        (pad.touch control pressed, [.action .back])
  | notInteractive :
      pad.Edge control pressed →
      control ≠ .guide →
      .guide ∉ pad.held →
      owner ≠ .frontend →
      owner ≠ .overlay →
      ButtonOutcome pad owner control pressed now keyboardEnabled
        (pad.touch control pressed, [])
  | chordCompleted :
      pad.Edge control pressed →
      .guide ∉ pad.held →
      owner = .frontend →
      pressed = true →
      (control = .start ∧ .select ∈ pad.held ∧ pad.selectUsed = false ∨
        control = .select ∧ .start ∈ pad.held ∧ pad.startUsed = false) →
      ButtonOutcome pad owner control pressed now keyboardEnabled
        ({ pad.touch control pressed with
            startUsed := true, selectUsed := true }, [.action .keyboard])
  | selectReleased :
      pad.Edge control pressed →
      .guide ∉ pad.held →
      owner = .frontend →
      control = .select →
      pressed = false →
      pad.selectUsed = false →
      ButtonOutcome pad owner control pressed now keyboardEnabled
        (pad.touch control pressed, [.action .filterPanel])
  | startPressed :
      pad.Edge control pressed →
      .guide ∉ pad.held →
      owner = .frontend →
      control = .start →
      pressed = true →
      ButtonOutcome pad owner control pressed now keyboardEnabled
        ({ pad.touch control pressed with startUsed := false }, [])
  | selectPressed :
      pad.Edge control pressed →
      .guide ∉ pad.held →
      owner = .frontend →
      control = .select →
      pressed = true →
      ButtonOutcome pad owner control pressed now keyboardEnabled
        ({ pad.touch control pressed with selectUsed := false }, [])
  | unmapped :
      pad.Edge control pressed →
      control ≠ .guide →
      .guide ∉ pad.held →
      (owner = .frontend ∨ owner = .overlay) →
      action control = none →
      ¬(owner = .frontend ∧ pressed = true ∧
        (control = .start ∨ control = .select)) →
      ButtonOutcome pad owner control pressed now keyboardEnabled
        (pad.touch control pressed, [])
  | moveReleased (released : Action) :
      pad.Edge control pressed →
      .guide ∉ pad.held →
      (owner = .frontend ∨ owner = .overlay) →
      action control = some released →
      pressed = false →
      ButtonOutcome pad owner control pressed now keyboardEnabled
        ({ pad.touch control pressed with
            repeating :=
              if pad.repeating.any fun active => active.1 == released then
                none
              else
                pad.repeating }, [])
  | acted (taken : Action) :
      pad.Edge control pressed →
      .guide ∉ pad.held →
      (owner = .frontend ∨ owner = .overlay) →
      action control = some taken →
      pressed = true →
      ButtonOutcome pad owner control pressed now keyboardEnabled
        ({ pad.touch control pressed with
            repeating :=
              if isMove taken then some (taken, now + 400)
              else pad.repeating }, [.action taken])

/-- Navigation, once the frontend's chords have let the edge through. -/
theorem navigate_outcome
    {pad : Pad}
    {owner : Owner}
    {control : Control}
    {pressed : Bool}
    (now : Nat)
    (keyboardEnabled : Bool)
    (edge : pad.Edge control pressed)
    (notGuide : control ≠ .guide)
    (noGuide : .guide ∉ pad.held)
    (interactive : owner = .frontend ∨ owner = .overlay)
    (passed : ¬(owner = .frontend ∧ pressed = true ∧
      (control = .start ∨ control = .select))) :
    ButtonOutcome pad owner control pressed now keyboardEnabled
      ((pad.touch control pressed).navigate control pressed now) := by
  unfold navigate
  cases mapped : action control with
  | none =>
      exact .unmapped edge notGuide noGuide interactive mapped passed
  | some taken =>
      cases pressed with
      | false =>
          have outcome : ButtonOutcome pad owner control false now
              keyboardEnabled _ :=
            .moveReleased taken edge noGuide interactive mapped rfl
          change ButtonOutcome pad owner control false now keyboardEnabled
            (if pad.repeating.any fun active => active.1 == taken then _
              else _)
          by_cases active :
              (pad.repeating.any fun active => active.1 == taken) = true
          · rw [if_pos active] at outcome ⊢
            exact outcome
          · rw [if_neg active] at outcome ⊢
            exact outcome
      | true =>
          have outcome : ButtonOutcome pad owner control true now
              keyboardEnabled _ :=
            .acted taken edge noGuide interactive mapped rfl
          simp only [Bool.true_eq_false, if_false]
          cases moves : isMove taken with
          | true =>
              rw [moves] at outcome
              exact outcome
          | false =>
              rw [moves] at outcome
              exact outcome

/-- The frontend's chords, followed by navigation. -/
theorem chord_outcome
    {pad : Pad}
    {control : Control}
    {pressed : Bool}
    (now : Nat)
    (keyboardEnabled : Bool)
    (edge : pad.Edge control pressed)
    (notGuide : control ≠ .guide)
    (noGuide : .guide ∉ pad.held) :
    ButtonOutcome pad .frontend control pressed now keyboardEnabled
      ((pad.touch control pressed).interact .frontend control pressed
        now) := by
  have startSilent : action .start = none := rfl
  have selectSilent : action .select = none := rfl
  by_cases isStart : control = .start
  · subst isStart
    cases pressed with
    | true =>
        by_cases both : .select ∈ pad.held ∧ pad.selectUsed = false
        · have outcome : ButtonOutcome pad .frontend .start true now
              keyboardEnabled _ :=
            .chordCompleted edge noGuide rfl rfl (Or.inl ⟨rfl, both⟩)
          simpa [interact, chord, both.1, both.2] using outcome
        · have outcome : ButtonOutcome pad .frontend .start true now
              keyboardEnabled _ :=
            .startPressed edge noGuide rfl rfl rfl
          simpa [interact, chord, both, navigate, startSilent] using outcome
    | false =>
        have outcome : ButtonOutcome pad .frontend .start false now
            keyboardEnabled _ :=
          .unmapped edge notGuide noGuide (Or.inl rfl) startSilent (by simp)
        simpa [interact, chord, navigate, startSilent] using outcome
  · by_cases isSelect : control = .select
    · subst isSelect
      cases pressed with
      | true =>
          by_cases both : .start ∈ pad.held ∧ pad.startUsed = false
          · have outcome : ButtonOutcome pad .frontend .select true now
                keyboardEnabled _ :=
              .chordCompleted edge noGuide rfl rfl (Or.inr ⟨rfl, both⟩)
            simpa [interact, chord, both.1, both.2] using outcome
          · have outcome : ButtonOutcome pad .frontend .select true now
                keyboardEnabled _ :=
              .selectPressed edge noGuide rfl rfl rfl
            simpa [interact, chord, both, navigate, selectSilent] using outcome
      | false =>
          by_cases fresh : pad.selectUsed = false
          · have outcome : ButtonOutcome pad .frontend .select false now
                keyboardEnabled _ :=
              .selectReleased edge noGuide rfl rfl rfl fresh
            simpa [interact, chord, fresh] using outcome
          · have outcome : ButtonOutcome pad .frontend .select false now
                keyboardEnabled _ :=
              .unmapped edge notGuide noGuide (Or.inl rfl) selectSilent
                (by simp)
            simpa [interact, chord, fresh, navigate, selectSilent] using outcome
    · have outcome := navigate_outcome now keyboardEnabled edge notGuide
        noGuide (Or.inl rfl : Owner.frontend = .frontend ∨ _)
        (by simp [isStart, isSelect])
      simpa [interact, chord, isStart, isSelect] using outcome

/-- A button edge does one of the listed things. -/
theorem button_outcome
    (pad : Pad)
    (owner : Owner)
    (control : Control)
    (pressed : Bool)
    (now : Nat)
    (keyboardEnabled : Bool) :
    ButtonOutcome pad owner control pressed now keyboardEnabled
      (pad.button owner control pressed now keyboardEnabled) := by
  unfold button
  by_cases edge : pad.Edge control pressed
  · have changed := edge.1
    have armed := edge.2
    rw [if_neg (by simp [changed, armed])]
    by_cases isGuide : control = .guide
    · rw [if_pos isGuide]
      cases pressed with
      | true => exact .guidePressed edge isGuide rfl
      | false =>
          have outcome : ButtonOutcome pad owner control false now
              keyboardEnabled _ :=
            .guideReleased edge isGuide rfl
          cases used : pad.guideUsed <;> simpa [used] using outcome
    · rw [if_neg isGuide]
      have guideKept := pad.mem_touch_other (Ne.symm isGuide) pressed
      by_cases guideHeld : .guide ∈ pad.held
      · by_cases west : pressed = true ∧ control = .west
        · rw [if_pos ⟨west.1, west.2, guideKept.mpr guideHeld⟩]
          split
          · rename_i opens
            exact .keyboardOpened edge west.2 west.1 guideHeld opens.1
              opens.2.1 opens.2.2
          · exact .swallowed edge isGuide guideHeld
        · rw [if_neg (fun both => west ⟨both.1, both.2.1⟩),
            if_pos (guideKept.mpr guideHeld)]
          exact .swallowed edge isGuide guideHeld
      · rw [if_neg (fun both => guideHeld (guideKept.mp both.2.2)),
          if_neg (fun held => guideHeld (guideKept.mp held))]
        by_cases text : owner = .textEntry
        · subst text
          rw [if_pos rfl]
          split
          · rename_i back
            exact .textBack edge guideHeld rfl back.1 back.2
          · exact .notInteractive edge isGuide guideHeld (by simp) (by simp)
        · rw [if_neg text]
          by_cases front : owner = .frontend
          · subst front
            simpa using chord_outcome now keyboardEnabled edge isGuide guideHeld
          · by_cases overlaid : owner = .overlay
            · subst overlaid
              simpa [interact] using navigate_outcome now keyboardEnabled edge
                isGuide guideHeld
                (Or.inr rfl : Owner.overlay = .frontend ∨ _) (by simp)
            · rw [if_pos (by simp [front, overlaid])]
              exact .notInteractive edge isGuide guideHeld front overlaid
  · rw [if_pos]
    · exact .ignored edge
    · by_contra both
      apply edge
      simpa [Edge, not_or] using both

/-! ## What one call does to one pad -/

@[simp] theorem suspend_armed (pad : Pad) : pad.suspend.armed = false := rfl

@[simp] theorem suspend_held (pad : Pad) : pad.suspend.held = pad.held := rfl

@[simp] theorem suspend_repeating (pad : Pad) :
    pad.suspend.repeating = none := rfl

/-- A button edge never arms or disarms its pad. -/
theorem button_armed
    (pad : Pad)
    (owner : Owner)
    (control : Control)
    (pressed : Bool)
    (now : Nat)
    (keyboardEnabled : Bool) :
    (pad.button owner control pressed now keyboardEnabled).1.armed =
      pad.armed := by
  have outcome :=
    pad.button_outcome owner control pressed now keyboardEnabled
  generalize pad.button owner control pressed now keyboardEnabled = result
    at outcome ⊢
  cases outcome <;> rfl

/-- A button edge records itself among the held controls, whatever else it
does. -/
theorem button_held
    (pad : Pad)
    (owner : Owner)
    (control : Control)
    (pressed : Bool)
    (now : Nat)
    (keyboardEnabled : Bool) :
    (pad.button owner control pressed now keyboardEnabled).1.held =
      (pad.touch control pressed).held := by
  have outcome :=
    pad.button_outcome owner control pressed now keyboardEnabled
  generalize pad.button owner control pressed now keyboardEnabled = result
    at outcome ⊢
  cases outcome <;> rfl

/-- Only an edge on an armed pad returns a signal. -/
theorem edge_of_mem_button
    {pad : Pad}
    {owner : Owner}
    {control : Control}
    {pressed : Bool}
    {now : Nat}
    {keyboardEnabled : Bool}
    {signal : Signal}
    (returned : signal ∈
      (pad.button owner control pressed now keyboardEnabled).2) :
    pad.Edge control pressed := by
  by_contra noEdge
  unfold button at returned
  rw [if_pos] at returned
  · cases returned
  · by_contra both
    apply noEdge
    simpa [Edge, not_or] using both

theorem arm_armed (pad : Pad) :
    pad.arm.armed = true ↔ pad.armed = true ∨ pad.held = ∅ := by
  unfold arm
  cases armed : pad.armed <;> by_cases neutral : pad.held = ∅ <;>
    simp [armed, neutral]

@[simp] theorem arm_held (pad : Pad) : pad.arm.held = pad.held := by
  unfold arm
  split <;> rfl

@[simp] theorem arm_repeating (pad : Pad) :
    pad.arm.repeating = pad.repeating := by
  unfold arm
  split <;> rfl

@[simp] theorem arm_guideUsed (pad : Pad) :
    pad.arm.guideUsed = pad.guideUsed := by
  unfold arm
  split <;> rfl

@[simp] theorem arm_selectUsed (pad : Pad) :
    pad.arm.selectUsed = pad.selectUsed := by
  unfold arm
  split <;> rfl

@[simp] theorem arm_startUsed (pad : Pad) :
    pad.arm.startUsed = pad.startUsed := by
  unfold arm
  split <;> rfl

/-- Emitting a repeat only moves the time of the next one. -/
theorem emitRepeat_eq
    (pad : Pad)
    (now : Nat) :
    ∃ repeating, (pad.emitRepeat now).1 = { pad with repeating := repeating } ∧
      repeating.map Prod.fst = pad.repeating.map Prod.fst := by
  unfold emitRepeat
  cases repeats : pad.repeating with
  | none => exact ⟨pad.repeating, rfl, by rw [repeats]⟩
  | some active =>
      by_cases due : pad.armed ∧ active.2 ≤ now
      · simp only [due, and_self, if_true]
        exact ⟨_, rfl, rfl⟩
      · simp only [due, if_false]
        exact ⟨pad.repeating, rfl, by rw [repeats]⟩

/-- A tick arms a neutral pad, may move the time of the next repeat, and
touches nothing else. -/
theorem tick_eq
    (pad : Pad)
    (now : Nat) :
    ∃ repeating,
      (pad.tick now).1 = { pad.arm with repeating := repeating } ∧
        repeating.map Prod.fst = pad.repeating.map Prod.fst := by
  obtain ⟨repeating, updated, same⟩ := pad.arm.emitRepeat_eq now
  rw [arm_repeating] at same
  exact ⟨repeating, updated, same⟩

@[simp] theorem tick_held
    (pad : Pad)
    (now : Nat) :
    (pad.tick now).1.held = pad.held := by
  obtain ⟨repeating, updated, _⟩ := pad.tick_eq now
  rw [updated]
  exact pad.arm_held

theorem tick_armed
    (pad : Pad)
    (now : Nat) :
    (pad.tick now).1.armed = true ↔ pad.armed = true ∨ pad.held = ∅ := by
  obtain ⟨repeating, updated, _⟩ := pad.tick_eq now
  rw [updated]
  exact pad.arm_armed

/-- What a tick emits for a pad is the pad's repeating action, once it is
due. -/
theorem mem_tick_iff
    (pad : Pad)
    (now : Nat)
    (signal : Signal) :
    signal ∈ (pad.tick now).2 ↔
      ∃ repeated due, pad.repeating = some (repeated, due) ∧
        (pad.armed = true ∨ pad.held = ∅) ∧ due ≤ now ∧
        signal = .action repeated := by
  rw [← pad.arm_armed]
  unfold tick emitRepeat
  rw [arm_repeating]
  cases repeats : pad.repeating with
  | none => simp
  | some active =>
      by_cases due : pad.arm.armed ∧ active.2 ≤ now
      · simp only [due, and_self, if_true, List.mem_singleton]
        constructor
        · rintro rfl
          exact ⟨active.1, active.2, rfl, trivial, due.2, rfl⟩
        · rintro ⟨repeated, at', same, _, _, rfl⟩
          cases same
          rfl
      · simp only [due, if_false, List.not_mem_nil, false_iff]
        rintro ⟨repeated, at', same, armed, early, _⟩
        cases same
        exact due ⟨armed, early⟩

end Pad

namespace Ownership

/-- The owner and one pad, all that the pad's signals depend on. -/
structure View where
  /-- Who receives input. -/
  owner : Owner := .observe
  /-- The pad, once it had an event. -/
  pad : Option Pad := none

/-- What a state shows of one pad. -/
def view (state : Ownership) (id : PadId) : View where
  owner := state.owner
  pad := state.pads.lookup id

/-- The effect of a call on the view of one pad, and the signals stemming
from that pad. -/
def View.step (id : PadId) (view : View) : Call → View × List Signal
  | .button other control pressed now keyboardEnabled =>
      if other = id then
        let result := (view.pad.getD {}).button view.owner control pressed
          now keyboardEnabled
        ({ view with pad := some result.1 }, result.2)
      else
        (view, [])
  | .tick _ now =>
      match view.pad with
      | none => (view, [])
      | some pad =>
          ({ view with pad := some (pad.tick now).1 }, (pad.tick now).2)
  | .setOwner owner =>
      if view.owner ≠ owner then
        ({ owner := owner, pad := view.pad.map Pad.suspend }, [])
      else
        (view, [])
  | .suspend => ({ view with pad := view.pad.map Pad.suspend }, [])
  | .remove other =>
      if other = id then ({ view with pad := none }, []) else (view, [])

/-- One pad as a machine of its own. -/
def padMachine (id : PadId) : Machine View Call Signal where
  start := {}
  step := View.step id

/-- Signals of a call that stem from one pad: those returned for its own
edges, and its repeats. -/
def stemming
    (id : PadId)
    (state : Ownership) :
    Call → List Signal
  | .button other control pressed now keyboardEnabled =>
      if other = id then
        (state.button other control pressed now keyboardEnabled).2
      else
        []
  | .tick _ now =>
      match state.pads.lookup id with
      | none => []
      | some pad => (pad.tick now).2
  | _ => []

/-- The view of one pad moves on its own. -/
theorem view_step
    (id : PadId)
    (state : Ownership)
    (call : Call) :
    (state.step call).1.view id = ((state.view id).step id call).1 := by
  cases call with
  | button other control pressed now keyboardEnabled =>
      by_cases same : other = id
      · subst same
        simp [step, button, view, View.step]
      · simp [step, button, view, View.step, same, Ne.symm same]
  | tick order now =>
      cases found : state.pads.lookup id with
      | none => simp [step, tick, view, View.step, found]
      | some pad => simp [step, tick, view, View.step, found]
  | setOwner owner =>
      by_cases same : state.owner = owner
      · simp [step, setOwner, view, View.step, same]
      · simp [step, setOwner, suspend, view, View.step, same]
  | suspend => simp [step, suspend, view, View.step]
  | remove other =>
      by_cases same : other = id
      · subst same
        simp [step, remove, view, View.step]
      · simp [step, remove, view, View.step, same, Ne.symm same]

/-- The signals stemming from a pad are those its own machine emits. -/
theorem stemming_eq
    (id : PadId)
    (state : Ownership)
    (call : Call) :
    stemming id state call = ((state.view id).step id call).2 := by
  cases call with
  | button other control pressed now keyboardEnabled =>
      by_cases same : other = id
      · subst same
        simp [stemming, button, view, View.step]
      · simp [stemming, View.step, same]
  | tick order now =>
      cases found : state.pads.lookup id with
      | none => simp [stemming, view, View.step, found]
      | some pad => simp [stemming, view, View.step, found]
  | setOwner owner =>
      by_cases same : state.owner = owner <;>
        simp [stemming, view, View.step, same]
  | suspend => rfl
  | remove other =>
      by_cases same : other = id <;> simp [stemming, View.step, same]

/-- A signal stems from a pad at an edge of the pad or at a tick. -/
theorem mem_stemming_cases
    {id : PadId}
    {state : Ownership}
    {call : Call}
    {signal : Signal}
    (stems : signal ∈ stemming id state call) :
    (∃ control pressed now keyboardEnabled,
      call = .button id control pressed now keyboardEnabled ∧
        signal ∈ (((state.pads.lookup id).getD {}).button state.owner control
          pressed now keyboardEnabled).2) ∨
    (∃ order now pad, call = .tick order now ∧
      state.pads.lookup id = some pad ∧ signal ∈ (pad.tick now).2) := by
  cases call with
  | button other control pressed now keyboardEnabled =>
      by_cases same : other = id
      · subst same
        simp only [stemming, if_true, button] at stems
        exact Or.inl ⟨control, pressed, now, keyboardEnabled, rfl, stems⟩
      · simp [stemming, same] at stems
  | tick order now =>
      cases known : state.pads.lookup id with
      | none => simp [stemming, known] at stems
      | some pad =>
          simp only [stemming, known] at stems
          exact Or.inr ⟨order, now, pad, rfl, rfl, stems⟩
  | setOwner owner => simp [stemming] at stems
  | suspend => simp [stemming] at stems
  | remove other => simp [stemming] at stems

theorem after_concat
    (calls : List Call)
    (call : Call) :
    after (calls ++ [call]) = ((after calls).step call).1 :=
  machine.run_concat calls call

/-- The call leaves a pad as it is: it concerns another pad, or hands the
controllers to the owner they already have. -/
def PassesBy (id : PadId) (state : Ownership) : Call → Prop
  | .button other _ _ _ _ => other ≠ id
  | .tick _ _ => False
  | .setOwner owner => state.owner = owner
  | .suspend => False
  | .remove other => other ≠ id

/-- Everything that leads to a pad being known after a call. -/
inductive PadStep (id : PadId) (state : Ownership) : Call → Pad → Prop
  | edge (control pressed now keyboardEnabled) :
      PadStep id state (.button id control pressed now keyboardEnabled)
        (((state.pads.lookup id).getD {}).button state.owner control pressed
          now keyboardEnabled).1
  | tick (order now pad) :
      state.pads.lookup id = some pad →
      PadStep id state (.tick order now) (pad.tick now).1
  | taken (owner pad) :
      state.pads.lookup id = some pad →
      state.owner ≠ owner →
      PadStep id state (.setOwner owner) pad.suspend
  | suspended (pad) :
      state.pads.lookup id = some pad →
      PadStep id state .suspend pad.suspend
  | kept (call pad) :
      state.pads.lookup id = some pad →
      PassesBy id state call →
      PadStep id state call pad

/-- A pad that is known after a call got there in one of the listed ways. -/
theorem padStep_of_lookup
    {id : PadId}
    {state : Ownership}
    {call : Call}
    {pad : Pad}
    (found : (state.step call).1.pads.lookup id = some pad) :
    PadStep id state call pad := by
  have seen : ((state.step call).1.view id).pad = some pad := found
  rw [view_step] at seen
  cases call with
  | button other control pressed now keyboardEnabled =>
      by_cases same : other = id
      · subst same
        simp only [View.step, if_true, Option.some.injEq] at seen
        subst seen
        exact .edge control pressed now keyboardEnabled
      · simp only [View.step, same, if_false] at seen
        exact .kept _ pad seen same
  | tick order now =>
      cases known : state.pads.lookup id with
      | none => simp [View.step, view, known] at seen
      | some old =>
          simp only [View.step, view, known, Option.some.injEq] at seen
          subst seen
          exact .tick order now old known
  | setOwner owner =>
      by_cases same : state.owner = owner
      · simp only [View.step, view, same, ne_eq, not_true_eq_false,
          if_false] at seen
        exact .kept _ pad seen same
      · simp only [View.step, view, same, ne_eq, not_false_eq_true, if_true,
          Option.map_eq_some_iff] at seen
        obtain ⟨old, known, rfl⟩ := seen
        exact .taken owner old known same
  | suspend =>
      simp only [View.step, view, Option.map_eq_some_iff] at seen
      obtain ⟨old, known, rfl⟩ := seen
      exact .suspended old known
  | remove other =>
      by_cases same : other = id
      · simp [View.step, same] at seen
      · simp only [View.step, same, if_false] at seen
        exact .kept _ pad seen same

/-- Only a hand-over to another owner changes the owner. -/
theorem owner_step
    (state : Ownership)
    (call : Call) :
    (state.step call).1.owner = state.owner ∨
      ∃ owner, call = .setOwner owner ∧ state.owner ≠ owner := by
  cases call with
  | setOwner owner =>
      by_cases same : state.owner = owner
      · exact Or.inl (by simp [step, setOwner, same])
      · exact Or.inr ⟨owner, rfl, same⟩
  | button _ _ _ _ _ => exact Or.inl rfl
  | tick _ _ => exact Or.inl rfl
  | suspend => exact Or.inl rfl
  | remove _ => exact Or.inl rfl

/-- The invariant rule for pads: what a fresh pad satisfies under any owner
and what edges, ticks and suspension keep, every pad satisfies after every
run. -/
theorem pad_invariant
    (invariant : Owner → Pad → Prop)
    (fresh : ∀ owner, invariant owner {})
    (pressed : ∀ owner pad control pressed now keyboardEnabled,
      invariant owner pad →
        invariant owner
          (pad.button owner control pressed now keyboardEnabled).1)
    (ticked : ∀ owner pad now,
      invariant owner pad → invariant owner (pad.tick now).1)
    (suspended : ∀ owner next pad,
      invariant owner pad → invariant next pad.suspend)
    (calls : List Call)
    {id : PadId}
    {pad : Pad}
    (found : (after calls).pads.lookup id = some pad) :
    invariant (after calls).owner pad := by
  have holds := machine.run_induction
    (fun state => ∀ pad, state.pads.lookup id = some pad →
      invariant state.owner pad) ?_ ?_ calls
  · exact holds pad found
  · intro pad known
    cases known
  · intro state call inductionHypothesis pad known
    have padStep := padStep_of_lookup known
    cases padStep with
    | edge control isPressed now keyboardEnabled =>
        apply pressed
        cases old : state.pads.lookup id with
        | none => exact fresh _
        | some pad => exact inductionHypothesis pad old
    | tick order now old before =>
        exact ticked _ _ _ (inductionHypothesis old before)
    | taken owner old before changed =>
        exact suspended _ _ _ (inductionHypothesis old before)
    | suspended old before =>
        exact suspended _ _ _ (inductionHypothesis old before)
    | kept call pad before passes =>
        rcases owner_step state call with same | ⟨owner, rfl, changed⟩
        · exact same.symm ▸ inductionHypothesis pad before
        · exact absurd passes changed

/-! ## Held controls over a history -/

/-- The controls a state knows to be held on a pad. -/
def heldOn (state : Ownership) (id : PadId) : Finset Control :=
  ((state.pads.lookup id).getD {}).held

/-- The call presses a control of the pad that was not held. -/
def PressEdge
    (id : PadId)
    (control : Control)
    (before : List Call)
    (call : Call) : Prop :=
  ∃ now keyboardEnabled,
    call = .button id control true now keyboardEnabled ∧
      control ∉ (after before).heldOn id

/-- The call leaves the control held on the pad. -/
def StaysHeld
    (id : PadId)
    (control : Control)
    (before : List Call)
    (call : Call) : Prop :=
  control ∈ (after (before ++ [call])).heldOn id

/-- The controls held on a known pad. -/
theorem heldOn_of_lookup
    {id : PadId}
    {state : Ownership}
    {pad : Pad}
    (known : state.pads.lookup id = some pad) :
    state.heldOn id = pad.held := by
  rw [heldOn, known]
  rfl

/-- A pad with something held is known. -/
theorem lookup_of_mem_heldOn
    {id : PadId}
    {state : Ownership}
    {control : Control}
    (held : control ∈ state.heldOn id) :
    ∃ pad, state.pads.lookup id = some pad ∧ control ∈ pad.held := by
  unfold heldOn at held
  cases known : state.pads.lookup id with
  | none =>
      rw [known] at held
      cases held
  | some pad =>
      rw [known] at held
      exact ⟨pad, rfl, held⟩

/-- A control comes to be held by a press edge only. -/
theorem pressEdge_of_held
    {id : PadId}
    {control : Control}
    {calls : List Call}
    {call : Call}
    (before : control ∉ (after calls).heldOn id)
    (held : StaysHeld id control calls call) :
    PressEdge id control calls call := by
  obtain ⟨pad, found, member⟩ := lookup_of_mem_heldOn held
  rw [after_concat] at found
  cases padStep_of_lookup found with
  | edge other pressed now keyboardEnabled =>
      rw [Pad.button_held] at member
      have absent : control ∉
          (((after calls).pads.lookup id).getD {}).held := before
      cases pressed with
      | true =>
          obtain rfl : control = other := by simpa [absent] using member
          exact ⟨now, keyboardEnabled, rfl, before⟩
      | false => simp [absent] at member
  | tick order now old known =>
      rw [Pad.tick_held] at member
      exact absurd member (heldOn_of_lookup known ▸ before)
  | taken owner old known changed =>
      exact absurd member (heldOn_of_lookup known ▸ before)
  | suspended old known =>
      exact absurd member (heldOn_of_lookup known ▸ before)
  | kept call old known passes =>
      exact absurd member (heldOn_of_lookup known ▸ before)

/-- A control is held because it was pressed and was held ever since. -/
theorem since_press_of_held
    (id : PadId)
    (control : Control)
    (calls : List Call)
    (held : control ∈ (after calls).heldOn id) :
    Since (PressEdge id control) (StaysHeld id control) calls := by
  refine since_of_flag (fun calls => control ∈ (after calls).heldOn id) ?_ ?_
    calls held
  · intro initially
    cases initially
  · intro history call stays
    by_cases before : control ∈ (after history).heldOn id
    · exact Or.inr ⟨before, stays⟩
    · exact Or.inl (pressEdge_of_held before stays)

/-- A press edge leaves its control held. -/
theorem PressEdge.staysHeld
    {id : PadId}
    {control : Control}
    {calls : List Call}
    {call : Call}
    (press : PressEdge id control calls call) :
    StaysHeld id control calls call := by
  obtain ⟨now, keyboardEnabled, rfl, _⟩ := press
  rw [StaysHeld, after_concat]
  simp [step, button, heldOn, Pad.button_held]

/-- A call that passes a pad by makes nothing stem from it. -/
theorem stemming_of_passesBy
    {id : PadId}
    {state : Ownership}
    {call : Call}
    (passes : PassesBy id state call) :
    stemming id state call = [] := by
  cases call with
  | button other control pressed now keyboardEnabled =>
      exact if_neg passes
  | tick order now => cases passes
  | setOwner owner => rfl
  | suspend => rfl
  | remove other => rfl

end Ownership
end Input
end Hearthdeck
