import Hearthdeck.Input.OnePad

/-!
# No ghost repeat

A pad repeats a navigation action only while it is armed, owned by an
interactive surface, not holding Guide, and still holding a control of that
action.  `Ownership::button` clears the repeat in one of its branches only;
the others are harmless because of what the invariant says about Guide, the
owner and the held controls.
-/

namespace Hearthdeck
namespace Input

open Foundation Protocol

namespace Pad

/-- A repeating action is a move of an armed pad with an interactive owner,
without Guide, one of whose controls is held. -/
def RepeatsHeld (owner : Owner) (pad : Pad) : Prop :=
  ∀ repeated due, pad.repeating = some (repeated, due) →
    isMove repeated = true ∧
      pad.armed = true ∧
      (owner = .frontend ∨ owner = .overlay) ∧
      .guide ∉ pad.held ∧
      ∃ control ∈ pad.held, action control = some repeated

/-- Recording an edge that changes nothing leaves the held controls alone. -/
theorem touch_held_of_not_changes
    {pad : Pad}
    {control : Control}
    {pressed : Bool}
    (unchanged : pad.changes control pressed ≠ true) :
    (pad.touch control pressed).held = pad.held := by
  cases pressed with
  | true =>
      rw [ne_eq, changes_pressed, not_not] at unchanged
      simp [touch, unchanged]
  | false =>
      rw [ne_eq, changes_released] at unchanged
      simp [touch, unchanged]

/-- An edge of a control that carries no part of the repeat keeps it, whatever
happens to the chord flags. -/
theorem RepeatsHeld.touch
    {owner : Owner}
    {pad after : Pad}
    {control : Control}
    {pressed : Bool}
    (repeats : RepeatsHeld owner pad)
    (notGuide : control ≠ .guide)
    (carried : ∀ repeated due, pad.repeating = some (repeated, due) →
      action control = some repeated → pressed = true)
    (held : after.held = (pad.touch control pressed).held)
    (armed : after.armed = pad.armed)
    (repeating : after.repeating = pad.repeating) :
    RepeatsHeld owner after := by
  intro repeated due active
  rw [repeating] at active
  obtain ⟨move, wasArmed, interactive, noGuide, witness, witnessHeld,
    mapped⟩ := repeats repeated due active
  refine ⟨move, armed.trans wasArmed, interactive, ?_, witness, ?_, mapped⟩
  · rw [held, pad.mem_touch_other (Ne.symm notGuide)]
    exact noGuide
  · rw [held]
    by_cases same : witness = control
    · subst same
      obtain rfl := carried repeated due active mapped
      simp
    · rw [pad.mem_touch_other same]
      exact witnessHeld

/-- Every button edge keeps the repeat honest. -/
theorem RepeatsHeld.button
    {owner : Owner}
    {pad : Pad}
    (repeats : RepeatsHeld owner pad)
    (control : Control)
    (pressed : Bool)
    (now : Nat)
    (keyboardEnabled : Bool) :
    RepeatsHeld owner
      (pad.button owner control pressed now keyboardEnabled).1 := by
  have outcome :=
    pad.button_outcome owner control pressed now keyboardEnabled
  generalize pad.button owner control pressed now keyboardEnabled = result
    at outcome ⊢
  cases outcome with
  | ignored noEdge =>
      intro repeated due active
      obtain ⟨move, armed, rest⟩ := repeats repeated due active
      have unchanged : pad.changes control pressed ≠ true :=
        fun changed => noEdge ⟨changed, armed⟩
      refine ⟨move, armed, ?_⟩
      rw [touch_held_of_not_changes unchanged]
      exact rest
  | guidePressed edge isGuide isPressed =>
      intro repeated due active
      cases active
  | guideReleased edge isGuide isReleased =>
      -- Guide was held, so nothing repeats.
      subst isGuide isReleased
      intro repeated due active
      obtain ⟨_, _, _, noGuide, _⟩ := repeats repeated due active
      exact absurd ((pad.changes_released _).mp edge.1) noGuide
  | keyboardOpened edge isWest isPressed guideHeld _ _ _ =>
      intro repeated due active
      obtain ⟨_, _, _, noGuide, _⟩ := repeats repeated due active
      exact absurd guideHeld noGuide
  | swallowed edge notGuide guideHeld =>
      intro repeated due active
      obtain ⟨_, _, _, noGuide, _⟩ := repeats repeated due active
      exact absurd guideHeld noGuide
  | textBack edge noGuide isText isEast isPressed =>
      intro repeated due active
      obtain ⟨_, _, interactive, _⟩ := repeats repeated due active
      rw [isText] at interactive
      simp at interactive
  | notInteractive edge notGuide noGuide notFrontend notOverlay =>
      intro repeated due active
      obtain ⟨_, _, interactive, _⟩ := repeats repeated due active
      exact absurd interactive (by simp [notFrontend, notOverlay])
  | chordCompleted edge noGuide isFrontend isPressed chord =>
      have silent : action control = none := by
        rcases chord with ⟨rfl, _⟩ | ⟨rfl, _⟩ <;> rfl
      have notGuide : control ≠ .guide := by
        rcases chord with ⟨rfl, _⟩ | ⟨rfl, _⟩ <;> simp
      exact repeats.touch notGuide (by simp [silent]) rfl rfl rfl
  | selectReleased edge noGuide isFrontend isSelect isReleased fresh =>
      subst isSelect
      exact repeats.touch (by simp) (by simp [action]) rfl rfl rfl
  | startPressed edge noGuide isFrontend isStart isPressed =>
      subst isStart
      exact repeats.touch (by simp) (by simp [action]) rfl rfl rfl
  | selectPressed edge noGuide isFrontend isSelect isPressed =>
      subst isSelect
      exact repeats.touch (by simp) (by simp [action]) rfl rfl rfl
  | unmapped edge notGuide noGuide interactive silent passed =>
      exact repeats.touch notGuide (by simp [silent]) rfl rfl rfl
  | moveReleased released edge noGuide interactive mapped isReleased =>
      have notGuide : control ≠ .guide := by
        rintro rfl
        simp [action] at mapped
      by_cases same :
          (pad.repeating.any fun active => active.1 == released) = true
      · simp only [same, if_true]
        intro repeated due active
        cases active
      · simp only [same]
        refine repeats.touch notGuide ?_ rfl rfl rfl
        intro repeated due active carries
        rw [mapped] at carries
        obtain rfl := Option.some.inj carries
        simp [active] at same
  | acted taken edge noGuide interactive mapped isPressed =>
      have notGuide : control ≠ .guide := by
        rintro rfl
        simp [action] at mapped
      cases moves : isMove taken with
      | false =>
          simp only [Bool.false_eq_true, if_false]
          exact repeats.touch notGuide (fun _ _ _ _ => isPressed) rfl rfl rfl
      | true =>
          simp only [if_true]
          intro repeated due active
          cases active
          subst isPressed
          refine ⟨moves, edge.2, interactive, ?_, control, ?_, mapped⟩
          · rw [pad.mem_touch_other (Ne.symm notGuide)]
            exact noGuide
          · simp

/-- A tick keeps the repeat honest: it arms only pads that repeat nothing. -/
theorem RepeatsHeld.tick
    {owner : Owner}
    {pad : Pad}
    (repeats : RepeatsHeld owner pad)
    (now : Nat) :
    RepeatsHeld owner (pad.tick now).1 := by
  obtain ⟨repeating, updated, sameAction⟩ := pad.tick_eq now
  rw [updated]
  intro repeated due active
  change repeating = some (repeated, due) at active
  rw [active] at sameAction
  obtain ⟨⟨before, at'⟩, known, sameFirst⟩ :=
    Option.map_eq_some_iff.mp sameAction.symm
  obtain rfl : before = repeated := sameFirst
  obtain ⟨move, armed, rest⟩ := repeats before at' known
  refine ⟨move, pad.arm_armed.mpr (Or.inl armed), ?_⟩
  simpa using rest

end Pad

namespace Ownership

/-- Every pad repeats only what it holds, after every run. -/
theorem repeatsHeld_after
    (calls : List Call)
    {id : PadId}
    {pad : Pad}
    (found : (after calls).pads.lookup id = some pad) :
    pad.RepeatsHeld (after calls).owner :=
  pad_invariant (fun owner pad => pad.RepeatsHeld owner)
    (fun _ _ _ active => by cases active)
    (fun _ _ control pressed now keyboardEnabled repeats =>
      repeats.button control pressed now keyboardEnabled)
    (fun _ _ now repeats => repeats.tick now)
    (fun _ _ _ _ _ _ active => by cases active)
    calls found

/-- The call takes a pad away from its owner: it hands the controllers to
another owner, or forgets the pad. -/
def TakesAway (id : PadId) (state : Ownership) (call : Call) : Prop :=
  call = .remove id ∨
    ∃ owner, call = .setOwner owner ∧ state.owner ≠ owner

/-- The call presses a control of the pad. -/
def Presses (id : PadId) : Call → Bool
  | .button other _ pressed _ _ => pressed && other == id
  | _ => false

/-- Nothing of the pad repeats. -/
def Quiet (id : PadId) (state : Ownership) : Prop :=
  ∀ pad, state.pads.lookup id = some pad → pad.repeating = none

/-- A quiet pad emits nothing at a tick. -/
theorem Quiet.stemming_tick
    {id : PadId}
    {state : Ownership}
    (quiet : Quiet id state)
    (order : HashOrder)
    (now : Nat) :
    stemming id state (.tick order now) = [] := by
  unfold stemming
  cases found : state.pads.lookup id with
  | none => rfl
  | some pad =>
      rw [List.eq_nil_iff_forall_not_mem]
      intro signal emitted
      obtain ⟨repeated, due, active, _⟩ :=
        (pad.mem_tick_iff now signal).mp emitted
      rw [quiet pad found] at active
      cases active

/-- Only a press on the pad itself ends its silence. -/
theorem Quiet.step
    {id : PadId}
    {state : Ownership}
    (quiet : Quiet id state)
    (call : Call)
    (noPress : Presses id call = false) :
    Quiet id (state.step call).1 := by
  intro pad found
  have padStep := padStep_of_lookup found
  cases padStep with
  | edge control pressed now keyboardEnabled =>
      have released : pressed = false := by
        simpa [Presses] using noPress
      subst released
      have before : ((state.pads.lookup id).getD {}).repeating = none := by
        cases known : state.pads.lookup id with
        | none => rfl
        | some old => exact quiet old known
      generalize (state.pads.lookup id).getD {} = old at before ⊢
      have outcome := old.button_outcome state.owner control false now
        keyboardEnabled
      generalize old.button state.owner control false now keyboardEnabled =
        result at outcome ⊢
      cases outcome <;> simp_all
  | tick order now old before =>
      obtain ⟨repeating, updated, sameAction⟩ := old.tick_eq now
      rw [updated]
      rw [quiet old before] at sameAction
      simpa using sameAction
  | taken owner old before changed => rfl
  | suspended old before => rfl
  | kept call pad before passes => exact quiet pad before

/-- Silence lasts over any number of calls that do not press the pad. -/
theorem Quiet.runFrom
    {id : PadId}
    {state : Ownership}
    (quiet : Quiet id state)
    (calls : List Call)
    (noPress : ∀ call ∈ calls, Presses id call = false) :
    Quiet id (machine.runFrom state calls) := by
  induction calls generalizing state with
  | nil => exact quiet
  | cons call calls inductionHypothesis =>
      rw [Machine.runFrom_cons]
      exact inductionHypothesis (quiet.step call (noPress call (by simp)))
        (fun later member => noPress later (by simp [member]))

/-- A pad that was taken away repeats nothing. -/
theorem quiet_of_takesAway
    {id : PadId}
    {state : Ownership}
    {call : Call}
    (takes : TakesAway id state call) :
    Quiet id (state.step call).1 := by
  intro pad found
  have padStep := padStep_of_lookup found
  rcases takes with rfl | ⟨owner, rfl, different⟩
  · cases padStep with
    | kept call pad before passes => exact absurd rfl passes
  · cases padStep with
    | taken owner old before changed => rfl
    | kept call pad before passes => exact absurd passes different

/-- In every reachable state a repeat is the action of a held control of an
armed pad without Guide under an interactive owner; so a tick repeats only
such actions, and repeats nothing of a pad that was taken away until the pad
is pressed again. -/
theorem no_ghost_repeat
    (calls : List Call)
    (id : PadId) :
    (∀ pad repeated due,
      (after calls).pads.lookup id = some pad →
      pad.repeating = some (repeated, due) →
        pad.armed = true ∧
          ((after calls).owner = .frontend ∨
            (after calls).owner = .overlay) ∧
          .guide ∉ pad.held ∧
          ∃ control ∈ pad.held, action control = some repeated) ∧
    (∀ order now signal,
      signal ∈ stemming id (after calls) (.tick order now) →
        ∃ pad repeated,
          (after calls).pads.lookup id = some pad ∧
            signal = .action repeated ∧
            isMove repeated = true ∧
            .guide ∉ pad.held ∧
            ∃ control ∈ pad.held, action control = some repeated) ∧
    (∀ call later order now,
      TakesAway id (after calls) call →
      (∀ next ∈ later, Presses id next = false) →
        stemming id (after (calls ++ call :: later)) (.tick order now) =
          []) := by
  refine ⟨?_, ?_, ?_⟩
  · intro pad repeated due found active
    exact (repeatsHeld_after calls found repeated due active).2
  · intro order now signal emitted
    cases found : (after calls).pads.lookup id with
    | none => simp [stemming, found] at emitted
    | some pad =>
        simp only [stemming, found] at emitted
        obtain ⟨repeated, due, active, _, _, rfl⟩ :=
          (pad.mem_tick_iff now signal).mp emitted
        obtain ⟨move, _, _, noGuide, carried⟩ :=
          repeatsHeld_after calls found repeated due active
        exact ⟨pad, repeated, rfl, rfl, move, noGuide, carried⟩
  · intro call later order now takes noPress
    apply Quiet.stemming_tick
    rw [after, Machine.run, Machine.runFrom_append, Machine.runFrom_cons]
    exact (quiet_of_takesAway takes).runFrom later noPress

end Ownership
end Input
end Hearthdeck
