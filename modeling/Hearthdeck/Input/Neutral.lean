import Hearthdeck.Input.Repeat

/-!
# Neutral re-arming

An owner change, a suspension and the opening of a pad disturb the pad.  A
disturbed pad stays silent until a tick finds it with nothing held, and a
control takes part in a signal only if it was pressed after that tick.
-/

namespace Hearthdeck
namespace Input
namespace Ownership

open Foundation Protocol History

/-- The call is the first event of the pad since it was created or removed, a
change to another owner, or a suspension. -/
def Disturbs (id : PadId) (before : List Call) (call : Call) : Prop :=
  (∃ control pressed now keyboardEnabled,
      call = .button id control pressed now keyboardEnabled ∧
        (after before).pads.lookup id = none) ∨
    (∃ owner, call = .setOwner owner ∧ (after before).owner ≠ owner) ∨
    call = .suspend

/-- The call is a tick at which the pad is known and holds nothing. -/
def NeutralTick (id : PadId) (before : List Call) (call : Call) : Prop :=
  ∃ order now pad,
    call = .tick order now ∧
      (after before).pads.lookup id = some pad ∧
      pad.held = ∅

/-- The pad was neutral at a tick since it was last disturbed. -/
def Rearmed (id : PadId) (calls : List Call) : Prop :=
  Since (NeutralTick id) (fun before call => ¬Disturbs id before call) calls

/-- The call presses a control of the pad that was not held, the pad is
re-armed, and the call does not disturb it. -/
def FreshPress
    (id : PadId)
    (control : Control)
    (before : List Call)
    (call : Call) : Prop :=
  PressEdge id control before call ∧
    Rearmed id before ∧
    ¬Disturbs id before call

/-- The control was pressed on a re-armed pad and the pad was not disturbed
since. -/
def FreshlyPressed
    (id : PadId)
    (control : Control)
    (calls : List Call) : Prop :=
  Since (FreshPress id control)
    (fun before call => ¬Disturbs id before call) calls

/-- A control makes the call return signals of the pad: the call is its edge,
or a tick that repeats its action while it is held. -/
def Produces (id : PadId) (control : Control) (state : Ownership) : Call → Prop
  | .button other edge _ _ _ => other = id ∧ edge = control
  | .tick _ _ =>
      ∃ pad repeated due,
        state.pads.lookup id = some pad ∧
          pad.repeating = some (repeated, due) ∧
          control ∈ pad.held ∧
          action control = some repeated
  | _ => False

/-- The pad is known and armed. -/
def Armed (id : PadId) (state : Ownership) : Prop :=
  ∃ pad, state.pads.lookup id = some pad ∧ pad.armed = true

/-- A pad is armed by a neutral tick or stays armed over a call that does not
disturb it. -/
theorem armed_concat
    {id : PadId}
    {calls : List Call}
    {call : Call}
    (armed : Armed id (after (calls ++ [call]))) :
    NeutralTick id calls call ∨
      (Armed id (after calls) ∧ ¬Disturbs id calls call) := by
  obtain ⟨pad, found, isArmed⟩ := armed
  rw [after_concat] at found
  have padStep := padStep_of_lookup found
  cases padStep with
  | edge control pressed now keyboardEnabled =>
      rw [Pad.button_armed] at isArmed
      cases known : (after calls).pads.lookup id with
      | none =>
          rw [known] at isArmed
          cases isArmed
      | some old =>
          rw [known] at isArmed
          exact Or.inr ⟨⟨old, known, isArmed⟩, by simp [Disturbs, known]⟩
  | tick order now old known =>
      rcases (old.tick_armed now).mp isArmed with before | neutral
      · exact Or.inr ⟨⟨old, known, before⟩, by simp [Disturbs]⟩
      · exact Or.inl ⟨order, now, old, rfl, known, neutral⟩
  | taken owner old known changed => cases isArmed
  | suspended old known => cases isArmed
  | kept call pad known passes =>
      refine Or.inr ⟨⟨pad, known, isArmed⟩, ?_⟩
      rintro (⟨_, _, _, _, rfl, _⟩ | ⟨owner, rfl, changed⟩ | rfl)
      · exact passes rfl
      · exact changed passes
      · exact passes

/-- An armed pad was neutral at a tick since it was last disturbed. -/
theorem rearmed_of_armed
    (id : PadId)
    (calls : List Call)
    (armed : Armed id (after calls)) :
    Rearmed id calls := by
  refine since_of_flag (fun calls => Armed id (after calls)) ?_ ?_ calls armed
  · rintro ⟨pad, found, _⟩
    cases found
  · intro history call up
    exact armed_concat up

/-- The pad is armed and holds the control. -/
def HeldArmed (id : PadId) (control : Control) (state : Ownership) : Prop :=
  ∃ pad, state.pads.lookup id = some pad ∧ pad.armed = true ∧
    control ∈ pad.held

/-- A control of an armed pad comes to be held by a press on the armed pad, or
stays held over a call that does not disturb the pad. -/
theorem heldArmed_concat
    {id : PadId}
    {control : Control}
    {calls : List Call}
    {call : Call}
    (held : HeldArmed id control (after (calls ++ [call]))) :
    FreshPress id control calls call ∨
      (HeldArmed id control (after calls) ∧ ¬Disturbs id calls call) := by
  obtain ⟨pad, found, isArmed, member⟩ := held
  rcases armed_concat ⟨pad, found, isArmed⟩ with
    ⟨order, now, old, rfl, known, neutral⟩ | ⟨armed, undisturbed⟩
  · -- A neutral tick leaves nothing held.
    rw [after_concat] at found
    cases padStep_of_lookup found with
    | tick order now pad known' =>
        cases known.symm.trans known'
        rw [Pad.tick_held, neutral] at member
        cases member
    | kept call pad known' passes => cases passes
  · obtain ⟨before, known, wasArmed⟩ := armed
    rw [after_concat] at found
    cases padStep_of_lookup found with
    | edge other pressed now keyboardEnabled =>
        rw [known, Pad.button_held] at member
        by_cases already : control ∈ before.held
        · exact Or.inr ⟨⟨before, known, wasArmed, already⟩, undisturbed⟩
        · cases pressed with
          | true =>
              obtain rfl : control = other := by simpa [already] using member
              refine Or.inl ⟨⟨now, keyboardEnabled, rfl, ?_⟩,
                rearmed_of_armed id calls ⟨before, known, wasArmed⟩,
                undisturbed⟩
              rw [heldOn, known]
              exact already
          | false => simp [already] at member
    | tick order now pad known' =>
        cases known.symm.trans known'
        rw [Pad.tick_held] at member
        exact Or.inr ⟨⟨before, known, wasArmed, member⟩, undisturbed⟩
    | taken owner pad known' changed => cases isArmed
    | suspended pad known' => cases isArmed
    | kept call pad known' passes =>
        exact Or.inr ⟨⟨_, known', isArmed, member⟩, undisturbed⟩

/-- A control held on an armed pad was pressed after the pad was re-armed. -/
theorem freshlyPressed_of_heldArmed
    (id : PadId)
    (control : Control)
    (calls : List Call)
    (held : HeldArmed id control (after calls)) :
    FreshlyPressed id control calls := by
  refine since_of_flag (fun calls => HeldArmed id control (after calls)) ?_ ?_
    calls held
  · rintro ⟨pad, found, _⟩
    cases found
  · intro history call up
    exact heldArmed_concat up

/-- A signal stems from an armed pad only. -/
theorem armed_of_mem_stemming
    {id : PadId}
    {calls : List Call}
    {call : Call}
    {signal : Signal}
    (stems : signal ∈ stemming id (after calls) call) :
    Armed id (after calls) := by
  rcases mem_stemming_cases stems with
    ⟨control, pressed, now, keyboardEnabled, rfl, returned⟩ |
      ⟨order, now, pad, rfl, known, emitted⟩
  · have edge := Pad.edge_of_mem_button returned
    cases known : (after calls).pads.lookup id with
    | none =>
        rw [known] at edge
        cases edge.2
    | some pad =>
        rw [known] at edge
        exact ⟨pad, known, edge.2⟩
  · obtain ⟨repeated, due, active, _⟩ :=
      (pad.mem_tick_iff now signal).mp emitted
    exact ⟨pad, known, (repeatsHeld_after calls known repeated due active).2.1⟩

/-- Some control produces every signal that stems from a pad. -/
theorem exists_produces
    {id : PadId}
    {calls : List Call}
    {call : Call}
    {signal : Signal}
    (stems : signal ∈ stemming id (after calls) call) :
    ∃ control, Produces id control (after calls) call := by
  rcases mem_stemming_cases stems with
    ⟨control, pressed, now, keyboardEnabled, rfl, returned⟩ |
      ⟨order, now, pad, rfl, known, emitted⟩
  · exact ⟨control, rfl, rfl⟩
  · obtain ⟨repeated, due, active, _⟩ :=
      (pad.mem_tick_iff now signal).mp emitted
    obtain ⟨_, _, _, _, control, held, mapped⟩ :=
      repeatsHeld_after calls known repeated due active
    exact ⟨control, pad, repeated, due, known, active, held, mapped⟩

/-- A control that produces a signal was pressed after the pad was
re-armed. -/
theorem freshlyPressed_of_produces
    {id : PadId}
    {control : Control}
    {calls : List Call}
    {call : Call}
    {signal : Signal}
    (stems : signal ∈ stemming id (after calls) call)
    (produces : Produces id control (after calls) call) :
    FreshlyPressed id control (calls ++ [call]) := by
  obtain ⟨pad, known, armed⟩ := armed_of_mem_stemming stems
  have rearmed := rearmed_of_armed id calls ⟨pad, known, armed⟩
  rw [FreshlyPressed, since_concat]
  cases call with
  | button other edge pressed now keyboardEnabled =>
      obtain ⟨rfl, rfl⟩ := produces
      simp only [stemming, if_true, button] at stems
      have changed := (Pad.edge_of_mem_button stems).1
      cases pressed with
      | true =>
          rw [Pad.changes_pressed] at changed
          exact Or.inl ⟨⟨now, keyboardEnabled, rfl, changed⟩, rearmed,
            by simp [Disturbs, known]⟩
      | false =>
          rw [Pad.changes_released, known] at changed
          exact Or.inr ⟨freshlyPressed_of_heldArmed _ _ _
            ⟨pad, known, armed, changed⟩, by simp [Disturbs, known]⟩
  | tick order now =>
      obtain ⟨pad', repeated, due, known', active, held, mapped⟩ := produces
      cases known.symm.trans known'
      exact Or.inr ⟨freshlyPressed_of_heldArmed _ _ _
        ⟨pad, known, armed, held⟩, by simp [Disturbs]⟩
  | setOwner owner => cases produces
  | suspend => cases produces
  | remove other => cases produces

/-- A pad from which a signal stems was neutral at a tick since it was opened,
since the owner last changed and since the last suspension.  Whatever control
produces the signal was pressed after that tick; so a control held at one of
these moments takes part in no signal before it is pressed again, having been
released. -/
theorem neutral_rearming
    (calls : List Call)
    (call : Call)
    (id : PadId)
    (signal : Signal)
    (stems : signal ∈ stemming id (after calls) call) :
    Rearmed id calls ∧
      (∃ control, Produces id control (after calls) call) ∧
      (∀ control, Produces id control (after calls) call →
        FreshlyPressed id control (calls ++ [call])) ∧
      (∀ control before disturbance later,
        Produces id control (after calls) call →
        calls ++ [call] = before ++ disturbance :: later →
        Disturbs id before disturbance →
          ∃ between press rest, later = between ++ press :: rest ∧
            PressEdge id control (before ++ disturbance :: between) press) := by
  refine ⟨rearmed_of_armed id calls (armed_of_mem_stemming stems),
    exists_produces stems, fun _ => freshlyPressed_of_produces stems, ?_⟩
  intro control before disturbance later produces split disturbs
  have fresh := freshlyPressed_of_produces stems produces
  rw [FreshlyPressed, split] at fresh
  obtain ⟨between, press, rest, rfl, pressed, _⟩ :=
    fresh.after_disturbance (fun press => press.2.2 disturbs)
      (not_not.mpr disturbs)
  exact ⟨between, press, rest, rfl, pressed⟩

theorem neutral_rearming_southPress :
    Rearmed 0
        [.setOwner .frontend, .button 0 .west false 0 false,
          .tick .stored 1] ∧
      FreshlyPressed 0 .south
        [.setOwner .frontend, .button 0 .west false 0 false,
          .tick .stored 1, .button 0 .south true 2 false] := by
  have rearming := neutral_rearming
    [.setOwner .frontend, .button 0 .west false 0 false, .tick .stored 1]
    (.button 0 .south true 2 false) 0 (.action .confirm) (by decide)
  exact ⟨rearming.1, rearming.2.2.1 .south ⟨rfl, rfl⟩⟩

end Ownership
end Input
end Hearthdeck
