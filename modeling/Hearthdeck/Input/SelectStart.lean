import Hearthdeck.Input.Repeat

/-!
# Select and Start in the frontend

`FilterPanel` and `Action::Keyboard` are meant to come from Select and Start
presses that the frontend saw.  The flags `selectUsed` and `startUsed` are
reset only by presses that get past the Guide check, so a press swallowed
under Guide leaves a stale flag behind when the flag was not set before.  The
main result says that this is the only way to go wrong.
-/

namespace Hearthdeck
namespace Input

open Foundation Protocol History

/-- No control is mapped to an action of the Start and Select chords. -/
theorem action_ne_chord
    {control : Control}
    {taken : Action}
    (mapped : action control = some taken) :
    taken ≠ .keyboard ∧ taken ≠ .filterPanel := by
  cases control <;>
    simp only [action, Option.some.injEq, reduceCtorEq] at mapped <;>
    subst mapped <;> decide

namespace Pad

/-- The two controls of the frontend's chord. -/
def isChordControl (control : Control) : Prop :=
  control = .start ∨ control = .select

/-- Whether the current hold of a chord control is spent. -/
def spent (pad : Pad) : Control → Bool
  | .start => pad.startUsed
  | .select => pad.selectUsed
  | _ => true

/-- The control is pressed under Guide while its previous hold is unspent. -/
def SwallowsFresh (pad : Pad) (control : Control) : Prop :=
  pad.armed = true ∧
    .guide ∈ pad.held ∧
    control ∉ pad.held ∧
    pad.spent control = false

theorem spent_congr
    {first second : Pad}
    (start : first.startUsed = second.startUsed)
    (select : first.selectUsed = second.selectUsed)
    (control : Control) :
    first.spent control = second.spent control := by
  cases control <;> first | exact start | exact select | rfl

/-- A chord control is no Guide and is mapped to no action. -/
theorem isChordControl.unmapped
    {control : Control}
    (isChord : isChordControl control) :
    control ≠ .guide ∧ action control = none := by
  rcases isChord with rfl | rfl <;> decide

/-- How a chord control comes to be held with an unspent hold on an armed pad
of the frontend: by its press edge, seen by the frontend or swallowed under
Guide, or by staying so.  The pad asks for no keyboard on the way. -/
theorem button_unspent
    {pad : Pad}
    {control edge : Control}
    {pressed : Bool}
    {now : Nat}
    {keyboardEnabled : Bool}
    (armed : pad.armed = true)
    (isChord : isChordControl control)
    (held : control ∈
      (pad.button .frontend edge pressed now keyboardEnabled).1.held)
    (unspent :
      (pad.button .frontend edge pressed now keyboardEnabled).1.spent control =
        false) :
    (edge = control ∧ pressed = true ∧ control ∉ pad.held ∧
        (.guide ∉ pad.held ∨ pad.SwallowsFresh control) ∨
      control ∈ pad.held ∧ pad.spent control = false) ∧
    .action .keyboard ∉
      (pad.button .frontend edge pressed now keyboardEnabled).2 := by
  rw [button_held] at held
  have stays : edge ≠ control → control ∈ pad.held := fun different =>
    (pad.mem_touch_other (Ne.symm different) pressed).mp held
  have outcome := pad.button_outcome .frontend edge pressed now keyboardEnabled
  generalize pad.button .frontend edge pressed now keyboardEnabled = result
    at outcome unspent ⊢
  cases outcome with
  | ignored noEdge =>
      have unchanged : pad.changes edge pressed ≠ true :=
        fun changed => noEdge ⟨changed, armed⟩
      rw [touch_held_of_not_changes unchanged] at held
      exact ⟨Or.inr ⟨held, spent_congr rfl rfl control ▸ unspent⟩, by simp⟩
  | guidePressed changed isGuide isPressed =>
      have different : edge ≠ control :=
        fun same => isChord.unmapped.1 (same ▸ isGuide)
      exact ⟨Or.inr ⟨stays different, spent_congr rfl rfl control ▸ unspent⟩,
        by simp⟩
  | guideReleased changed isGuide isReleased =>
      have different : edge ≠ control :=
        fun same => isChord.unmapped.1 (same ▸ isGuide)
      refine ⟨Or.inr ⟨stays different,
        spent_congr rfl rfl control ▸ unspent⟩, ?_⟩
      cases pad.guideUsed <;> simp
  | keyboardOpened changed isWest isPressed _ _ _ owned => simp at owned
  | swallowed changed notGuide guideHeld =>
      have kept : pad.spent control = false :=
        spent_congr rfl rfl control ▸ unspent
      refine ⟨?_, by simp⟩
      by_cases same : edge = control
      · subst same
        cases pressed with
        | true =>
            have fresh := (pad.changes_pressed _).mp changed.1
            exact Or.inl ⟨rfl, rfl, fresh, Or.inr ⟨armed, guideHeld, fresh,
              kept⟩⟩
        | false => simp at held
      · exact Or.inr ⟨stays same, kept⟩
  | textBack changed noGuide isText => cases isText
  | notInteractive changed notGuide noGuide notFrontend => contradiction
  | chordCompleted changed noGuide isFrontend isPressed chord =>
      rcases isChord with rfl | rfl <;> cases unspent
  | selectReleased changed noGuide isFrontend isSelect isReleased fresh =>
      subst isSelect isReleased
      have different : Control.select ≠ control := by
        rintro rfl
        simp at held
      exact ⟨Or.inr ⟨stays different, spent_congr rfl rfl control ▸ unspent⟩,
        by simp⟩
  | startPressed changed noGuide isFrontend isStart isPressed =>
      subst isStart isPressed
      refine ⟨?_, by simp⟩
      rcases isChord with rfl | rfl
      · exact Or.inl ⟨rfl, rfl, (pad.changes_pressed _).mp changed.1,
          Or.inl noGuide⟩
      · exact Or.inr ⟨stays (by simp), unspent⟩
  | selectPressed changed noGuide isFrontend isSelect isPressed =>
      subst isSelect isPressed
      refine ⟨?_, by simp⟩
      rcases isChord with rfl | rfl
      · exact Or.inr ⟨stays (by simp), unspent⟩
      · exact Or.inl ⟨rfl, rfl, (pad.changes_pressed _).mp changed.1,
          Or.inl noGuide⟩
  | unmapped changed notGuide noGuide interactive silent passed =>
      refine ⟨Or.inr ⟨?_, spent_congr rfl rfl control ▸ unspent⟩, by simp⟩
      by_cases same : edge = control
      · subst same
        cases pressed with
        | true => exact absurd ⟨rfl, rfl, isChord⟩ passed
        | false => simp at held
      · exact stays same
  | moveReleased released changed noGuide interactive mapped isReleased =>
      have different : edge ≠ control := by
        rintro rfl
        simp [isChord.unmapped.2] at mapped
      exact ⟨Or.inr ⟨stays different, spent_congr rfl rfl control ▸ unspent⟩,
        by simp⟩
  | acted taken changed noGuide interactive mapped isPressed =>
      have different : edge ≠ control := by
        rintro rfl
        simp [isChord.unmapped.2] at mapped
      have notKeyboard := (action_ne_chord mapped).1
      exact ⟨Or.inr ⟨stays different, spent_congr rfl rfl control ▸ unspent⟩,
        by simp [Ne.symm notKeyboard]⟩

/-- `FilterPanel` is returned at the release edge of an unspent Select hold on
a pad of the frontend. -/
theorem filterPanel_mem_button
    {pad : Pad}
    {owner : Owner}
    {control : Control}
    {pressed : Bool}
    {now : Nat}
    {keyboardEnabled : Bool}
    (returned : .action .filterPanel ∈
      (pad.button owner control pressed now keyboardEnabled).2) :
    owner = .frontend ∧ control = .select ∧ pressed = false ∧
      .select ∈ pad.held ∧ pad.selectUsed = false := by
  have outcome :=
    pad.button_outcome owner control pressed now keyboardEnabled
  generalize pad.button owner control pressed now keyboardEnabled = result
    at outcome returned
  cases outcome with
  | selectReleased edge noGuide isFrontend isSelect isReleased fresh =>
      subst isSelect isReleased
      exact ⟨isFrontend, rfl, rfl, (pad.changes_released _).mp edge.1, fresh⟩
  | guideReleased edge isGuide isReleased =>
      cases used : pad.guideUsed <;> simp [used] at returned
  | acted taken edge noGuide interactive mapped isPressed =>
      have different := (action_ne_chord mapped).2
      simp [Ne.symm different] at returned
  | _ => simp at returned

/-- `Action::Keyboard` is returned at a press edge of one chord control on a
pad of the frontend, without Guide, while the other one is held unspent. -/
theorem keyboard_action_mem_button
    {pad : Pad}
    {owner : Owner}
    {control : Control}
    {pressed : Bool}
    {now : Nat}
    {keyboardEnabled : Bool}
    (returned : .action .keyboard ∈
      (pad.button owner control pressed now keyboardEnabled).2) :
    owner = .frontend ∧ pressed = true ∧ control ∉ pad.held ∧
      .guide ∉ pad.held ∧
      ∃ other, (control = .start ∧ other = .select ∨
          control = .select ∧ other = .start) ∧
        other ∈ pad.held ∧ pad.spent other = false := by
  have edge := edge_of_mem_button returned
  have outcome :=
    pad.button_outcome owner control pressed now keyboardEnabled
  generalize pad.button owner control pressed now keyboardEnabled = result
    at outcome returned
  cases outcome with
  | chordCompleted changed noGuide isFrontend isPressed chord =>
      subst isPressed
      refine ⟨isFrontend, rfl, (pad.changes_pressed _).mp edge.1, noGuide, ?_⟩
      rcases chord with ⟨isStart, held, unspent⟩ | ⟨isSelect, held, unspent⟩
      · exact ⟨.select, Or.inl ⟨isStart, rfl⟩, held, unspent⟩
      · exact ⟨.start, Or.inr ⟨isSelect, rfl⟩, held, unspent⟩
  | guideReleased changed isGuide isReleased =>
      cases used : pad.guideUsed <;> simp [used] at returned
  | acted taken changed noGuide interactive mapped isPressed =>
      have different := (action_ne_chord mapped).1
      simp [Ne.symm different] at returned
  | _ => simp at returned

end Pad

namespace Ownership

/-- The call is a press edge of the control that the frontend sees: the pad is
armed, the frontend owns the controllers and Guide is not held. -/
def SeenPress
    (id : PadId)
    (control : Control)
    (before : List Call)
    (call : Call) : Prop :=
  PressEdge id control before call ∧
    (after before).armed id = true ∧
    (after before).owner = .frontend ∧
    .guide ∉ (after before).heldOn id

/-- The control was pressed where the frontend sees it and is held since, and
neither the press nor a later call made the pad return
`Action::Keyboard`. -/
def HeldUnspent
    (id : PadId)
    (control : Control)
    (calls : List Call) : Prop :=
  Since
    (fun before call => SeenPress id control before call ∧
      .action .keyboard ∉ stemming id (after before) call)
    (fun before call => StaysHeld id control before call ∧
      .action .keyboard ∉ stemming id (after before) call)
    calls

/-- The call returns `FilterPanel` for the pad only at the release of a Select
hold the frontend saw begin and that went into no chord, and
`Action::Keyboard` only at a press of Start or Select the frontend sees, while
the other one is held since a press the frontend saw and that went into no
chord. -/
def Consumes (id : PadId) (calls : List Call) (call : Call) : Prop :=
  (.action .filterPanel ∈ stemming id (after calls) call →
    (∃ now keyboardEnabled,
      call = .button id .select false now keyboardEnabled) ∧
      HeldUnspent id .select calls) ∧
  (.action .keyboard ∈ stemming id (after calls) call →
    ∃ control other,
      (control = .start ∧ other = .select ∨
        control = .select ∧ other = .start) ∧
        SeenPress id control calls call ∧
        HeldUnspent id other calls)

/-- The call presses Start or Select under Guide on an armed pad of the
frontend, and the flag of that control is not set. -/
def SwallowsFresh (before : List Call) (call : Call) : Prop :=
  ∃ id control now keyboardEnabled pad,
    call = .button id control true now keyboardEnabled ∧
      (after before).owner = .frontend ∧
      (after before).pads.lookup id = some pad ∧
      pad.SwallowsFresh control

/-- The pad is armed, the frontend owns it, and the control is held with an
unspent hold. -/
def UnspentOn (id : PadId) (control : Control) (state : Ownership) : Prop :=
  state.owner = .frontend ∧
    ∃ pad, state.pads.lookup id = some pad ∧
      pad.armed = true ∧
      control ∈ pad.held ∧
      pad.spent control = false

/-- A tick asks for no keyboard and opens no filter panel: it repeats moves
only. -/
theorem move_of_mem_tick
    {id : PadId}
    {calls : List Call}
    {pad : Pad}
    (known : (after calls).pads.lookup id = some pad)
    {now : Nat}
    {taken : Action}
    (emitted : .action taken ∈ (pad.tick now).2) :
    isMove taken = true := by
  obtain ⟨repeated, due, active, _, _, same⟩ :=
    (pad.mem_tick_iff now _).mp emitted
  cases same
  exact (repeatsHeld_after calls known taken due active).1

/-- A hold comes to be unspent by a press the frontend sees or by a swallowed
one, and stays so over calls that leave the control held and ask for no
keyboard. -/
theorem unspentOn_concat
    {id : PadId}
    {control : Control}
    (isChord : Pad.isChordControl control)
    {calls : List Call}
    {call : Call}
    (noSwallow : ¬SwallowsFresh calls call)
    (unspent : UnspentOn id control (after (calls ++ [call]))) :
    (SeenPress id control calls call ∧
        .action .keyboard ∉ stemming id (after calls) call) ∨
      (UnspentOn id control (after calls) ∧
        StaysHeld id control calls call ∧
        .action .keyboard ∉ stemming id (after calls) call) := by
  obtain ⟨isFrontend, pad, found, armed, held, fresh⟩ := unspent
  have stays : StaysHeld id control calls call := by
    rw [StaysHeld, heldOn_of_lookup found]
    exact held
  rw [after_concat] at found isFrontend
  cases padStep_of_lookup found with
  | edge edge pressed now keyboardEnabled =>
      have owned : (after calls).owner = .frontend := isFrontend
      rw [Pad.button_armed] at armed
      rw [owned] at held fresh
      obtain ⟨origin, silent⟩ :=
        Pad.button_unspent armed isChord held fresh
      have noKeyboard : .action .keyboard ∉ stemming id (after calls)
          (.button id edge pressed now keyboardEnabled) := by
        rw [stemming, if_pos rfl, button, owned]
        exact silent
      cases known : (after calls).pads.lookup id with
      | none =>
          rw [known] at armed
          cases armed
      | some old =>
          rw [known] at armed origin
          have heldOld : (after calls).heldOn id = old.held :=
            heldOn_of_lookup known
          rcases origin with ⟨rfl, rfl, notHeld, seen | swallows⟩ |
            ⟨wasHeld, wasFresh⟩
          · refine Or.inl ⟨⟨⟨now, keyboardEnabled, rfl, ?_⟩, ?_, owned, ?_⟩,
              noKeyboard⟩
            · rw [heldOld]
              exact notHeld
            · rw [Ownership.armed, known]
              exact armed
            · rw [heldOld]
              exact seen
          · exact absurd ⟨id, edge, now, keyboardEnabled, old, rfl, owned,
              known, swallows⟩ noSwallow
          · exact Or.inr ⟨⟨owned, old, known, armed, wasHeld, wasFresh⟩, stays,
              noKeyboard⟩
  | tick order now old known =>
      rw [Pad.tick_held] at held
      have wasArmed : old.armed = true :=
        ((old.tick_armed now).mp armed).resolve_right
          (Finset.ne_empty_of_mem held)
      obtain ⟨repeating, updated, _⟩ := old.tick_eq now
      have wasFresh : old.spent control = false := by
        rw [← fresh, updated]
        exact Pad.spent_congr old.arm_startUsed.symm old.arm_selectUsed.symm
          control
      refine Or.inr ⟨⟨isFrontend, old, known, wasArmed, held, wasFresh⟩, stays,
        ?_⟩
      intro stems
      rw [stemming, known] at stems
      cases move_of_mem_tick known stems
  | taken owner old known changed => cases armed
  | suspended old known => cases armed
  | kept call old known passes =>
      rcases owner_step (after calls) call with same | ⟨owner, rfl, changed⟩
      · exact Or.inr ⟨⟨same ▸ isFrontend, pad, known, armed, held, fresh⟩,
          stays, by simp [stemming_of_passesBy passes]⟩
      · exact absurd passes changed

/-- Where no fresh press is swallowed, an unspent hold was begun by a press
the frontend saw. -/
theorem heldUnspent_of_unspentOn
    {id : PadId}
    {control : Control}
    (isChord : Pad.isChordControl control)
    (calls : List Call)
    (noSwallow : Throughout (fun before call => ¬SwallowsFresh before call)
      [] calls)
    (unspent : UnspentOn id control (after calls)) :
    HeldUnspent id control calls := by
  refine since_of_flag
    (fun calls =>
      Throughout (fun before call => ¬SwallowsFresh before call) [] calls ∧
        UnspentOn id control (after calls))
    ?_ ?_ calls ⟨noSwallow, unspent⟩
  · rintro ⟨_, _, pad, found, _⟩
    cases found
  · rintro history call ⟨clean, up⟩
    rw [throughout_concat, List.nil_append] at clean
    rcases unspentOn_concat isChord clean.2 up with seen | ⟨before, quiet⟩
    · exact Or.inl seen
    · exact Or.inr ⟨⟨clean.1, before⟩, quiet⟩

/-- In a run that swallows no press of Start or Select whose flag is unset,
every `FilterPanel` and every `Action::Keyboard` consumes presses that the
frontend saw and that went into no chord before. -/
theorem chords_consume_seen_presses
    (calls : List Call)
    (noSwallow : Throughout (fun before call => ¬SwallowsFresh before call)
      [] calls)
    (call : Call)
    (id : PadId) :
    Consumes id calls call := by
  constructor
  · intro stems
    rcases mem_stemming_cases stems with
      ⟨control, pressed, now, keyboardEnabled, rfl, returned⟩ |
        ⟨order, now, pad, rfl, known, emitted⟩
    · have edge := Pad.edge_of_mem_button returned
      obtain ⟨owned, rfl, rfl, held, fresh⟩ :=
        Pad.filterPanel_mem_button returned
      refine ⟨⟨now, keyboardEnabled, rfl⟩, ?_⟩
      obtain ⟨pad, known, _⟩ := lookup_of_mem_heldOn held
      rw [known] at edge held fresh
      exact heldUnspent_of_unspentOn (Or.inr rfl) calls noSwallow
        ⟨owned, pad, known, edge.2, held, fresh⟩
    · cases move_of_mem_tick known emitted
  · intro stems
    rcases mem_stemming_cases stems with
      ⟨control, pressed, now, keyboardEnabled, rfl, returned⟩ |
        ⟨order, now, pad, rfl, known, emitted⟩
    · have edge := Pad.edge_of_mem_button returned
      obtain ⟨owned, rfl, notHeld, noGuide, other, pair, held, fresh⟩ :=
        Pad.keyboard_action_mem_button returned
      obtain ⟨pad, known, _⟩ := lookup_of_mem_heldOn held
      have isChord : Pad.isChordControl other := by
        rcases pair with ⟨_, rfl⟩ | ⟨_, rfl⟩
        · exact Or.inr rfl
        · exact Or.inl rfl
      refine ⟨control, other, pair,
        ⟨⟨now, keyboardEnabled, rfl, notHeld⟩, ?_, owned, noGuide⟩, ?_⟩
      · rw [known] at edge
        rw [Ownership.armed, known]
        exact edge.2
      · rw [known] at edge held fresh
        exact heldUnspent_of_unspentOn isChord calls noSwallow
          ⟨owned, pad, known, edge.2, held, fresh⟩
    · cases move_of_mem_tick known emitted

/-- A swallowed press finds Guide held. -/
theorem SwallowsFresh.guide_held
    {calls : List Call}
    {call : Call}
    (swallows : SwallowsFresh calls call) :
    ∃ id control now keyboardEnabled,
      call = .button id control true now keyboardEnabled ∧
        .guide ∈ (after calls).heldOn id := by
  obtain ⟨id, control, now, keyboardEnabled, pad, rfl, _, known, fresh⟩ :=
    swallows
  refine ⟨id, control, now, keyboardEnabled, rfl, ?_⟩
  rw [heldOn_of_lookup known]
  exact fresh.2.1

theorem chords_consume_seen_presses_select :
    (∃ now keyboardEnabled,
      (.button 0 .select false 3 false : Call) =
        .button 0 .select false now keyboardEnabled) ∧
      HeldUnspent 0 .select
        [.setOwner .frontend, .button 0 .west false 0 false,
          .tick .stored 1, .button 0 .select true 2 false] := by
  refine (chords_consume_seen_presses
    [.setOwner .frontend, .button 0 .west false 0 false, .tick .stored 1,
      .button 0 .select true 2 false] ?_ (.button 0 .select false 3 false)
    0).1 (by decide)
  refine ⟨?_, ?_, ?_, ?_, trivial⟩ <;> intro swallows <;>
    obtain ⟨id, control, now, keyboardEnabled, same, held⟩ :=
      swallows.guide_held <;>
    cases same
  revert held
  decide

/-- A Select press swallowed under Guide opens the filter panel when it is
released: its flag is unset because the pad is fresh. -/
theorem swallowed_select_opens_filterPanel :
    ¬Consumes 0
      [.setOwner .frontend, .button 0 .west false 0 false, .tick .stored 1,
        .button 0 .guide true 2 false, .button 0 .select true 3 false,
        .button 0 .guide false 4 false]
      (.button 0 .select false 5 false) := by
  intro consumes
  obtain ⟨_, before, press, later, split, ⟨⟨edge, seen⟩, _⟩, _⟩ :=
    consumes.1 (by decide)
  obtain ⟨now, keyboardEnabled, rfl, _⟩ := edge
  -- The only Select press of the run is the one made under Guide.
  simp [List.cons_eq_append_iff] at split
  obtain ⟨rfl, _⟩ := split
  exact absurd seen.2.2 (by decide)

end Ownership
end Input
end Hearthdeck
