import Hearthdeck.Input.Neutral

/-!
# Guide exclusivity

A Guide hold is worth one signal at most: `Keyboard` when West completes the
chord, or the overlay toggle on release.  Whether the hold is spent is kept in
`guideUsed`, which only an armed press edge of Guide resets; the results below
read the flag back as a statement about the history of the hold.
-/

namespace Hearthdeck
namespace Input

open Foundation Protocol History

namespace Pad

/-- How many signals the current Guide hold may still yield. -/
def allowance (pad : Pad) : Nat :=
  if pad.armed = true ∧ pad.guideUsed = false then 1 else 0

@[simp] theorem touch_allowance
    (pad : Pad)
    (control : Control)
    (pressed : Bool) :
    (pad.touch control pressed).allowance = pad.allowance := rfl

/-- While Guide is held an edge returns `Keyboard` for West, or the overlay
toggle for Guide itself. -/
theorem mem_button_of_guide_held
    {pad : Pad}
    {owner : Owner}
    {control : Control}
    {pressed : Bool}
    {now : Nat}
    {keyboardEnabled : Bool}
    {signal : Signal}
    (guideHeld : .guide ∈ pad.held)
    (returned : signal ∈
      (pad.button owner control pressed now keyboardEnabled).2) :
    (signal = .keyboard ∧ control = .west ∧ pressed = true) ∨
      (signal = .action .toggleOverlay ∧ control = .guide ∧
        pressed = false) := by
  have outcome :=
    pad.button_outcome owner control pressed now keyboardEnabled
  generalize pad.button owner control pressed now keyboardEnabled = result
    at outcome returned
  cases outcome with
  | guideReleased edge isGuide isReleased =>
      cases used : pad.guideUsed <;> simp [used] at returned
      exact Or.inr ⟨returned, isGuide, isReleased⟩
  | keyboardOpened edge isWest isPressed _ _ _ _ =>
      exact Or.inl ⟨by simpa using returned, isWest, isPressed⟩
  | _ => simp_all

/-- `Keyboard` is returned for a West press while Guide is held, and spends
the hold. -/
theorem keyboard_mem_button
    {pad : Pad}
    {owner : Owner}
    {control : Control}
    {pressed : Bool}
    {now : Nat}
    {keyboardEnabled : Bool}
    (returned : .keyboard ∈
      (pad.button owner control pressed now keyboardEnabled).2) :
    control = .west ∧ pressed = true ∧ .guide ∈ pad.held ∧
      (pad.button owner control pressed now keyboardEnabled).1.guideUsed =
        true := by
  have outcome :=
    pad.button_outcome owner control pressed now keyboardEnabled
  generalize pad.button owner control pressed now keyboardEnabled = result
    at outcome returned ⊢
  cases outcome with
  | guideReleased edge isGuide isReleased =>
      cases used : pad.guideUsed <;> simp [used] at returned
  | keyboardOpened edge isWest isPressed guideHeld _ _ _ =>
      exact ⟨isWest, isPressed, guideHeld, rfl⟩
  | _ => simp_all

/-- While Guide is held, asking for the keyboard is what spends the hold. -/
theorem button_guideUsed
    {pad : Pad}
    {owner : Owner}
    {control : Control}
    {pressed : Bool}
    {now : Nat}
    {keyboardEnabled : Bool}
    (guideHeld : .guide ∈ pad.held) :
    (pad.button owner control pressed now keyboardEnabled).1.guideUsed =
        true ↔
      pad.guideUsed = true ∨
        .keyboard ∈
          (pad.button owner control pressed now keyboardEnabled).2 := by
  have outcome :=
    pad.button_outcome owner control pressed now keyboardEnabled
  generalize pad.button owner control pressed now keyboardEnabled = result
    at outcome ⊢
  cases outcome with
  | ignored noEdge => simp
  | guidePressed edge isGuide isPressed =>
      subst isGuide isPressed
      exact absurd guideHeld ((pad.changes_pressed _).mp edge.1)
  | guideReleased edge isGuide isReleased =>
      cases used : pad.guideUsed <;> simp [used]
  | keyboardOpened edge isWest isPressed _ unused _ _ => simp
  | swallowed edge notGuide _ => simp
  | _ => contradiction

/-- A Guide press returns nothing. -/
theorem button_guide_press_silent
    (pad : Pad)
    (owner : Owner)
    (now : Nat)
    (keyboardEnabled : Bool) :
    (pad.button owner .guide true now keyboardEnabled).2 = [] := by
  by_cases skipped : pad.changes .guide true = false ∨ pad.armed = false <;>
    simp [button, skipped]

/-- A press edge of Guide on an armed pad starts an unspent hold. -/
theorem button_guide_press
    {pad : Pad}
    {owner : Owner}
    {now : Nat}
    {keyboardEnabled : Bool}
    (armed : pad.armed = true)
    (notHeld : .guide ∉ pad.held) :
    (pad.button owner .guide true now keyboardEnabled).1.guideUsed = false := by
  have changed : pad.changes .guide true = true :=
    (pad.changes_pressed _).mpr notHeld
  simp [button, changed, armed]

/-- The release edge of Guide on an armed pad toggles the overlay unless the
hold is spent. -/
theorem button_guide_release
    {pad : Pad}
    {owner : Owner}
    {now : Nat}
    {keyboardEnabled : Bool}
    (armed : pad.armed = true)
    (guideHeld : .guide ∈ pad.held) :
    (pad.button owner .guide false now keyboardEnabled).2 =
      if pad.guideUsed then [] else [.action .toggleOverlay] := by
  have changed : pad.changes .guide false = true :=
    (pad.changes_released _).mpr guideHeld
  cases used : pad.guideUsed <;> simp [button, changed, armed, used]

/-- Every edge while Guide is held draws its signals from the allowance. -/
theorem button_allowance
    {pad : Pad}
    {owner : Owner}
    {control : Control}
    {pressed : Bool}
    {now : Nat}
    {keyboardEnabled : Bool}
    (guideHeld : .guide ∈ pad.held) :
    (pad.button owner control pressed now keyboardEnabled).2.length ≤
        pad.allowance ∧
      (.guide ∈ (pad.button owner control pressed now
          keyboardEnabled).1.held →
        (pad.button owner control pressed now keyboardEnabled).2.length +
            (pad.button owner control pressed now
              keyboardEnabled).1.allowance ≤ pad.allowance) := by
  have outcome :=
    pad.button_outcome owner control pressed now keyboardEnabled
  generalize pad.button owner control pressed now keyboardEnabled = result
    at outcome ⊢
  cases outcome with
  | ignored noEdge => simp
  | guidePressed edge isGuide isPressed =>
      subst isGuide isPressed
      exact absurd guideHeld ((pad.changes_pressed _).mp edge.1)
  | guideReleased edge isGuide isReleased =>
      subst isGuide isReleased
      cases used : pad.guideUsed <;> simp [allowance, edge.2, used]
  | keyboardOpened edge isWest isPressed _ unused _ _ =>
      simp [allowance, edge.2, unused]
  | swallowed edge notGuide _ => simp
  | _ => contradiction

/-- A tick leaves the allowance of a pad that holds something alone. -/
theorem tick_allowance
    {pad : Pad}
    (now : Nat)
    (notNeutral : pad.held ≠ ∅) :
    (pad.tick now).1.allowance = pad.allowance := by
  obtain ⟨repeating, updated, _⟩ := pad.tick_eq now
  have unarmed : pad.arm = pad := by
    unfold arm
    rw [if_neg (fun both => notNeutral both.2)]
  rw [updated, unarmed]
  rfl

end Pad

namespace Ownership

/-- Signals stemming from a pad over a list of calls made from a state. -/
def signalsFrom (id : PadId) : Ownership → List Call → List Signal
  | _, [] => []
  | state, call :: later =>
      stemming id state call ++ signalsFrom id (state.step call).1 later

/-- The call leaves Guide held on the pad, and the pad does not ask for the
keyboard at it. -/
def HoldsUnspent (id : PadId) (before : List Call) (call : Call) : Prop :=
  StaysHeld id .guide before call ∧ .keyboard ∉ stemming id (after before) call

/-- The call concerns the pad: it is not an edge or the removal of another
one. -/
def Concerns (id : PadId) : Call → Bool
  | .button other _ _ _ _ => other == id
  | .remove other => other == id
  | _ => true

/-! ## Deleting the calls of other pads -/

theorem signalsFrom_eq
    (id : PadId)
    (state : Ownership)
    (calls : List Call) :
    signalsFrom id state calls =
      (padMachine id).outputsFrom (state.view id) calls := by
  induction calls generalizing state with
  | nil => rfl
  | cons call later inductionHypothesis =>
      rw [signalsFrom, Machine.outputsFrom_cons, stemming_eq,
        inductionHypothesis, view_step]
      rfl

/-- The machine of one pad does not notice the calls of other pads. -/
theorem padMachine_silent
    (id : PadId)
    (view : View)
    (call : Call)
    (unconcerned : Concerns id call = false) :
    (padMachine id).step view call = (view, []) := by
  cases call with
  | button other control pressed now keyboardEnabled =>
      have different : other ≠ id := by simpa [Concerns] using unconcerned
      simp [padMachine, View.step, different]
  | remove other =>
      have different : other ≠ id := by simpa [Concerns] using unconcerned
      simp [padMachine, View.step, different]
  | tick order now => cases unconcerned
  | setOwner owner => cases unconcerned
  | suspend => cases unconcerned

/-- The signals of a pad do not depend on the calls of other pads. -/
theorem signalsFrom_filter_concerns
    (id : PadId)
    (state : Ownership)
    (calls : List Call) :
    signalsFrom id state (calls.filter (Concerns id)) =
      signalsFrom id state calls := by
  rw [signalsFrom_eq, signalsFrom_eq]
  exact (padMachine id).outputsFrom_filter (Concerns id)
    (padMachine_silent id) (state.view id) calls

/-! ## What stems from a pad that holds Guide -/

/-- A pad that holds Guide repeats nothing. -/
theorem not_mem_tick_of_guide_held
    {id : PadId}
    {calls : List Call}
    {pad : Pad}
    (known : (after calls).pads.lookup id = some pad)
    (guideHeld : .guide ∈ pad.held)
    (now : Nat)
    (signal : Signal) :
    signal ∉ (pad.tick now).2 := by
  intro emitted
  obtain ⟨repeated, due, active, _⟩ := (pad.mem_tick_iff now signal).mp emitted
  obtain ⟨_, _, _, noGuide, _⟩ :=
    repeatsHeld_after calls known repeated due active
  exact noGuide guideHeld

/-- From a pad that holds Guide stem `Keyboard` at a West press, and the
overlay toggle at the release of Guide. -/
theorem mem_stemming_of_guide_held
    {id : PadId}
    {calls : List Call}
    {call : Call}
    {signal : Signal}
    (guideHeld : .guide ∈ (after calls).heldOn id)
    (stems : signal ∈ stemming id (after calls) call) :
    signal = .keyboard ∨
      (signal = .action .toggleOverlay ∧
        ∃ now keyboardEnabled,
          call = .button id .guide false now keyboardEnabled) := by
  rcases mem_stemming_cases stems with
    ⟨control, pressed, now, keyboardEnabled, rfl, returned⟩ |
      ⟨order, now, pad, rfl, known, emitted⟩
  · rcases Pad.mem_button_of_guide_held guideHeld returned with
      ⟨rfl, _⟩ | ⟨rfl, rfl, rfl⟩
    · exact Or.inl rfl
    · exact Or.inr ⟨rfl, now, keyboardEnabled, rfl⟩
  · rw [heldOn_of_lookup known] at guideHeld
    exact absurd emitted (not_mem_tick_of_guide_held known guideHeld now signal)

/-- `Keyboard` stems from a pad at a West press edge while Guide is held. -/
theorem keyboard_mem_stemming
    {id : PadId}
    {calls : List Call}
    {call : Call}
    (stems : .keyboard ∈ stemming id (after calls) call) :
    PressEdge id .west calls call ∧ .guide ∈ (after calls).heldOn id := by
  rcases mem_stemming_cases stems with
    ⟨control, pressed, now, keyboardEnabled, rfl, returned⟩ |
      ⟨order, now, pad, rfl, known, emitted⟩
  · obtain ⟨rfl, rfl, guideHeld, _⟩ := Pad.keyboard_mem_button returned
    have edge := (Pad.edge_of_mem_button returned).1
    rw [Pad.changes_pressed] at edge
    exact ⟨⟨now, keyboardEnabled, rfl, edge⟩, guideHeld⟩
  · obtain ⟨_, _, _, _, _, different⟩ :=
      (pad.mem_tick_iff now .keyboard).mp emitted
    cases different

/-- While Guide stays held nothing but `Keyboard` stems from the pad. -/
theorem eq_keyboard_of_mem_stemming
    {id : PadId}
    {calls : List Call}
    {call : Call}
    {signal : Signal}
    (stays : StaysHeld id .guide calls call)
    (stems : signal ∈ stemming id (after calls) call) :
    signal = .keyboard := by
  by_cases before : .guide ∈ (after calls).heldOn id
  · rcases mem_stemming_of_guide_held before stems with
      rfl | ⟨rfl, now, keyboardEnabled, rfl⟩
    · rfl
    · obtain ⟨pad, found, member⟩ := lookup_of_mem_heldOn stays
      rw [after_concat] at found
      cases padStep_of_lookup found with
      | edge => simp [Pad.button_held] at member
      | kept call old known passes => exact absurd rfl passes
  · obtain ⟨now, keyboardEnabled, rfl, _⟩ := pressEdge_of_held before stays
    rcases mem_stemming_cases stems with
      ⟨control, pressed, now', keyboardEnabled', same, returned⟩ |
        ⟨order, now', pad, same, _⟩
    · cases same
      rw [Pad.button_guide_press_silent] at returned
      cases returned
    · cases same

/-- Over one call of a Guide hold an armed pad stays armed, and the hold is
spent by asking for the keyboard. -/
theorem guideUsed_concat
    {id : PadId}
    {calls : List Call}
    {call : Call}
    {old pad : Pad}
    (known : (after calls).pads.lookup id = some old)
    (guideHeld : .guide ∈ old.held)
    (found : (after (calls ++ [call])).pads.lookup id = some pad)
    (armed : pad.armed = true) :
    old.armed = true ∧
      (pad.guideUsed = true ↔
        old.guideUsed = true ∨
          .keyboard ∈ stemming id (after calls) call) := by
  rw [after_concat] at found
  cases padStep_of_lookup found with
  | edge control pressed now keyboardEnabled =>
      rw [known] at armed ⊢
      refine ⟨(old.button_armed _ _ _ _ _).symm.trans armed, ?_⟩
      rw [Option.getD_some, Pad.button_guideUsed guideHeld, stemming,
        if_pos rfl, button, known]
      rfl
  | tick order now old' known' =>
      cases known.symm.trans known'
      have notNeutral : old.held ≠ ∅ := Finset.ne_empty_of_mem guideHeld
      refine ⟨((old.tick_armed now).mp armed).resolve_right notNeutral, ?_⟩
      obtain ⟨repeating, updated, _⟩ := old.tick_eq now
      have silent :
          .keyboard ∉ stemming id (after calls) (.tick order now) := by
        simpa [stemming, known] using
          not_mem_tick_of_guide_held known guideHeld now .keyboard
      simp [updated, silent]
  | taken owner old' known' changed => cases armed
  | suspended old' known' => cases armed
  | kept call old' known' passes =>
      cases known.symm.trans known'
      simp [armed, stemming_of_passesBy passes]

/-- On an armed pad that holds Guide the hold is unspent exactly when the pad
did not ask for the keyboard since Guide was pressed. -/
theorem guideUsed_eq_false_iff
    (id : PadId)
    (calls : List Call)
    {pad : Pad}
    (found : (after calls).pads.lookup id = some pad)
    (armed : pad.armed = true)
    (guideHeld : .guide ∈ pad.held) :
    pad.guideUsed = false ↔
      Since (PressEdge id .guide) (HoldsUnspent id) calls := by
  induction calls using List.reverseRecOn generalizing pad with
  | nil => cases found
  | append_singleton calls call inductionHypothesis =>
      have stays : StaysHeld id .guide calls call := by
        rw [StaysHeld, heldOn_of_lookup found]
        exact guideHeld
      rw [since_concat]
      by_cases before : .guide ∈ (after calls).heldOn id
      · obtain ⟨old, known, oldGuide⟩ := lookup_of_mem_heldOn before
        obtain ⟨oldArmed, spent⟩ :=
          guideUsed_concat known oldGuide found armed
        have noPress : ¬PressEdge id .guide calls call := by
          rintro ⟨_, _, _, absent⟩
          exact absent before
        rw [← inductionHypothesis known oldArmed oldGuide, HoldsUnspent,
          ← Bool.not_eq_true, ← Bool.not_eq_true, spent]
        simp [noPress, stays]
      · have press := pressEdge_of_held before stays
        refine iff_of_true ?_ (Or.inl press)
        obtain ⟨now, keyboardEnabled, rfl, absent⟩ := press
        rw [after_concat] at found
        cases padStep_of_lookup found with
        | edge =>
            rw [Pad.button_armed] at armed
            exact Pad.button_guide_press armed absent
        | kept call old known passes => exact absurd rfl passes

/-! ## One hold -/

/-- How many signals the Guide hold of a pad may still yield. -/
def allowanceOn (state : Ownership) (id : PadId) : Nat :=
  ((state.pads.lookup id).getD {}).allowance

theorem allowanceOn_le_one
    (state : Ownership)
    (id : PadId) :
    state.allowanceOn id ≤ 1 := by
  unfold allowanceOn Pad.allowance
  split <;> simp

/-- Signals stemming from a pad that holds Guide are drawn from the allowance
of the hold. -/
theorem stemming_length_le
    {id : PadId}
    {calls : List Call}
    (call : Call)
    (guideHeld : .guide ∈ (after calls).heldOn id) :
    (stemming id (after calls) call).length ≤ (after calls).allowanceOn id ∧
      (StaysHeld id .guide calls call →
        (stemming id (after calls) call).length +
            (after (calls ++ [call])).allowanceOn id ≤
          (after calls).allowanceOn id) := by
  obtain ⟨old, known, oldGuide⟩ := lookup_of_mem_heldOn guideHeld
  have allowed : (after calls).allowanceOn id = old.allowance := by
    rw [allowanceOn, known]
    rfl
  have silentTick : ∀ order now,
      stemming id (after calls) (.tick order now) = [] := by
    intro order now
    rw [List.eq_nil_iff_forall_not_mem]
    intro signal stems
    rw [stemming, known] at stems
    exact not_mem_tick_of_guide_held known oldGuide now signal stems
  have edgeSignals : ∀ control pressed now keyboardEnabled,
      stemming id (after calls)
          (.button id control pressed now keyboardEnabled) =
        (old.button (after calls).owner control pressed now
          keyboardEnabled).2 := by
    intro control pressed now keyboardEnabled
    rw [stemming, if_pos rfl, button, known]
    rfl
  rw [allowed]
  constructor
  · cases signals : stemming id (after calls) call with
    | nil => exact Nat.zero_le _
    | cons signal rest =>
        have stems : signal ∈ stemming id (after calls) call := by
          rw [signals]
          exact List.mem_cons_self
        rcases mem_stemming_cases stems with
          ⟨control, pressed, now, keyboardEnabled, rfl, _⟩ |
            ⟨order, now, pad, rfl, _⟩
        · rw [← signals, edgeSignals]
          exact (Pad.button_allowance oldGuide).1
        · rw [silentTick] at stems
          cases stems
  · intro stays
    obtain ⟨pad, found, member⟩ := lookup_of_mem_heldOn stays
    have after_allowed :
        (after (calls ++ [call])).allowanceOn id = pad.allowance := by
      rw [allowanceOn, found]
      rfl
    rw [after_allowed]
    rw [after_concat] at found
    cases padStep_of_lookup found with
    | edge control pressed now keyboardEnabled =>
        rw [edgeSignals, known]
        rw [known] at member
        exact (Pad.button_allowance oldGuide).2 member
    | tick order now old' known' =>
        cases known.symm.trans known'
        rw [silentTick,
          Pad.tick_allowance now (Finset.ne_empty_of_mem oldGuide)]
        simp
    | taken owner old' known' changed => exact Nat.zero_le _
    | suspended old' known' => exact Nat.zero_le _
    | kept call old' known' passes =>
        cases known.symm.trans known'
        rw [stemming_of_passesBy passes]
        simp

/-- What stems from a pad during a Guide hold and at the call that ends it is
drawn from the allowance of the hold. -/
theorem signalsFrom_hold
    {id : PadId}
    {calls during : List Call}
    (last : Call)
    (guideHeld : .guide ∈ (after calls).heldOn id)
    (hold : Throughout (StaysHeld id .guide) calls during) :
    (signalsFrom id (after calls) (during ++ [last])).length ≤
        (after calls).allowanceOn id ∧
      ∀ signal ∈ signalsFrom id (after calls) (during ++ [last]),
        signal = .keyboard ∨ signal = .action .toggleOverlay := by
  have one : ∀ calls call, .guide ∈ (after calls).heldOn id →
      ∀ signal ∈ stemming id (after calls) call,
        signal = .keyboard ∨ signal = .action .toggleOverlay := by
    intro calls call guideHeld signal stems
    exact (mem_stemming_of_guide_held guideHeld stems).imp_right And.left
  induction during generalizing calls with
  | nil =>
      simp only [List.nil_append, signalsFrom, List.append_nil]
      exact ⟨(stemming_length_le last guideHeld).1, one calls last guideHeld⟩
  | cons call later inductionHypothesis =>
      obtain ⟨stays, throughout⟩ := hold
      obtain ⟨bound, kinds⟩ := inductionHypothesis stays throughout
      have drawn := (stemming_length_le call guideHeld).2 stays
      rw [List.cons_append, signalsFrom, ← after_concat]
      constructor
      · rw [List.length_append]
        omega
      · intro signal member
        rcases List.mem_append.mp member with first | rest
        · exact one calls call guideHeld signal first
        · exact kinds signal rest

/-- While a pad holds Guide nothing but `Keyboard` stems from it.  Releasing
Guide on an armed pad toggles the overlay exactly when the pad did not ask for
the keyboard since the matching press; so a hold yields one of the two signals
at most, and at most once.  `Keyboard` needs Guide to be pressed on the same
pad before West, and nothing of this depends on what other pads do. -/
theorem guide_exclusive
    (calls : List Call)
    (id : PadId) :
    (∀ call signal,
      signal ∈ stemming id (after calls) call →
        (StaysHeld id .guide calls call → signal = .keyboard) ∧
        (.guide ∈ (after calls).heldOn id →
          signal = .keyboard ∨
            (signal = .action .toggleOverlay ∧
              ∃ now keyboardEnabled,
                call = .button id .guide false now keyboardEnabled))) ∧
    (∀ pad now keyboardEnabled,
      (after calls).pads.lookup id = some pad →
      pad.armed = true →
      .guide ∈ pad.held →
        (.action .toggleOverlay ∈ stemming id (after calls)
            (.button id .guide false now keyboardEnabled) ↔
          Since (PressEdge id .guide) (HoldsUnspent id) calls)) ∧
    (∀ press during last,
      PressEdge id .guide calls press →
      Throughout (StaysHeld id .guide) (calls ++ [press]) during →
        (signalsFrom id (after calls) (press :: during ++ [last])).length ≤
            1 ∧
          ∀ signal ∈ signalsFrom id (after calls) (press :: during ++ [last]),
            signal = .keyboard ∨ signal = .action .toggleOverlay) ∧
    (∀ call, .keyboard ∈ stemming id (after calls) call →
      PressEdge id .west calls call ∧
        Since (PressEdge id .guide) (StaysHeld id .guide) calls) ∧
    signalsFrom id {} (calls.filter (Concerns id)) =
      signalsFrom id {} calls := by
  refine ⟨?_, ?_, ?_, ?_, signalsFrom_filter_concerns id {} calls⟩
  · intro call signal stems
    exact ⟨fun stays => eq_keyboard_of_mem_stemming stays stems,
      fun guideHeld => mem_stemming_of_guide_held guideHeld stems⟩
  · intro pad now keyboardEnabled found armed guideHeld
    rw [← guideUsed_eq_false_iff id calls found armed guideHeld, stemming,
      if_pos rfl, button, found, Option.getD_some,
      Pad.button_guide_release armed guideHeld]
    cases used : pad.guideUsed <;> simp
  · intro press during last pressed hold
    have silent : stemming id (after calls) press = [] := by
      obtain ⟨now, keyboardEnabled, rfl, _⟩ := pressed
      rw [stemming, if_pos rfl, button]
      exact Pad.button_guide_press_silent _ _ _ _
    obtain ⟨bound, kinds⟩ := signalsFrom_hold last pressed.staysHeld hold
    rw [List.cons_append, signalsFrom, silent, ← after_concat,
      List.nil_append]
    exact ⟨bound.trans (allowanceOn_le_one _ id), kinds⟩
  · intro call stems
    obtain ⟨press, guideHeld⟩ := keyboard_mem_stemming stems
    exact ⟨press, since_press_of_held id .guide calls guideHeld⟩

/-- An edge of the first pad, where the keyboard may be asked for. -/
def firstPadEdge (control : Control) (pressed : Bool) : Call :=
  .button 0 control pressed 0 true

/-- The first pad is armed, and Guide is pressed on it. -/
def guidePressedCalls : List Call :=
  [firstPadEdge .south true, firstPadEdge .south false, .tick .stored 0,
    firstPadEdge .guide true]

-- A hold of Guide toggles the overlay, and one with West asks for the keyboard.
example :
    ((after guidePressedCalls).pads.lookup 0 =
        some { held := {.guide}, armed := true }) ∧
      stemming 0 (after guidePressedCalls) (firstPadEdge .guide false) =
        [.action .toggleOverlay] ∧
      StaysHeld 0 .guide guidePressedCalls (firstPadEdge .west true) ∧
      signalsFrom 0 (after guidePressedCalls)
          [firstPadEdge .west true, firstPadEdge .guide false] =
        [.keyboard] := by
  refine ⟨?_, ?_, ?_, ?_⟩
  · decide
  · decide
  · change Control.guide ∈
      (after (guidePressedCalls ++ [firstPadEdge .west true])).heldOn 0
    decide
  · decide

end Ownership
end Input
end Hearthdeck
