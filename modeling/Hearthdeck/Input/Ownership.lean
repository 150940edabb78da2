import Hearthdeck.Foundation.Machine
import Hearthdeck.Foundation.History
import Hearthdeck.Input.Mapping
import Hearthdeck.Protocol.Input
import Mathlib.Data.Finset.Basic

/-!
# Controller ownership

`Ownership` turns button edges into semantic signals for whoever owns the
controllers.  Held controls, chords and repeat are kept per pad; the owner is
shared.  This module embeds the source, names what one pad can do at a button
edge (`ButtonOutcome`), and projects the machine to a single pad.
-/

namespace Hearthdeck
namespace Input

open Foundation Protocol

/-- Who receives controller input (`ownership::Owner`). -/
inductive Owner
  | observe
  | frontend
  | textEntry
  | desktop
  | overlay
  | keyboard
  deriving DecidableEq, Repr

/-- What a button edge or a repeat asks the broker to do
(`ownership::Signal`). -/
inductive Signal
  | action (action : Action)
  | keyboard
  deriving DecidableEq, Repr

/-- Action of a control on an interactive surface (`ownership::action`). -/
def action : Control → Option Action
  | .south => some .confirm
  | .east => some .back
  | .west => some .contextMenu
  | .north => some .search
  | .leftBumper => some .prevGroup
  | .rightBumper => some .nextGroup
  | .leftTrigger => some .prevTab
  | .rightTrigger => some .nextTab
  | .dpadUp => some .moveUp
  | .stickUp => some .moveUp
  | .dpadDown => some .moveDown
  | .stickDown => some .moveDown
  | .dpadLeft => some .moveLeft
  | .stickLeft => some .moveLeft
  | .dpadRight => some .moveRight
  | .stickRight => some .moveRight
  | .other _ => none
  | .start => none
  | .select => none
  | .guide => none
  | .pointerLeft => none
  | .pointerRight => none
  | .pointerUp => none
  | .pointerDown => none

/-- The actions that repeat while their control is held. -/
def isMove : Action → Bool
  | .moveUp => true
  | .moveDown => true
  | .moveLeft => true
  | .moveRight => true
  | _ => false

/-- What is remembered about one pad (`ownership::Pad`). -/
structure Pad where
  /-- Controls that are held. -/
  held : Finset Control := ∅
  /-- Whether the pad was neutral since its owner last changed. -/
  armed : Bool := false
  /-- Whether the current Guide hold is spent. -/
  guideUsed : Bool := false
  /-- Whether the current Select hold is spent. -/
  selectUsed : Bool := false
  /-- Whether the current Start hold is spent. -/
  startUsed : Bool := false
  /-- The repeating action and when it is due. -/
  repeating : Option (Action × Nat) := none
  deriving DecidableEq

/-- The owner and every known pad (`ownership::Ownership`). -/
structure Ownership where
  /-- Who receives input. -/
  owner : Owner := .observe
  /-- Every pad with an event since it was last removed. -/
  pads : Table PadId Pad := ∅

namespace Pad

/-- Disarm a pad and spend whatever it holds, the loop body of
`Ownership::suspend`. -/
def suspend (pad : Pad) : Pad :=
  { pad with
    armed := false
    repeating := none
    guideUsed := true
    selectUsed := true
    startUsed := true }

/-- Record an edge among the held controls. -/
def touch (pad : Pad) (control : Control) (pressed : Bool) : Pad :=
  { pad with held :=
      if pressed then insert control pad.held else pad.held.erase control }

/-- Whether recording the edge changes the held controls. -/
def changes (pad : Pad) (control : Control) (pressed : Bool) : Bool :=
  if pressed then decide (control ∉ pad.held) else decide (control ∈ pad.held)

/-- The part of `Ownership::button` that only runs for the frontend: the
Start and Select chord, and Select alone on release.  `none` lets the edge
fall through to navigation. -/
def chord
    (pad : Pad)
    (control : Control)
    (pressed : Bool) : Pad × Option (List Signal) :=
  let pad :=
    if pressed ∧ control = .start then { pad with startUsed := false }
    else pad
  let pad :=
    if pressed ∧ control = .select then { pad with selectUsed := false }
    else pad
  if pressed ∧ (control = .start ∨ control = .select) ∧
      .start ∈ pad.held ∧ .select ∈ pad.held ∧
      pad.startUsed = false ∧ pad.selectUsed = false then
    ({ pad with startUsed := true, selectUsed := true },
      some [.action .keyboard])
  else if control = .select ∧ pressed = false ∧ pad.selectUsed = false then
    (pad, some [.action .filterPanel])
  else
    (pad, none)

/-- The end of `Ownership::button`: navigation and its repeat. -/
def navigate
    (pad : Pad)
    (control : Control)
    (pressed : Bool)
    (now : Nat) : Pad × List Signal :=
  match action control with
  | none => (pad, [])
  | some action =>
      if pressed = false then
        if pad.repeating.any fun active => active.1 == action then
          ({ pad with repeating := none }, [])
        else
          (pad, [])
      else if isMove action then
        ({ pad with repeating := some (action, now + 400) },
          [.action action])
      else
        (pad, [.action action])

/-- The part of `Ownership::button` behind the owner checks: the frontend's
chords first, then navigation. -/
def interact
    (pad : Pad)
    (owner : Owner)
    (control : Control)
    (pressed : Bool)
    (now : Nat) : Pad × List Signal :=
  let consumed :=
    if owner = .frontend then pad.chord control pressed else (pad, none)
  match consumed.2 with
  | some signals => (consumed.1, signals)
  | none => consumed.1.navigate control pressed now

/-- The body of `Ownership::button` on the pad the edge belongs to. -/
def button
    (pad : Pad)
    (owner : Owner)
    (control : Control)
    (pressed : Bool)
    (now : Nat)
    (keyboardEnabled : Bool) : Pad × List Signal :=
  let changed := pad.changes control pressed
  let pad := pad.touch control pressed
  if changed = false ∨ pad.armed = false then
    (pad, [])
  else if control = .guide then
    if pressed then
      ({ pad with guideUsed := false, repeating := none }, [])
    else if pad.guideUsed = false then
      (pad, [.action .toggleOverlay])
    else
      (pad, [])
  else if pressed ∧ control = .west ∧ .guide ∈ pad.held then
    if pad.guideUsed = false ∧ keyboardEnabled ∧
        (owner = .observe ∨ owner = .desktop) then
      ({ pad with guideUsed := true }, [.keyboard])
    else
      (pad, [])
  else if .guide ∈ pad.held then
    (pad, [])
  else if owner = .textEntry then
    if control = .east ∧ pressed then (pad, [.action .back]) else (pad, [])
  else if ¬(owner = .frontend ∨ owner = .overlay) then
    (pad, [])
  else
    pad.interact owner control pressed now

/-- Arm a neutral pad, the first half of the loop body of
`Ownership::tick`. -/
def arm (pad : Pad) : Pad :=
  if pad.armed = false ∧ pad.held = ∅ then { pad with armed := true }
  else pad

/-- Emit a repeat that is due, the second half of the loop body of
`Ownership::tick`. -/
def emitRepeat (pad : Pad) (now : Nat) : Pad × List Signal :=
  match pad.repeating with
  | none => (pad, [])
  | some (action, due) =>
      if pad.armed ∧ due ≤ now then
        ({ pad with repeating := some (action, now + 180) },
          [.action action])
      else
        (pad, [])

/-- The loop body of `Ownership::tick`. -/
def tick (pad : Pad) (now : Nat) : Pad × List Signal :=
  pad.arm.emitRepeat now

end Pad

namespace Ownership

/-- Disarm every pad (`Ownership::suspend`). -/
def suspend (state : Ownership) : Ownership :=
  { state with pads := Table.mapValues (fun _ pad => pad.suspend) state.pads }

/-- Hand the controllers to an owner (`Ownership::set_owner`). -/
def setOwner (state : Ownership) (owner : Owner) : Ownership :=
  if state.owner ≠ owner then
    suspend { state with owner := owner }
  else
    state

/-- Forget a pad (`Ownership::remove`). -/
def remove (state : Ownership) (id : PadId) : Ownership :=
  { state with pads := state.pads.erase id }

/-- Whether a pad is armed (`Ownership::armed`). -/
def armed (state : Ownership) (id : PadId) : Bool :=
  (state.pads.lookup id).any fun pad => pad.armed

/-- Whether a pad holds Guide (`Ownership::guide_held`). -/
def guideHeld (state : Ownership) (id : PadId) : Bool :=
  (state.pads.lookup id).any fun pad => decide (.guide ∈ pad.held)

/-- One button edge (`Ownership::button`). -/
def button
    (state : Ownership)
    (id : PadId)
    (control : Control)
    (pressed : Bool)
    (now : Nat)
    (keyboardEnabled : Bool) : Ownership × List Signal :=
  let pad := (state.pads.lookup id).getD {}
  let result := pad.button state.owner control pressed now keyboardEnabled
  ({ state with pads := state.pads.insert id result.1 }, result.2)

/-- One clock tick (`Ownership::tick`).  The pads come up in hash order. -/
def tick
    (state : Ownership)
    (order : HashOrder)
    (now : Nat) : Ownership × List Signal :=
  ({ state with
      pads := Table.mapValues (fun _ pad => (pad.tick now).1) state.pads },
    (order.visit state.pads.entries).flatMap fun entry =>
      (entry.2.tick now).2)

/-- A call of the interface of `Ownership`. -/
inductive Call
  | button
      (id : PadId) (control : Control) (pressed : Bool)
      (now : Nat) (keyboardEnabled : Bool)
  | tick (order : HashOrder) (now : Nat)
  | setOwner (owner : Owner)
  | suspend
  | remove (id : PadId)

/-- One call and the signals it returns. -/
def step (state : Ownership) : Call → Ownership × List Signal
  | .button id control pressed now keyboardEnabled =>
      state.button id control pressed now keyboardEnabled
  | .tick order now => state.tick order now
  | .setOwner owner => (state.setOwner owner, [])
  | .suspend => (state.suspend, [])
  | .remove id => (state.remove id, [])

/-- `Ownership` as a machine started by `Ownership::default`. -/
def machine : Machine Ownership Call Signal where
  start := {}
  step := step

/-- The state after a list of calls. -/
abbrev after (calls : List Call) : Ownership :=
  machine.run calls

end Ownership
end Input
end Hearthdeck
