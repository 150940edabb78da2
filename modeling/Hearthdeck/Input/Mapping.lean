import Hearthdeck.Foundation.Machine
import Hearthdeck.Foundation.Table

/-!
# The compatibility mapper

Desktop applications get keyboard and mouse events instead of controller
events.  Several controls of several pads share one output key, so the mapper
counts the sources of every key and emits an event only when the first source
presses or the last one releases.
-/

namespace Hearthdeck
namespace Input

open Foundation

/-- A physical control of a pad (`mapping::Control`). -/
inductive Control
  | other (code : UInt16)
  | guide
  | pointerLeft
  | pointerRight
  | pointerUp
  | pointerDown
  | south
  | east
  | west
  | north
  | leftBumper
  | rightBumper
  | start
  | select
  | dpadLeft
  | dpadRight
  | dpadUp
  | dpadDown
  | stickLeft
  | stickRight
  | stickUp
  | stickDown
  | leftTrigger
  | rightTrigger
  deriving DecidableEq, Repr

/-- A key or mouse button of the virtual device (`mapping::OutputKey`). -/
inductive OutputKey
  | enter
  | escape
  | space
  | tab
  | pageUp
  | pageDown
  | left
  | right
  | up
  | down
  | mouseLeft
  | mouseRight
  deriving DecidableEq, Repr

/-- An event of the virtual device (`mapping::OutputEvent`). -/
inductive OutputEvent
  | key (key : OutputKey) (pressed : Bool)
  | mouseMove (x y : Int)
  deriving DecidableEq, Repr

/-- Identifier the broker gives a pad; it is never reused. -/
abbrev PadId := Nat

/-- A held control of one pad, the key of the mapper's source table. -/
abbrev Source := PadId × Control

/-- Axis deflection, in thousandths, below which nothing is pressed
(`mapping::DEADZONE`). -/
def deadzone : Int := 350

/-- Output key of a control (`mapping::output_for`). -/
def outputFor : Control → Option OutputKey
  | .other _ => none
  | .guide => none
  | .pointerLeft => none
  | .pointerRight => none
  | .pointerUp => none
  | .pointerDown => none
  | .south => some .enter
  | .start => some .enter
  | .east => some .escape
  | .west => some .space
  | .north => some .tab
  | .select => some .tab
  | .leftBumper => some .pageUp
  | .rightBumper => some .pageDown
  | .dpadLeft => some .left
  | .stickLeft => some .left
  | .dpadRight => some .right
  | .stickRight => some .right
  | .dpadUp => some .up
  | .stickUp => some .up
  | .dpadDown => some .down
  | .stickDown => some .down
  | .leftTrigger => some .mouseRight
  | .rightTrigger => some .mouseLeft

/-- Pointer motion for one axis of a right stick (`mapping::mouse_delta`).
Positions are normalized to thousandths before they get here, so the machine
arithmetic of the source does not overflow. -/
def mouseDelta (value : Int) : Int :=
  if (value.natAbs : Int) ≤ deadzone then 0 else (value * 14).tdiv 1000

/-- The mapper's state (`mapping::Mapper`). -/
structure Mapper where
  /-- Whether the mapper serves a desktop application now. -/
  active : Bool := false
  /-- Output key of every held source. -/
  sources : Table Source OutputKey := ∅
  /-- Number of held sources of every key that is down. -/
  outputCounts : Table OutputKey Nat := ∅
  /-- Right stick position of every pad that reported one. -/
  rightSticks : Table PadId (Int × Int) := ∅

namespace Mapper

/-- Forget one source and release its key with the last of them
(`Mapper::release_source`). -/
def releaseSource
    (mapper : Mapper)
    (source : Source) : Mapper × List OutputEvent :=
  match mapper.sources.lookup source with
  | none => (mapper, [])
  | some key =>
      let mapper := { mapper with sources := mapper.sources.erase source }
      match mapper.outputCounts.lookup key with
      | none => (mapper, [])
      | some count =>
          let count := count - 1
          if count = 0 then
            ({ mapper with outputCounts := mapper.outputCounts.erase key },
              [.key key false])
          else
            ({ mapper with
                outputCounts := mapper.outputCounts.insert key count }, [])

/-- Press or release one source (`Mapper::set_source`). -/
def setSource
    (mapper : Mapper)
    (source : Source)
    (key : OutputKey)
    (pressed : Bool) : Mapper × List OutputEvent :=
  if pressed then
    let previous := mapper.sources.lookup source
    let mapper :=
      { mapper with sources := mapper.sources.insert source key }
    if previous.isSome then
      (mapper, [])
    else
      let count := (mapper.outputCounts.lookup key).getD 0 + 1
      let mapper :=
        { mapper with outputCounts := mapper.outputCounts.insert key count }
      if count = 1 then (mapper, [.key key true]) else (mapper, [])
  else
    mapper.releaseSource source

/-- Start or stop serving a desktop application (`Mapper::set_active`).
Stopping drains the counts in whatever order the hash map yields them. -/
def setActive
    (mapper : Mapper)
    (order : HashOrder)
    (active : Bool) : Mapper × List OutputEvent :=
  if mapper.active = active then
    (mapper, [])
  else if active then
    ({ mapper with active := active }, [])
  else
    ({ active := active, sources := ∅, outputCounts := ∅, rightSticks := ∅ },
      (order.visit mapper.outputCounts.keys).map fun key => .key key false)

/-- A button edge of one pad (`Mapper::button`). -/
def button
    (mapper : Mapper)
    (device : PadId)
    (control : Control)
    (pressed : Bool) : Mapper × List OutputEvent :=
  if mapper.active then
    match outputFor control with
    | none => (mapper, [])
    | some key => mapper.setSource (device, control) key pressed
  else
    (mapper, [])

/-- A two-sided axis of one pad (`Mapper::directional_axis`). -/
def directionalAxis
    (mapper : Mapper)
    (device : PadId)
    (negative positive : Control)
    (value : Int) : Mapper × List OutputEvent :=
  if mapper.active then
    let first := mapper.button device negative (decide (value < -deadzone))
    let second :=
      first.1.button device positive (decide (value > deadzone))
    (second.1, first.2 ++ second.2)
  else
    (mapper, [])

/-- A right stick movement of one pad (`Mapper::right_stick_axis`). -/
def rightStickAxis
    (mapper : Mapper)
    (device : PadId)
    (horizontal : Bool)
    (value : Int) : Mapper :=
  if mapper.active then
    let position := (mapper.rightSticks.lookup device).getD (0, 0)
    let position :=
      if horizontal then (value, position.2) else (position.1, value)
    { mapper with rightSticks := mapper.rightSticks.insert device position }
  else
    mapper

/-- Pointer motion of all right sticks together (`Mapper::mouse_tick`). -/
def mouseTick (mapper : Mapper) : Option OutputEvent :=
  if mapper.active then
    let motion := mapper.rightSticks.entries.foldl
      (fun (sum : Int × Int) position =>
        (sum.1 + mouseDelta position.2.1, sum.2 + mouseDelta position.2.2))
      (0, 0)
    if motion.1 ≠ 0 ∨ motion.2 ≠ 0 then
      some (.mouseMove motion.1 motion.2)
    else
      none
  else
    none

/-- Release a list of sources one after the other. -/
def releaseSources
    (mapper : Mapper) :
    List Source → Mapper × List OutputEvent
  | [] => (mapper, [])
  | source :: sources =>
      let first := mapper.releaseSource source
      let rest := releaseSources first.1 sources
      (rest.1, first.2 ++ rest.2)

/-- Forget everything a pad holds (`Mapper::remove_device`). -/
def removeDevice
    (mapper : Mapper)
    (order : HashOrder)
    (device : PadId) : Mapper × List OutputEvent :=
  let mapper :=
    { mapper with rightSticks := mapper.rightSticks.erase device }
  let sources := (order.visit mapper.sources.keys).filter
    fun source => source.1 == device
  mapper.releaseSources sources

/-- A call of the mapper's interface. -/
inductive Call
  | setActive (order : HashOrder) (active : Bool)
  | button (device : PadId) (control : Control) (pressed : Bool)
  | directionalAxis
      (device : PadId) (negative positive : Control) (value : Int)
  | rightStickAxis (device : PadId) (horizontal : Bool) (value : Int)
  | removeDevice (order : HashOrder) (device : PadId)

/-- One call and the events it emits. -/
def step (mapper : Mapper) : Call → Mapper × List OutputEvent
  | .setActive order active => mapper.setActive order active
  | .button device control pressed => mapper.button device control pressed
  | .directionalAxis device negative positive value =>
      mapper.directionalAxis device negative positive value
  | .rightStickAxis device horizontal value =>
      (mapper.rightStickAxis device horizontal value, [])
  | .removeDevice order device => mapper.removeDevice order device

/-- The mapper as a machine started by `Mapper::default`. -/
def machine : Machine Mapper Call OutputEvent where
  start := {}
  step := step

end Mapper
end Input
end Hearthdeck
