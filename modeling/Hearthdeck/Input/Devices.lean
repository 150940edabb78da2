import Hearthdeck.Input.Mapping

/-!
# Physical controllers

Decoding of the kernel's key and axis events.  Every event is read twice: into
the controls whose edges drive ownership (`keyControl`, `axisControls`), and
into calls of the compatibility mapper (`mapKey`, `mapAxis`).
-/

namespace Hearthdeck
namespace Input

/-- A key of a controller (`evdev::KeyCode`); `other` stands for the codes the
broker has no name for. -/
inductive KeyCode
  | btnMode
  | btnSouth
  | btnEast
  | btnWest
  | btnNorth
  | btnTl
  | btnTr
  | btnStart
  | btnSelect
  | btnTl2
  | btnTr2
  | btnDpadUp
  | btnDpadDown
  | btnDpadLeft
  | btnDpadRight
  | other (code : UInt16)
  deriving DecidableEq, Repr

/-- An absolute axis of a controller (`evdev::AbsoluteAxisCode`). -/
inductive Axis
  | absX
  | absY
  | absZ
  | absRx
  | absRy
  | absRz
  | absHat0x
  | absHat0y
  | other (code : UInt16)
  deriving DecidableEq, Repr

/-- Range an axis reports (`linux::AxisRange`). -/
structure AxisRange where
  /-- Smallest reported position. -/
  minimum : Int
  /-- Largest reported position. -/
  maximum : Int
  deriving DecidableEq, Repr

/-- Force a value between two bounds (`Ord::clamp`). -/
def clamp (value low high : Int) : Int :=
  max low (min value high)

/-- Position of a two-sided axis in thousandths
(`linux::normalize_centered`).  Positions and ranges are 32 bits wide and the
source computes in 64, so nothing overflows. -/
def normalizeCentered (value : Int) : Option AxisRange → Int
  | none => clamp value (-1) 1 * 1000
  | some range =>
      let center := (range.minimum + range.maximum).tdiv 2
      let halfRange := (range.maximum - range.minimum).tdiv 2
      if halfRange ≤ 0 then 0
      else clamp (((value - center) * 1000).tdiv halfRange) (-1000) 1000

/-- Position of a trigger in thousandths (`linux::normalize_trigger`). -/
def normalizeTrigger (value : Int) : Option AxisRange → Int
  | none => if value > 0 then 1000 else 0
  | some range =>
      let width := range.maximum - range.minimum
      if width ≤ 0 then 0
      else clamp (((value - range.minimum) * 1000).tdiv width) 0 1000

/-- Control of a key (`broker::key_control`). -/
def keyControl : KeyCode → Option Control
  | .btnMode => some .guide
  | .btnSouth => some .south
  | .btnEast => some .east
  | .btnWest => some .west
  | .btnNorth => some .north
  | .btnTl => some .leftBumper
  | .btnTr => some .rightBumper
  | .btnStart => some .start
  | .btnSelect => some .select
  | .btnTl2 => some .leftTrigger
  | .btnTr2 => some .rightTrigger
  | .btnDpadUp => some .dpadUp
  | .btnDpadDown => some .dpadDown
  | .btnDpadLeft => some .dpadLeft
  | .btnDpadRight => some .dpadRight
  | .other code => some (.other code)

/-- Control edges of an axis position (`broker::axis_controls`). -/
def axisControls
    (ranges : Axis → Option AxisRange)
    (code : Axis)
    (value : Int) : List (Control × Bool) :=
  let value := normalizeCentered value (ranges code)
  let twoSided := fun (negative positive : Control) =>
    [(negative, decide (value < -350)), (positive, decide (value > 350))]
  match code with
  | .absX => twoSided .stickLeft .stickRight
  | .absY => twoSided .stickUp .stickDown
  | .absHat0x => twoSided .dpadLeft .dpadRight
  | .absHat0y => twoSided .dpadUp .dpadDown
  | .absRx => twoSided .pointerLeft .pointerRight
  | .absRy => twoSided .pointerUp .pointerDown
  | .absZ => [(.leftTrigger, decide (value > 0))]
  | .absRz => [(.rightTrigger, decide (value > 0))]
  | .other _ => []

/-- Control the compatibility mapper serves for a key; the match of
`linux::map_key`. -/
def mappedControl : KeyCode → Option Control
  | .btnSouth => some .south
  | .btnEast => some .east
  | .btnWest => some .west
  | .btnNorth => some .north
  | .btnTl => some .leftBumper
  | .btnTr => some .rightBumper
  | .btnStart => some .start
  | .btnSelect => some .select
  | .btnDpadLeft => some .dpadLeft
  | .btnDpadRight => some .dpadRight
  | .btnDpadUp => some .dpadUp
  | .btnDpadDown => some .dpadDown
  | .btnTl2 => some .leftTrigger
  | .btnTr2 => some .rightTrigger
  | .btnMode => none
  | .other _ => none

/-- A key event for the compatibility mapper (`linux::map_key`). -/
def mapKey
    (mapper : Mapper)
    (device : PadId)
    (code : KeyCode)
    (value : Int) : Mapper × List OutputEvent :=
  match mappedControl code with
  | none => (mapper, [])
  | some control => mapper.button device control (decide (value ≠ 0))

/-- An axis event for the compatibility mapper (`linux::map_axis`). -/
def mapAxis
    (mapper : Mapper)
    (device : PadId)
    (code : Axis)
    (value : Int)
    (range : Option AxisRange) : Mapper × List OutputEvent :=
  let centered := normalizeCentered value range
  match code with
  | .absHat0x =>
      mapper.directionalAxis device .dpadLeft .dpadRight centered
  | .absHat0y => mapper.directionalAxis device .dpadUp .dpadDown centered
  | .absX => mapper.directionalAxis device .stickLeft .stickRight centered
  | .absY => mapper.directionalAxis device .stickUp .stickDown centered
  | .absRx => (mapper.rightStickAxis device true centered, [])
  | .absRy => (mapper.rightStickAxis device false centered, [])
  | .absZ =>
      mapper.button device .leftTrigger
        (decide (normalizeTrigger value range > 500))
  | .absRz =>
      mapper.button device .rightTrigger
        (decide (normalizeTrigger value range > 500))
  | .other _ => (mapper, [])

/-- An event of a controller, as `EventSummary` sorts them. -/
inductive InputEvent
  | key (code : KeyCode) (value : Int)
  | absoluteAxis (code : Axis) (value : Int)
  | other
  deriving DecidableEq, Repr

/-- What fetching the events of a controller gives. -/
inductive Fetch
  | events (events : List InputEvent)
  | wouldBlock
  | failed (error : String)

/-- A controller the kernel lists, as `Broker::scan` finds it: where it is,
what its axes range over, and what is held when it is opened. -/
structure Device where
  /-- Device node. -/
  path : String
  /-- Axes with their ranges. -/
  ranges : Axis → Option AxisRange := fun _ => none
  /-- Keys held at the moment. -/
  keys : List KeyCode := []
  /-- Positions of the axes at the moment. -/
  axes : List (Axis × Int) := []

end Input
end Hearthdeck
