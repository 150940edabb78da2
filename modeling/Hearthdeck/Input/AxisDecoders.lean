import Hearthdeck.Input.Devices
import Hearthdeck.Input.MapperLog

/-!
# Two decoders of an axis

A position of an axis is decoded for the compatibility mapper (`mapAxis`) and
for ownership (`axisControls`).  Sticks and hats are decoded alike.  A trigger
is measured from its minimum by the one and from its centre by the other, and
at some positions only the mapper sees it pulled.
-/

namespace Hearthdeck
namespace Input

open Foundation

/-! ## Arithmetic -/

/-- A truncated quotient reaches a positive bound when the dividend reaches
its multiple. -/
theorem le_tdiv_iff
    {bound divisor : Int}
    (positive : 0 < bound)
    (divides : 0 < divisor)
    (dividend : Int) :
    bound ≤ dividend.tdiv divisor ↔ bound * divisor ≤ dividend := by
  rcases Int.le_total 0 dividend with nonneg | nonpos
  · rw [Int.tdiv_eq_ediv_of_nonneg nonneg, Int.le_ediv_iff_mul_le divides]
  · have below : dividend.tdiv divisor ≤ 0 := by
      have negated : (-dividend).tdiv divisor = -dividend.tdiv divisor :=
        Int.neg_tdiv _ _
      have above : 0 ≤ (-dividend).tdiv divisor :=
        Int.tdiv_nonneg (Int.neg_nonneg_of_nonpos nonpos)
          (Int.le_of_lt divides)
      omega
    have product : 0 < bound * divisor := Int.mul_pos positive divides
    omega

/-- Half of a number, rounded toward zero. -/
theorem two_mul_tdiv_two (number : Int) :
    0 ≤ number ∧ 2 * number.tdiv 2 = number - number % 2 ∨
      number < 0 ∧ 2 * number.tdiv 2 = number + number % 2 := by
  rcases Int.lt_or_le number 0 with negative | nonneg
  · right
    have negated : (-number).tdiv 2 = -number.tdiv 2 := Int.neg_tdiv _ _
    rw [Int.tdiv_eq_ediv_of_nonneg (by omega)] at negated
    omega
  · left
    rw [Int.tdiv_eq_ediv_of_nonneg nonneg]
    omega

/-- A trigger is pulled for the mapper. -/
theorem normalizeTrigger_iff
    (value : Int)
    (range : AxisRange) :
    normalizeTrigger value (some range) > 500 ↔
      0 < range.maximum - range.minimum ∧
        501 * (range.maximum - range.minimum) ≤
          (value - range.minimum) * 1000 := by
  unfold normalizeTrigger
  dsimp only
  split
  case isTrue empty =>
      omega
  case isFalse wide =>
      have divides : 0 < range.maximum - range.minimum := by omega
      rw [← le_tdiv_iff (by decide) divides]
      unfold clamp
      omega

/-- A trigger is pulled for ownership. -/
theorem normalizeCentered_pos_iff
    (value : Int)
    (range : AxisRange) :
    normalizeCentered value (some range) > 0 ↔
      0 < (range.maximum - range.minimum).tdiv 2 ∧
        (range.maximum - range.minimum).tdiv 2 ≤
          (value - (range.minimum + range.maximum).tdiv 2) * 1000 := by
  unfold normalizeCentered
  dsimp only
  split
  case isTrue empty => omega
  case isFalse wide =>
      have divides : 0 < (range.maximum - range.minimum).tdiv 2 := by omega
      have reaches := le_tdiv_iff (by decide : (0 : Int) < 1) divides
        ((value - (range.minimum + range.maximum).tdiv 2) * 1000)
      rw [Int.one_mul] at reaches
      rw [← reaches]
      unfold clamp
      omega

/-! ## Triggers -/

/-- A position that pulls a trigger for the mapper alone: the range is a step
of one, or it is odd, short and mostly negative and the position is its
centre, which is rounded up. -/
def BlindSpot (range : AxisRange) (value : Int) : Prop :=
  let width := range.maximum - range.minimum
  let sum := range.minimum + range.maximum
  width = 1 ∧ range.maximum ≤ value ∨
    1 < width ∧ width < 500 ∧ width % 2 = 1 ∧ sum < 0 ∧ value = sum.tdiv 2

/-- Outside of those positions, a trigger that is pulled for the mapper is
pulled for ownership. -/
theorem trigger_agrees_iff
    (range : AxisRange)
    (value : Int) :
    (normalizeTrigger value (some range) > 500 →
        normalizeCentered value (some range) > 0) ↔
      ¬ BlindSpot range value := by
  rw [normalizeTrigger_iff, normalizeCentered_pos_iff]
  unfold BlindSpot
  obtain ⟨minimum, maximum⟩ := range
  dsimp only
  -- An odd range has its centre between two positions.  Rounded up, it is
  -- past the middle by half a step, which in a short range is more than the
  -- thousandth that the mapper asks for.
  have half := two_mul_tdiv_two (maximum - minimum)
  have center := two_mul_tdiv_two (minimum + maximum)
  generalize (maximum - minimum).tdiv 2 = halfRange at *
  generalize (minimum + maximum).tdiv 2 = middle at *
  omega

/-! ## What the mapper presses -/

namespace Mapper

/-- A control of a pad is held down for the application. -/
def isDown (mapper : Mapper) (device : PadId) (control : Control) : Bool :=
  (mapper.sources.lookup (device, control)).isSome

theorem button_active
    (mapper : Mapper)
    (device : PadId)
    (control : Control)
    (pressed : Bool) :
    (mapper.button device control pressed).1.active = mapper.active := by
  unfold button
  split
  case isTrue active =>
      split
      case h_1 unkeyed => rfl
      case h_2 key keyed => exact setSource_active _ _ _ _
  case isFalse inactive => rfl

/-- A button of a mapper that serves an application moves its control. -/
theorem button_isDown
    {mapper : Mapper}
    (active : mapper.active = true)
    {control : Control}
    (keyed : (outputFor control).isSome)
    (device : PadId)
    (pressed : Bool)
    (other : Control) :
    (mapper.button device control pressed).1.isDown device other =
      if other = control then pressed else mapper.isDown device other := by
  obtain ⟨key, output⟩ := Option.isSome_iff_exists.mp keyed
  have pair : ((device, other) : Source) = (device, control) ↔
      other = control := by
    rw [Prod.mk.injEq]
    exact and_iff_right rfl
  unfold button isDown
  rw [if_pos active, output]
  dsimp only
  rw [setSource_sources]
  cases pressed with
  | true =>
      rw [if_pos rfl, Table.lookup_insert_eq_ite]
      by_cases same : other = control
      · rw [if_pos (pair.mpr same), if_pos same]
        rfl
      · rw [if_neg (same ∘ pair.mp), if_neg same]
  | false =>
      rw [if_neg Bool.false_ne_true, Table.lookup_erase_eq_ite]
      by_cases same : other = control
      · rw [if_pos (pair.mpr same), if_pos same]
        rfl
      · rw [if_neg (same ∘ pair.mp), if_neg same]

/-- A two-sided axis moves both of its controls. -/
theorem directionalAxis_isDown
    {mapper : Mapper}
    (active : mapper.active = true)
    {negative positive : Control}
    (first : (outputFor negative).isSome)
    (second : (outputFor positive).isSome)
    (device : PadId)
    (value : Int)
    (other : Control) :
    (mapper.directionalAxis device negative positive value).1.isDown device
        other =
      if other = positive then decide (value > deadzone)
      else if other = negative then decide (value < -deadzone)
      else mapper.isDown device other := by
  unfold directionalAxis
  rw [if_pos active]
  dsimp only
  rw [button_isDown ((button_active _ _ _ _).trans active) second,
    button_isDown active first]

end Mapper

/-- The controls that an axis event presses: those that are down after it
without having been down before. -/
def axisPresses
    (code : Axis)
    (value : Int)
    (range : Option AxisRange) : Set Control :=
  { control | ∃ (mapper : Mapper) (device : PadId),
      mapper.active = true ∧ mapper.isDown device control = false ∧
        (mapAxis mapper device code value range).1.isDown device control }

/-- The controls that an axis event reports as pressed to ownership. -/
def axisReports
    (ranges : Axis → Option AxisRange)
    (code : Axis)
    (value : Int) : Set Control :=
  { control | (control, true) ∈ axisControls ranges code value }

/-- The controls that the mapper moves on an axis event, and which way. -/
def axisMoves
    (code : Axis)
    (value : Int)
    (range : Option AxisRange) (control : Control) : Option Bool :=
  let centered := normalizeCentered value range
  let twoSided := fun (negative positive : Control) =>
    if control = positive then some (decide (centered > deadzone))
    else if control = negative then some (decide (centered < -deadzone))
    else none
  let trigger := fun (pulled : Control) =>
    if control = pulled then
      some (decide (normalizeTrigger value range > 500))
    else none
  match code with
  | .absX => twoSided .stickLeft .stickRight
  | .absY => twoSided .stickUp .stickDown
  | .absHat0x => twoSided .dpadLeft .dpadRight
  | .absHat0y => twoSided .dpadUp .dpadDown
  | .absZ => trigger .leftTrigger
  | .absRz => trigger .rightTrigger
  | .absRx => none
  | .absRy => none
  | .other _ => none

/-- Whatever a mapper that serves an application held before, an axis event
moves the same controls. -/
theorem mapAxis_isDown
    {mapper : Mapper}
    (active : mapper.active = true)
    (device : PadId)
    (code : Axis)
    (value : Int)
    (range : Option AxisRange)
    (control : Control) :
    (mapAxis mapper device code value range).1.isDown device control =
      (axisMoves code value range control).getD
        (mapper.isDown device control) := by
  have twoSided : ∀ (negative positive : Control),
      (outputFor negative).isSome → (outputFor positive).isSome →
      ∀ (centered : Int),
      (mapper.directionalAxis device negative positive centered).1.isDown
          device control =
        (if control = positive then some (decide (centered > deadzone))
          else if control = negative then
            some (decide (centered < -deadzone))
          else none).getD (mapper.isDown device control) := by
    intro negative positive first second centered
    rw [Mapper.directionalAxis_isDown active first second]
    split
    · rfl
    · split <;> rfl
  have trigger : ∀ (pulled : Control), (outputFor pulled).isSome →
      ∀ (pressed : Bool),
      (mapper.button device pulled pressed).1.isDown device control =
        (if control = pulled then some pressed else none).getD
          (mapper.isDown device control) := by
    intro pulled keyed pressed
    rw [Mapper.button_isDown active keyed]
    split <;> rfl
  cases code with
  | absX => exact twoSided _ _ rfl rfl _
  | absY => exact twoSided _ _ rfl rfl _
  | absHat0x => exact twoSided _ _ rfl rfl _
  | absHat0y => exact twoSided _ _ rfl rfl _
  | absZ => exact trigger _ rfl _
  | absRz => exact trigger _ rfl _
  | absRx =>
      change (mapper.rightStickAxis _ _ _).isDown _ _ = _
      unfold Mapper.rightStickAxis
      rw [if_pos active]
      rfl
  | absRy =>
      change (mapper.rightStickAxis _ _ _).isDown _ _ = _
      unfold Mapper.rightStickAxis
      rw [if_pos active]
      rfl
  | other code => rfl

theorem mem_axisPresses
    {code : Axis}
    {value : Int}
    {range : Option AxisRange}
    {control : Control} :
    control ∈ axisPresses code value range ↔
      axisMoves code value range control = some true := by
  constructor
  · rintro ⟨mapper, device, active, up, down⟩
    rw [mapAxis_isDown active, up] at down
    cases moves : axisMoves code value range control with
    | none =>
        rw [moves] at down
        cases down
    | some pressed =>
        rw [moves] at down
        exact congrArg some down
  · intro moves
    refine ⟨{ active := true }, 0, rfl, rfl, ?_⟩
    rw [mapAxis_isDown rfl, moves]
    rfl

/-! ## Both decoders -/

/-- The axes of sticks and hats that press controls of the mapper. -/
def steers : Axis → Bool
  | .absX => true
  | .absY => true
  | .absHat0x => true
  | .absHat0y => true
  | _ => false

/-- The axes of the triggers. -/
def pulls : Axis → Bool
  | .absZ => true
  | .absRz => true
  | _ => false

/-- A stick or a hat is decoded alike. -/
theorem axisPresses_eq_axisReports
    {code : Axis}
    (steering : steers code = true)
    (ranges : Axis → Option AxisRange)
    (value : Int) :
    axisPresses code value (ranges code) = axisReports ranges code value := by
  have twoSided : ∀ {negative positive : Control} (centered : Int),
      negative ≠ positive → ∀ control,
      (if control = positive then some (decide (centered > deadzone))
        else if control = negative then some (decide (centered < -deadzone))
        else none) = some true ↔
      (control, true) ∈ [(negative, decide (centered < -350)),
        (positive, decide (centered > 350))] := by
    intro negative positive centered different control
    rw [List.mem_cons, List.mem_singleton, Prod.mk.injEq, Prod.mk.injEq]
    unfold deadzone
    by_cases isPositive : control = positive
    · rw [if_pos isPositive, Option.some.injEq]
      constructor
      · intro pressed
        exact .inr ⟨isPositive, pressed.symm⟩
      · rintro (⟨isNegative, _⟩ | ⟨_, pressed⟩)
        · exact absurd (isNegative.symm.trans isPositive) different
        · exact pressed.symm
    · rw [if_neg isPositive]
      by_cases isNegative : control = negative
      · rw [if_pos isNegative, Option.some.injEq]
        constructor
        · intro pressed
          exact .inl ⟨isNegative, pressed.symm⟩
        · rintro (⟨_, pressed⟩ | ⟨isPressed, _⟩)
          · exact pressed.symm
          · exact absurd isPressed isPositive
      · rw [if_neg isNegative]
        constructor
        · nofun
        · rintro (⟨same, _⟩ | ⟨same, _⟩)
          · exact absurd same isNegative
          · exact absurd same isPositive
  ext control
  rw [mem_axisPresses]
  cases code with
  | absX => exact twoSided _ (by decide) control
  | absY => exact twoSided _ (by decide) control
  | absHat0x => exact twoSided _ (by decide) control
  | absHat0y => exact twoSided _ (by decide) control
  | _ => cases steering

/-- A trigger that the mapper presses is reported to ownership when both
measures of it agree. -/
theorem axisPresses_subset_iff
    {code : Axis}
    (pulling : pulls code = true)
    (ranges : Axis → Option AxisRange)
    (value : Int) :
    axisPresses code value (ranges code) ⊆ axisReports ranges code value ↔
      (normalizeTrigger value (ranges code) > 500 →
        normalizeCentered value (ranges code) > 0) := by
  have trigger : ∀ (pulled : Control) (measured reported : Bool),
      (∀ control, (if control = pulled then some measured else none) =
          some true → (control, true) ∈ [(pulled, reported)]) ↔
        (measured = true → reported = true) := by
    intro pulled measured reported
    constructor
    · intro subset down
      have member := subset pulled (by rw [if_pos rfl, down])
      exact (Prod.mk.inj (List.mem_singleton.mp member)).2.symm
    · intro implies control moves
      split at moves
      case isTrue same =>
          rw [same, implies (Option.some.inj moves)]
          exact List.mem_singleton_self _
      case isFalse different => cases moves
  have subset : axisPresses code value (ranges code) ⊆
        axisReports ranges code value ↔
      ∀ control, axisMoves code value (ranges code) control = some true →
        (control, true) ∈ axisControls ranges code value := by
    constructor
    · intro subset control moves
      exact subset (mem_axisPresses.mpr moves)
    · intro every control member
      exact every control (mem_axisPresses.mp member)
  rw [subset]
  cases code with
  | absZ =>
      refine (trigger .leftTrigger _ _).trans ?_
      rw [decide_eq_true_iff, decide_eq_true_iff]
  | absRz =>
      refine (trigger .rightTrigger _ _).trans ?_
      rw [decide_eq_true_iff, decide_eq_true_iff]
  | _ => cases pulling

/-- An axis without a range is at rest or pulled, for both. -/
theorem trigger_agrees_of_no_range
    (value : Int)
    (pulled : normalizeTrigger value none > 500) :
    normalizeCentered value none > 0 := by
  unfold normalizeTrigger at pulled
  unfold normalizeCentered clamp
  dsimp only at pulled ⊢
  split at pulled
  case isTrue positive => omega
  case isFalse resting => cases pulled

/-- Every control that the mapper presses on an axis event is reported to
ownership, and sticks and hats press what they report, except where a trigger
is at a blind spot of its range. -/
theorem axis_decoders_agree_iff
    (ranges : Axis → Option AxisRange)
    (code : Axis)
    (value : Int) :
    (axisPresses code value (ranges code) ⊆ axisReports ranges code value ∧
      (steers code = true →
        axisPresses code value (ranges code) =
          axisReports ranges code value)) ↔
      ¬ (pulls code = true ∧ ∃ range, ranges code = some range ∧
        BlindSpot range value) := by
  cases pulling : pulls code with
  | true =>
      have notSteering : steers code = false := by
        cases code <;> first | rfl | cases pulling
      rw [axisPresses_subset_iff pulling, notSteering]
      cases ranged : ranges code with
      | none =>
          constructor
          · rintro _ ⟨_, range, impossible, _⟩
            cases impossible
          · exact fun _ => ⟨trigger_agrees_of_no_range value, nofun⟩
      | some range =>
          rw [trigger_agrees_iff]
          constructor
          · rintro ⟨clear, _⟩ ⟨_, other, same, blind⟩
            cases same
            exact clear blind
          · intro clear
            exact ⟨fun blind => clear ⟨rfl, range, rfl, blind⟩, nofun⟩
  | false =>
      constructor
      · rintro _ ⟨impossible, _⟩
        cases impossible
      · intro _
        constructor
        · intro control member
          cases steering : steers code with
          | true =>
              rw [← axisPresses_eq_axisReports steering]
              exact member
          | false =>
              have moves := mem_axisPresses.mp member
              cases code with
              | absRx => cases moves
              | absRy => cases moves
              | other code => cases moves
              | absZ => cases pulling
              | absRz => cases pulling
              | _ => cases steering
        · intro steering
          exact axisPresses_eq_axisReports steering ranges value

/-- A trigger that goes from 0 to 1 is pressed by the mapper and is not
reported. -/
theorem binary_trigger_goes_unreported :
    ¬ axisPresses .absZ 1 (some ⟨0, 1⟩) ⊆
      axisReports (fun _ => some ⟨0, 1⟩) .absZ 1 := by
  intro subset
  have member : Control.leftTrigger ∈ axisPresses .absZ 1 (some ⟨0, 1⟩) :=
    mem_axisPresses.mpr (by decide)
  have reported : (Control.leftTrigger, true) ∈
      axisControls (fun _ => some ⟨0, 1⟩) .absZ 1 := subset member
  exact absurd reported (by decide)

end Input
end Hearthdeck
