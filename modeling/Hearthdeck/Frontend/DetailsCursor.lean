import Hearthdeck.Foundation.Machine
import Hearthdeck.Foundation.RowGrid
import Hearthdeck.Frontend.Details

/-!
# The cursor of the details screen

The pad moves a cursor over the buttons of the details screen: the screenshots,
the line of actions, or the rows of the open disc picker, which covers the page.
The cursor is a field of the screen, read through `cursor`, which corrects it
when what it pointed at is gone.

The view draws its buttons by itself, each with the message a press sends.  In
every run of the screen the cursor is on a button drawn on top, the pad's
confirm presses it, and the pad alone gets to each of the others.
-/

namespace Hearthdeck
namespace Frontend

open Foundation

/-- `focus::Focus`: what the cursor is on. -/
inductive DetailsFocus
  | play
  | favorite
  | disc
  | playLater
  | back
  | screenshot (index : Nat)
  | discChoice (index : Nat)
  deriving DecidableEq, Repr

/-- `actions`: the line of actions, left to right. -/
def DetailsFocus.actions (hasDiscs : Bool) : List DetailsFocus :=
  if hasDiscs then [.back, .play, .favorite, .disc, .playLater]
  else [.back, .play, .favorite, .playLater]

/-- `focus::Layout`: what the screen offers. -/
structure DetailsLayout where
  shots : Nat
  discs : Nat
  pickerOpen : Bool
  deriving DecidableEq, Repr

/-- The library's name of a step. -/
def Direction.move : Direction → RowGrid.Move
  | .up => .up
  | .down => .down
  | .left => .left
  | .right => .right

namespace DetailsLayout

/-- `rows`: an empty row is left out, and the open picker replaces them all. -/
def rows (layout : DetailsLayout) : List (List DetailsFocus) :=
  if layout.pickerOpen then
    (List.range layout.discs).map fun index => [.discChoice index]
  else if 0 < layout.shots then
    [(List.range layout.shots).map .screenshot,
      DetailsFocus.actions (1 < layout.discs)]
  else
    [DetailsFocus.actions (1 < layout.discs)]

/-- `clamp`. -/
def clamp (layout : DetailsLayout) (focus : DetailsFocus) : DetailsFocus :=
  if layout.rows.any fun row => row.contains focus then focus
  else if layout.rows.any fun row => row.contains .play then .play
  else (layout.rows.head?.bind List.head?).getD .play

/-- `step`. -/
def step
    (layout : DetailsLayout)
    (focus : DetailsFocus)
    (direction : Direction) : Option DetailsFocus :=
  RowGrid.step layout.rows focus direction.move

end DetailsLayout

namespace Details

/-- `layout`. -/
def layout (details : Details) : DetailsLayout where
  shots := details.screenshots.length
  discs := details.versions.length
  pickerOpen := details.discPicker

/-- `cursor`, from the stored one. -/
def cursor (details : Details) (focus : DetailsFocus) : DetailsFocus :=
  details.layout.clamp focus

/-- Where `toggle_picker` leaves the stored cursor. -/
def pickerFocus (details : Details) (focus : DetailsFocus) : DetailsFocus :=
  if details.versions.length < 2 then
    focus
  else if details.discPicker then
    .disc
  else
    .discChoice
      ((details.versions.findIdx? fun version =>
        version.id == details.romId).getD 0)

/-- Where `update` leaves the stored cursor. -/
def focusAfter
    (details : Details)
    (focus : DetailsFocus) : DetailsMessage → DetailsFocus
  | .discPickerPressed => details.pickerFocus focus
  | .discSelected _ => .play
  | _ => focus

/-- `confirm_message`. -/
def confirmMessage
    (details : Details)
    (focus : DetailsFocus) : Option DetailsMessage :=
  match details.cursor focus with
  | .play => some .playPressed
  | .back => some .backPressed
  | .favorite => some (.flagPressed .favorite)
  | .playLater => some (.flagPressed .backlog)
  | .disc => some .discPickerPressed
  | .screenshot index => some (.screenshotSelected index)
  | .discChoice index =>
      details.versions[index]?.map fun version => .discSelected version.id

/-- The buttons `view` draws on top, and what a press on each sends. -/
def buttons (details : Details) : List (DetailsFocus × DetailsMessage) :=
  if details.discPicker then
    details.versions.mapIdx fun index version =>
      (.discChoice index, .discSelected version.id)
  else
    (details.screenshots.mapIdx fun index _ =>
      (.screenshot index, .screenshotSelected index)) ++
    [(.back, .backPressed), (.play, .playPressed),
      (.favorite, .flagPressed .favorite)] ++
    (if 1 < details.versions.length then [(.disc, .discPickerPressed)]
      else []) ++
    [(.playLater, .flagPressed .backlog)]

end Details

/-! ## The screen with its cursor -/

/-- The details screen in the shell, and the stored cursor. -/
structure PointedScreen where
  screen : DetailsScreen
  focus : DetailsFocus

namespace PointedScreen

/-- `focus_details`, with `move_cursor`. -/
def focusDetails
    (pointed : PointedScreen)
    (target : DetailsFocus) : PointedScreen :=
  match pointed.screen.details with
  | some details => { pointed with focus := details.layout.clamp target }
  | none => pointed

/-- `open_details`. -/
def openDetails
    (pointed : PointedScreen)
    (romId : Int)
    (title : String)
    (versions : List RomVersion)
    (index : Nat) : PointedScreen :=
  { screen := pointed.screen.openDetails romId title versions index
    focus := .play : PointedScreen }.focusDetails .play

/-- The stored cursor after a message; a late or a lost one does not move it. -/
def focusAfter
    (pointed : PointedScreen)
    (message : DetailsMessage) : DetailsFocus :=
  if pointed.screen.isLate message then
    pointed.focus
  else
    match pointed.screen.details with
    | some details => details.focusAfter pointed.focus message
    | none => pointed.focus

/-- The cursor of the screen, if there is one. -/
def cursor (pointed : PointedScreen) : DetailsFocus :=
  match pointed.screen.details with
  | some details => details.cursor pointed.focus
  | none => pointed.focus

/-- `update_details`. -/
def updateDetails
    (pointed : PointedScreen)
    (message : DetailsMessage) : PointedScreen × DetailsEffect :=
  let updated := pointed.screen.updateDetails message
  let shown : PointedScreen :=
    { screen := updated.1
      focus := pointed.focusAfter message }
  match updated.2 with
  | .focus => (shown.focusDetails shown.cursor, .focus)
  | .read romId => (shown.focusDetails shown.cursor, .read romId)
  | effect => (shown, effect)

/-- `step_details`: at an edge a step does nothing. -/
def stepDetails
    (pointed : PointedScreen)
    (direction : Direction) : PointedScreen :=
  match pointed.screen.details with
  | some details =>
      match details.layout.step (details.cursor pointed.focus) direction with
      | some target => pointed.focusDetails target
      | none => pointed
  | none => pointed

/-- `confirm_details`. -/
def confirmDetails (pointed : PointedScreen) : PointedScreen × DetailsEffect :=
  match pointed.screen.details with
  | some details =>
      match details.confirmMessage pointed.focus with
      | some message => pointed.updateDetails message
      | none => (pointed, .nothing)
  | none => (pointed, .nothing)

/-- The pad acts on the screen while its page is shown (`navigate`); during the
fade that leaves it the pad is the next page's. -/
def HasPad (pointed : PointedScreen) : Prop :=
  pointed.screen.page = .details

instance (pointed : PointedScreen) : Decidable pointed.HasPad :=
  inferInstanceAs (Decidable (_ = _))

/-- What happens to the screen. -/
inductive Event
  | opened
      (romId : Int) (title : String) (versions : List RomVersion) (index : Nat)
  | turned (page : ShellPage)
  | faded
  | heard (message : DetailsMessage)
  | stepped (direction : Direction)
  | confirmed

/-- The screen, driven by events. -/
def machine : Machine PointedScreen Event DetailsEffect where
  start := { screen := .start, focus := .play }
  step pointed event :=
    match event with
    | .opened romId title versions index =>
        (pointed.openDetails romId title versions index, [])
    | .turned page =>
        ({ pointed with screen := pointed.screen.switchPage page }, [])
    | .faded => ({ pointed with screen := pointed.screen.expirePageFade }, [])
    | .heard message =>
        ((pointed.updateDetails message).1, [(pointed.updateDetails message).2])
    | .stepped direction =>
        (if pointed.HasPad then pointed.stepDetails direction else pointed, [])
    | .confirmed =>
        if pointed.HasPad then
          (pointed.confirmDetails.1, [pointed.confirmDetails.2])
        else
          (pointed, [])

end PointedScreen

/-! ## The buttons are the controls of the layout -/

namespace DetailsLayout

variable (layout : DetailsLayout)

theorem rows_picker
    (picking : layout.pickerOpen = true) :
    layout.rows.flatten =
      (List.range layout.discs).map DetailsFocus.discChoice := by
  unfold rows
  rw [if_pos picking, ← List.flatMap_def, ← List.map_eq_flatMap]

theorem rows_page
    (page : ¬ layout.pickerOpen = true) :
    layout.rows.flatten =
      (List.range layout.shots).map DetailsFocus.screenshot ++
        DetailsFocus.actions (1 < layout.discs) := by
  unfold rows
  rw [if_neg page]
  split
  case isTrue shown => simp only [List.flatten_cons, List.flatten_nil,
    List.append_nil]
  case isFalse bare =>
      obtain none := Nat.eq_zero_of_not_pos bare
      rw [none, List.range_zero, List.map_nil, List.flatten_cons,
        List.flatten_nil, List.append_nil, List.nil_append]

theorem nodup_rows : layout.rows.flatten.Nodup := by
  by_cases picking : layout.pickerOpen = true
  · rw [layout.rows_picker picking]
    exact List.Nodup.map (fun _ _ same => DetailsFocus.discChoice.inj same)
      List.nodup_range
  · rw [layout.rows_page picking]
    refine List.Nodup.append ?_ ?_ ?_
    · exact List.Nodup.map (fun _ _ same => DetailsFocus.screenshot.inj same)
        List.nodup_range
    · cases decide (1 < layout.discs) with
      | true => decide
      | false => decide
    · intro focus shot action
      obtain ⟨index, _, rfl⟩ := List.mem_map.mp shot
      cases several : decide (1 < layout.discs) with
      | true => simp [DetailsFocus.actions, several] at action
      | false => simp [DetailsFocus.actions, several] at action

theorem sound_rows : RowGrid.Sound layout.rows where
  once := layout.nodup_rows
  solid := by
    intro row member
    unfold rows at member
    split at member
    case isTrue picking =>
        obtain ⟨index, _, rfl⟩ := List.mem_map.mp member
        exact List.cons_ne_nil _ _
    case isFalse page =>
        have line : DetailsFocus.actions (1 < layout.discs) ≠ [] := by
          unfold DetailsFocus.actions
          split
          case isTrue several => exact List.cons_ne_nil _ _
          case isFalse single => exact List.cons_ne_nil _ _
        split at member
        case isTrue shown =>
            rcases List.mem_pair.mp member with rfl | rfl
            · simpa using Nat.pos_iff_ne_zero.mp shown
            · exact line
        case isFalse bare =>
            obtain rfl := List.mem_singleton.mp member
            exact line

theorem contains_iff
    (focus : DetailsFocus) :
    (layout.rows.any fun row => row.contains focus) = true ↔
      focus ∈ layout.rows.flatten := by
  simp

variable {layout}

theorem clamp_of_mem
    {focus : DetailsFocus}
    (offered : focus ∈ layout.rows.flatten) :
    layout.clamp focus = focus := by
  unfold clamp
  rw [if_pos ((layout.contains_iff focus).mpr offered)]

/-- The corrected cursor is on a control, as long as the picker is only open
over rows. -/
theorem clamp_mem
    (filled : layout.pickerOpen = true → 2 ≤ layout.discs)
    (focus : DetailsFocus) :
    layout.clamp focus ∈ layout.rows.flatten := by
  unfold clamp
  split
  case isTrue offered => exact (layout.contains_iff focus).mp offered
  case isFalse gone =>
      split
      case isTrue offered => exact (layout.contains_iff .play).mp offered
      case isFalse covered =>
          by_cases picking : layout.pickerOpen = true
          · have first : layout.rows.head?.bind List.head? =
                some (.discChoice 0) := by
              unfold rows
              rw [if_pos picking, List.head?_map, List.head?_range,
                if_neg (Nat.ne_of_gt (Nat.lt_of_lt_of_le Nat.zero_lt_two
                  (filled picking)))]
              rfl
            rw [first, layout.rows_picker picking]
            exact List.mem_map.mpr ⟨0, List.mem_range.mpr
              (Nat.lt_of_lt_of_le Nat.zero_lt_two (filled picking)), rfl⟩
          · refine absurd ((layout.contains_iff .play).mpr ?_) covered
            rw [layout.rows_page picking]
            refine List.mem_append_right _ ?_
            cases decide (1 < layout.discs) with
            | true => decide
            | false => decide

end DetailsLayout

namespace Details

theorem map_fst_mapIdx
    {Item Control Message : Type}
    (control : Nat → Control)
    (message : Nat → Item → Message)
    (items : List Item) :
    (items.mapIdx fun index item => (control index, message index item)).map
        Prod.fst =
      (List.range items.length).map control := by
  refine List.ext_getElem (by simp) ?_
  intro index inItems inRange
  simp

/-- What is drawn on top is what the layout offers. -/
theorem controls_buttons (details : Details) :
    details.buttons.map Prod.fst = details.layout.rows.flatten := by
  by_cases picking : details.discPicker = true
  · rw [details.layout.rows_picker picking, buttons, if_pos picking,
      map_fst_mapIdx]
    rfl
  · rw [details.layout.rows_page picking, buttons, if_neg picking]
    simp only [List.map_append, map_fst_mapIdx]
    by_cases several : 1 < details.versions.length
    · simp [several, layout, DetailsFocus.actions]
    · simp [several, layout, DetailsFocus.actions]

/-- Confirm sends what the button under the cursor sends. -/
theorem confirmMessage_of_mem
    {details : Details}
    {focus : DetailsFocus}
    {message : DetailsMessage}
    (under : (details.cursor focus, message) ∈ details.buttons) :
    details.confirmMessage focus = some message := by
  unfold confirmMessage
  generalize details.cursor focus = control at under ⊢
  unfold buttons at under
  split at under
  case isTrue picking =>
      obtain ⟨index, inside, same⟩ := List.mem_mapIdx.mp under
      cases same
      dsimp only
      rw [List.getElem?_eq_getElem inside, Option.map_some]
  case isFalse page =>
      rcases List.mem_append.mp under with under | later
      · rcases List.mem_append.mp under with under | disc
        · rcases List.mem_append.mp under with shot | action
          · obtain ⟨index, inside, same⟩ := List.mem_mapIdx.mp shot
            cases same
            rfl
          · simp only [List.mem_cons, List.not_mem_nil, or_false,
              Prod.mk.injEq] at action
            rcases action with ⟨rfl, rfl⟩ | ⟨rfl, rfl⟩ | ⟨rfl, rfl⟩
            · rfl
            · rfl
            · rfl
        · split at disc
          case isTrue several =>
              cases List.mem_singleton.mp disc
              rfl
          case isFalse single => cases disc
      · cases List.mem_singleton.mp later
        rfl

theorem nodup_controls (details : Details) :
    (details.buttons.map Prod.fst).Nodup := by
  rw [controls_buttons]
  exact details.layout.nodup_rows

/-- The picker is only open over a game of several files. -/
def Stacked (details : Details) : Prop :=
  details.discPicker = true → 2 ≤ details.versions.length

theorem versions_setFlagState
    (details : Details)
    (flag : Flag)
    (state : Option Bool) :
    (details.setFlagState flag state).versions = details.versions ∧
      (details.setFlagState flag state).discPicker = details.discPicker := by
  cases flag with
  | favorite => exact ⟨rfl, rfl⟩
  | backlog => exact ⟨rfl, rfl⟩

theorem Stacked.of_eq
    {details changed : Details}
    (stacked : details.Stacked)
    (same : changed.versions = details.versions ∧
      changed.discPicker = details.discPicker) :
    changed.Stacked := by
  unfold Stacked
  rw [same.1, same.2]
  exact stacked

/-- No message opens the picker of a game of a single file. -/
theorem stacked_update
    {details : Details}
    (stacked : details.Stacked)
    (message : DetailsMessage) :
    (details.update message).1.Stacked := by
  cases message with
  | backPressed => exact stacked
  | playPressed => exact stacked
  | screenshotSelected index =>
      change (details.selectShot index).Stacked
      refine stacked.of_eq ?_
      unfold selectShot
      split
      case isTrue inside => exact ⟨rfl, rfl⟩
      case isFalse outside => exact ⟨rfl, rfl⟩
  | flagPressed flag =>
      rw [(details.update_flagPressed flag).1]
      refine stacked.of_eq ?_
      unfold toggleFlag
      split
      case isTrue busy => exact ⟨rfl, rfl⟩
      case isFalse free => exact versions_setFlagState _ _ _
  | discPickerPressed =>
      change details.togglePicker.Stacked
      unfold togglePicker
      split
      case isTrue single => exact stacked
      case isFalse several => exact fun _ => Nat.le_of_not_lt several
  | discSelected romId =>
      change (details.selectDisc romId).Stacked
      unfold selectDisc
      dsimp only
      split
      case isTrue other => exact fun picking => Bool.noConfusion picking
      case isFalse same => exact fun picking => Bool.noConfusion picking
  | loaded romId result =>
      change (details.load romId result).Stacked
      refine stacked.of_eq ?_
      unfold load
      split
      case isTrue other => exact ⟨rfl, rfl⟩
      case isFalse same =>
          cases result with
          | ok loaded => exact ⟨rfl, rfl⟩
          | error error => exact ⟨rfl, rfl⟩
  | flagWritten romId flag previous result =>
      rw [details.update_flagWritten romId flag previous result]
      refine stacked.of_eq ?_
      unfold settleFlag
      dsimp only
      split
      case isTrue other => exact ⟨rfl, rfl⟩
      case isFalse same =>
          cases result with
          | ok state => exact versions_setFlagState _ _ _
          | error reason => exact versions_setFlagState _ _ _

/-- The cursor of such a screen is on a button. -/
theorem exists_under
    {details : Details}
    (stacked : details.Stacked)
    (focus : DetailsFocus) :
    ∃ message, (details.cursor focus, message) ∈ details.buttons := by
  have filled : details.layout.pickerOpen = true →
      2 ≤ details.layout.discs := stacked
  have offered : details.cursor focus ∈ details.buttons.map Prod.fst := by
    rw [controls_buttons]
    exact DetailsLayout.clamp_mem filled focus
  obtain ⟨⟨control, message⟩, member, rfl⟩ := List.mem_map.mp offered
  exact ⟨message, member⟩

end Details

namespace DetailsScreen

/-- What the screen has is stacked. -/
def Stacked (screen : DetailsScreen) : Prop :=
  ∀ details, screen.details = some details → details.Stacked

theorem Stacked.of_details
    {screen changed : DetailsScreen}
    (stacked : screen.Stacked)
    (same : changed.details = screen.details) :
    changed.Stacked := by
  unfold Stacked
  rw [same]
  exact stacked

theorem stacked_updateDetails
    {screen : DetailsScreen}
    (stacked : screen.Stacked)
    (message : DetailsMessage) :
    (screen.updateDetails message).1.Stacked := by
  by_cases late : screen.isLate message = true
  · unfold updateDetails
    rw [if_pos late]
    exact stacked
  · cases before : screen.details with
    | none =>
        rw [updateDetails_none before]
        exact stacked
    | some details =>
        intro updated shown
        rw [(updateDetails_some before message
          (current_of_not_isLate late)).1] at shown
        cases shown
        exact Details.stacked_update (stacked details before) message

theorem stacked_openDetails
    (screen : DetailsScreen)
    (romId : Int)
    (title : String)
    (versions : List RomVersion)
    (index : Nat) :
    (screen.openDetails romId title versions index).Stacked := by
  intro details shown
  unfold openDetails at shown
  rw [details_switchPage] at shown
  cases shown
  exact fun picking => Bool.noConfusion picking

theorem stacked_expirePageFade
    {screen : DetailsScreen}
    (stacked : screen.Stacked) :
    screen.expirePageFade.Stacked := by
  unfold expirePageFade
  split
  case isTrue fading =>
      intro details shown
      dsimp only at shown
      split at shown
      case isTrue left => cases shown
      case isFalse here => exact stacked details shown
  case isFalse steady => exact stacked

end DetailsScreen

/-! ## Runs of the screen -/

namespace PointedScreen

@[simp] theorem screen_focusDetails
    (pointed : PointedScreen)
    (target : DetailsFocus) :
    (pointed.focusDetails target).screen = pointed.screen := by
  unfold focusDetails
  split
  case h_1 details shown => rfl
  case h_2 gone => rfl

/-- The cursor takes no part in what a message does to the rest. -/
theorem updateDetails_screen
    (pointed : PointedScreen)
    (message : DetailsMessage) :
    (pointed.updateDetails message).1.screen =
        (pointed.screen.updateDetails message).1 ∧
      (pointed.updateDetails message).2 =
        (pointed.screen.updateDetails message).2 := by
  unfold updateDetails
  dsimp only
  split
  case h_1 focuses => exact ⟨screen_focusDetails _ _, focuses.symm⟩
  case h_2 romId reads => exact ⟨screen_focusDetails _ _, reads.symm⟩
  case h_3 => exact ⟨rfl, rfl⟩

theorem screen_stepDetails
    (pointed : PointedScreen)
    (direction : Direction) :
    (pointed.stepDetails direction).screen = pointed.screen := by
  unfold stepDetails
  split
  case h_1 details shown =>
      split
      case h_1 target goes => exact screen_focusDetails _ _
      case h_2 edge => rfl
  case h_2 gone => rfl

theorem stacked_updateDetails
    {pointed : PointedScreen}
    (stacked : pointed.screen.Stacked)
    (message : DetailsMessage) :
    (pointed.updateDetails message).1.screen.Stacked := by
  rw [(pointed.updateDetails_screen message).1]
  exact DetailsScreen.stacked_updateDetails stacked message

theorem stacked_confirmDetails
    {pointed : PointedScreen}
    (stacked : pointed.screen.Stacked) :
    pointed.confirmDetails.1.screen.Stacked := by
  unfold confirmDetails
  split
  case h_1 details shown =>
      split
      case h_1 message sends => exact stacked_updateDetails stacked message
      case h_2 silent => exact stacked
  case h_2 gone => exact stacked

theorem stacked_step
    {pointed : PointedScreen}
    (stacked : pointed.screen.Stacked)
    (event : Event) :
    (machine.step pointed event).1.screen.Stacked := by
  cases event with
  | opened romId title versions index =>
      change (pointed.openDetails romId title versions index).screen.Stacked
      rw [openDetails, screen_focusDetails]
      exact DetailsScreen.stacked_openDetails _ romId title versions index
  | turned page =>
      exact stacked.of_details (DetailsScreen.details_switchPage _ page)
  | faded => exact DetailsScreen.stacked_expirePageFade stacked
  | heard message => exact stacked_updateDetails stacked message
  | stepped direction =>
      rw [machine]
      dsimp only
      split
      case isTrue hasPad =>
          refine stacked.of_details ?_
          exact congrArg DetailsScreen.details
            (screen_stepDetails pointed direction)
      case isFalse elsewhere => exact stacked
  | confirmed =>
      rw [machine]
      dsimp only
      split
      case isTrue hasPad => exact stacked_confirmDetails stacked
      case isFalse elsewhere => exact stacked

theorem stacked_run (events : List Event) :
    (machine.run events).screen.Stacked :=
  machine.run_induction (fun pointed => pointed.screen.Stacked)
    (fun _ shown => nomatch shown)
    (fun _ event stacked => stacked_step stacked event)
    events

theorem exists_direction (move : RowGrid.Move) :
    ∃ direction : Direction, direction.move = move := by
  cases move with
  | left => exact ⟨.left, rfl⟩
  | right => exact ⟨.right, rfl⟩
  | up => exact ⟨.up, rfl⟩
  | down => exact ⟨.down, rfl⟩

/-- A step from the cursor puts it on the control the step leads to. -/
theorem stepDetails_of_step
    {pointed : PointedScreen}
    {details : Details}
    (shown : pointed.screen.details = some details)
    {direction : Direction}
    {target : DetailsFocus}
    (goes : details.layout.step (details.cursor pointed.focus) direction =
      some target) :
    pointed.stepDetails direction = { pointed with focus := target } := by
  unfold stepDetails
  rw [shown]
  dsimp only
  rw [goes]
  dsimp only
  rw [focusDetails, shown]
  dsimp only
  rw [DetailsLayout.clamp_of_mem (RowGrid.mem_of_step goes)]

/-- Where steps lead, the pad leads. -/
theorem exists_walk
    (pointed : PointedScreen)
    {details : Details}
    (shown : pointed.screen.details = some details)
    {control : DetailsFocus}
    (leads : RowGrid.Leads details.layout.rows
      (details.cursor pointed.focus) control) :
    ∃ directions : List Direction,
      (directions.foldl stepDetails pointed).screen = pointed.screen ∧
        details.cursor (directions.foldl stepDetails pointed).focus =
          control := by
  induction leads with
  | refl => exact ⟨[], rfl, rfl⟩
  | @tail before target walked goes inductionHypothesis =>
      obtain ⟨directions, screen, cursor⟩ := inductionHypothesis
      obtain ⟨move, goes⟩ := goes
      obtain ⟨direction, rfl⟩ := exists_direction move
      refine ⟨directions ++ [direction], ?_⟩
      rw [List.foldl_append, List.foldl_cons, List.foldl_nil]
      rw [← cursor] at goes
      rw [stepDetails_of_step (screen ▸ shown) goes]
      exact ⟨screen, DetailsLayout.clamp_of_mem (RowGrid.mem_of_step goes)⟩

theorem confirmDetails_of_under
    {pointed : PointedScreen}
    {details : Details}
    (shown : pointed.screen.details = some details)
    {message : DetailsMessage}
    (under : (details.cursor pointed.focus, message) ∈ details.buttons) :
    pointed.confirmDetails = pointed.updateDetails message := by
  unfold confirmDetails
  rw [shown]
  dsimp only
  rw [Details.confirmMessage_of_mem under]

/-- In every run of the details screen the cursor is on one of the buttons
drawn on top, each of which has a control of its own, and the pad's confirm,
when it gets to the screen, presses it.  The pad alone gets to every other
button without changing the screen, and confirm there does what a press on it
does. -/
theorem pad_presses_every_button
    (events : List Event)
    {details : Details}
    (shown : (machine.run events).screen.details = some details) :
    (details.buttons.map Prod.fst).Nodup ∧
      (∃ message,
        ((machine.run events).cursor, message) ∈ details.buttons ∧
          (machine.run events).confirmDetails =
            (machine.run events).updateDetails message) ∧
      ∀ button ∈ details.buttons,
        ∃ directions : List Direction, ∃ walked,
          directions.foldl stepDetails (machine.run events) = walked ∧
            walked.screen = (machine.run events).screen ∧
            walked.cursor = button.1 ∧
            walked.confirmDetails.1.screen =
              ((machine.run events).updateDetails button.2).1.screen ∧
            walked.confirmDetails.2 =
              ((machine.run events).updateDetails button.2).2 := by
  have stacked := stacked_run events details shown
  generalize machine.run events = pointed at shown ⊢
  have cursor : pointed.cursor = details.cursor pointed.focus := by
    rw [PointedScreen.cursor, shown]
  refine ⟨details.nodup_controls, ?_, ?_⟩
  · obtain ⟨message, under⟩ := Details.exists_under stacked pointed.focus
    rw [cursor]
    exact ⟨message, under, confirmDetails_of_under shown under⟩
  · rintro ⟨control, message⟩ drawn
    obtain ⟨_, under⟩ := Details.exists_under stacked pointed.focus
    have offered : ∀ {control message}, (control, message) ∈ details.buttons →
        control ∈ details.layout.rows.flatten := by
      intro control message drawn
      rw [← details.controls_buttons]
      exact List.mem_map_of_mem drawn
    obtain ⟨directions, screen, reached⟩ := pointed.exists_walk shown
      (RowGrid.leads_of_mem details.layout.sound_rows (offered under)
        (offered drawn))
    refine ⟨directions, _, rfl, screen, ?_, ?_⟩
    · rw [PointedScreen.cursor, screen, shown]
      exact reached
    · rw [confirmDetails_of_under (screen ▸ shown) (reached ▸ drawn)]
      obtain ⟨sameScreen, sameEffect⟩ :=
        (directions.foldl stepDetails pointed).updateDetails_screen message
      obtain ⟨asScreen, asEffect⟩ := pointed.updateDetails_screen message
      rw [sameScreen, sameEffect, asScreen, asEffect, screen]
      exact ⟨rfl, rfl⟩

/-- Opening the picker of a game of two discs. -/
def twoDiscs : List Event :=
  [.opened 1 "Fantasy" [⟨1, "Disc 1"⟩, ⟨2, "Disc 2"⟩] 0,
    .heard .discPickerPressed]

theorem pad_presses_every_button_second :
    ∃ directions : List Direction,
      (directions.foldl stepDetails (machine.run twoDiscs)).confirmDetails.2 =
        .read 2 := by
  obtain ⟨_, _, presses⟩ := pad_presses_every_button twoDiscs rfl
  obtain ⟨directions, _, rfl, _, _, _, effect⟩ :=
    presses (.discChoice 1, .discSelected 2) (.tail _ (.head _))
  exact ⟨directions, effect⟩

end PointedScreen
end Frontend
end Hearthdeck
