import Mathlib.Data.Finset.Insert
import Hearthdeck.Frontend.App

/-!
# The details screen

The screen of one console game: the file it shows, the files the game was
collapsed from, RomM's two flags of the shown file, and the picker of files.
It is opened from a tile of the grid and filled in by a read; a press on a
flag shows its effect at once and is settled by the answer of its write.

The cursor and the decoded artwork are left out: the pad's confirm button
sends the messages the buttons send.
-/

namespace Hearthdeck
namespace Frontend

/-- `Flag`: which of RomM's flags of a user. -/
inductive Flag
  | favorite
  | backlog
  deriving DecidableEq, Repr

/-- `RetroRomVersion`: one file of a game. -/
structure RomVersion where
  id : Int
  title : String
  deriving DecidableEq, Repr

/-- `RetroGameDetails`, as far as the buttons go by it. -/
structure RetroGameDetails where
  favorite : Bool
  backlogged : Bool
  deriving DecidableEq, Repr

/-- `RetroDetails`: the answer of a details read. -/
structure RetroDetails where
  info : RetroGameDetails
  hero : Option String
  screenshots : List String
  deriving DecidableEq, Repr

/-- `FlagWrite`. -/
structure FlagWrite where
  romId : Int
  title : String
  flag : Flag
  /-- The state the press asked for. -/
  value : Bool
  /-- The state before the press, which a failure puts back. -/
  previous : Option Bool
  deriving DecidableEq, Repr

/-- `Settled`: what the answer of a write means for the screen. -/
inductive Settled
  | dropped
  | applied
  | reverted (reason : String)
  deriving DecidableEq, Repr

/-- The messages of the screen. -/
inductive DetailsMessage
  | backPressed
  | playPressed
  | screenshotSelected (index : Nat)
  | flagPressed (flag : Flag)
  | discPickerPressed
  | discSelected (romId : Int)
  | loaded (romId : Int) (result : Except String RetroDetails)
  | flagWritten
      (romId : Int) (flag : Flag) (previous : Option Bool)
      (result : Except String Bool)

/-- The messages that paint or settle a flag: a press, a read, a write. -/
def DetailsMessage.settles : DetailsMessage → Bool
  | flagPressed _ => true
  | loaded _ _ => true
  | flagWritten _ _ _ _ => true
  | _ => false

/-- What the shell does for the screen. -/
inductive DetailsEffect
  | nothing
  | close
  | launch (itemId title : String)
  | writeFlag (write : FlagWrite)
  | reloadCollections
  | focus
  | read (romId : Int)
  deriving DecidableEq, Repr

/-- `Details`. -/
structure Details where
  /-- The file being shown, which is what the flags are scoped to. -/
  romId : Int
  title : String
  /-- Every file of the game; empty for a game of a single file. -/
  versions : List RomVersion
  originIndex : Nat
  discPicker : Bool
  heroCover : Option String
  screenshots : List String
  heroShot : Option Nat
  /-- RomM's flags of the file, once they are known. -/
  favorite : Option Bool
  backlogged : Option Bool
  /-- Files with a write on its way. -/
  pendingFiles : Finset Int
  info : Option RetroGameDetails
  error : Option String
  writeError : Option String
  deriving DecidableEq

namespace Details

/-- `Details::new`. -/
def new
    (romId : Int)
    (title : String)
    (versions : List RomVersion)
    (originIndex : Nat) : Details where
  romId := romId
  title := title
  versions := versions
  originIndex := originIndex
  discPicker := false
  heroCover := none
  screenshots := []
  heroShot := none
  favorite := none
  backlogged := none
  pendingFiles := ∅
  info := none
  error := none
  writeError := none

/-- `flag_state`. -/
def flagState (details : Details) : Flag → Option Bool
  | .favorite => details.favorite
  | .backlog => details.backlogged

/-- `set_flag_state`. -/
def setFlagState
    (details : Details)
    (flag : Flag)
    (state : Option Bool) : Details :=
  match flag with
  | .favorite => { details with favorite := state }
  | .backlog => { details with backlogged := state }

/-- `load`: an answer for a file the screen has moved past is dropped. -/
def load
    (details : Details)
    (romId : Int)
    (result : Except String RetroDetails) : Details :=
  if details.romId ≠ romId then
    details
  else
    match result with
    | .ok loaded =>
        { details with
          heroCover := loaded.hero
          screenshots := loaded.screenshots
          favorite := some loaded.info.favorite
          backlogged := some loaded.info.backlogged
          info := some loaded.info
          error := none }
    | .error error => { details with error := some error }

/-- `select_shot`. -/
def selectShot (details : Details) (index : Nat) : Details :=
  if index < details.screenshots.length then
    { details with heroShot := some index }
  else
    details

/-- `toggle_picker`: a game of a single file has no picker. -/
def togglePicker (details : Details) : Details :=
  if details.versions.length < 2 then
    details
  else
    { details with discPicker := !details.discPicker }

/-- `select_disc`: the flags of another file are not known yet. -/
def selectDisc (details : Details) (romId : Int) : Details :=
  let shut := { details with discPicker := false }
  if details.romId ≠ romId then
    { shut with
      romId := romId
      favorite := none
      backlogged := none
      writeError := none }
  else
    shut

/-- `toggle_flag`: shown at once, and ignored while a write of the file is on
its way. -/
def toggleFlag
    (details : Details)
    (flag : Flag) : Details × Option FlagWrite :=
  if details.romId ∈ details.pendingFiles then
    (details, none)
  else
    let previous := details.flagState flag
    let value := !previous.getD false
    let pressed :=
      { details with
        pendingFiles := insert details.romId details.pendingFiles
        writeError := none }
    (pressed.setFlagState flag (some value),
      some
        { romId := details.romId
          title := details.title
          flag := flag
          value := value
          previous := previous })

/-- `settle_flag`. -/
def settleFlag
    (details : Details)
    (romId : Int)
    (flag : Flag)
    (previous : Option Bool)
    (result : Except String Bool) : Details × Settled :=
  let settled :=
    { details with pendingFiles := details.pendingFiles.erase romId }
  if details.romId ≠ romId then
    (settled, .dropped)
  else
    match result with
    | .ok state =>
        ({ settled.setFlagState flag (some state) with writeError := none },
          .applied)
    | .error reason =>
        ({ settled.setFlagState flag previous with
            writeError := some reason },
          .reverted reason)

/-- `update`. -/
def update
    (details : Details) : DetailsMessage → Details × DetailsEffect
  | .backPressed => (details, .close)
  | .playPressed =>
      (details, .launch s!"romm:{details.romId}" details.title)
  | .screenshotSelected index => (details.selectShot index, .nothing)
  | .flagPressed flag =>
      match details.toggleFlag flag with
      | (pressed, some write) => (pressed, .writeFlag write)
      | (pressed, none) => (pressed, .nothing)
  | .discPickerPressed => (details.togglePicker, .focus)
  | .discSelected romId => (details.selectDisc romId, .read romId)
  | .loaded romId result => (details.load romId result, .nothing)
  | .flagWritten romId flag previous result =>
      match details.settleFlag romId flag previous result with
      | (settled, .applied) => (settled, .reloadCollections)
      | (settled, .reverted _) => (settled, .nothing)
      | (settled, .dropped) => (settled, .nothing)

/-! ## What the operations do to the flags -/

theorem flagState_setFlagState_other
    (details : Details)
    {flag other : Flag}
    (state : Option Bool)
    (different : other ≠ flag) :
    (details.setFlagState flag state).flagState other =
      details.flagState other := by
  cases flag with
  | favorite =>
      cases other with
      | favorite => exact absurd rfl different
      | backlog => rfl
  | backlog =>
      cases other with
      | favorite => rfl
      | backlog => exact absurd rfl different

@[simp] theorem romId_setFlagState
    (details : Details)
    (flag : Flag)
    (state : Option Bool) :
    (details.setFlagState flag state).romId = details.romId := by
  cases flag with
  | favorite => rfl
  | backlog => rfl

/-- Only a press on a flag asks for a write. -/
theorem flagPressed_of_writeFlag
    {details : Details}
    {message : DetailsMessage}
    {write : FlagWrite}
    (asked : (details.update message).2 = .writeFlag write) :
    ∃ flag, message = .flagPressed flag ∧
      (details.toggleFlag flag).2 = some write := by
  cases message with
  | backPressed => cases asked
  | playPressed => cases asked
  | screenshotSelected index => cases asked
  | discPickerPressed => cases asked
  | discSelected romId => cases asked
  | loaded romId result => cases asked
  | flagWritten romId flag previous result =>
      unfold update at asked
      dsimp only at asked
      split at asked
      case h_1 => cases asked
      case h_2 => cases asked
      case h_3 => cases asked
  | flagPressed flag =>
      refine ⟨flag, rfl, ?_⟩
      unfold update at asked
      dsimp only at asked
      split at asked
      case h_1 pressed other toggled =>
          cases asked
          rw [toggled]
      case h_2 pressed toggled => cases asked

theorem update_flagPressed
    (details : Details)
    (flag : Flag) :
    (details.update (.flagPressed flag)).1 = (details.toggleFlag flag).1 ∧
      (details.update (.flagPressed flag)).2 =
        match (details.toggleFlag flag).2 with
        | some write => .writeFlag write
        | none => .nothing := by
  unfold update
  dsimp only
  split
  case h_1 pressed write toggled =>
      rw [toggled]
      exact ⟨rfl, rfl⟩
  case h_2 pressed toggled =>
      rw [toggled]
      exact ⟨rfl, rfl⟩

theorem update_flagWritten
    (details : Details)
    (romId : Int)
    (flag : Flag)
    (previous : Option Bool)
    (result : Except String Bool) :
    (details.update (.flagWritten romId flag previous result)).1 =
      (details.settleFlag romId flag previous result).1 := by
  unfold update
  dsimp only
  split
  case h_1 settled written =>
      rw [written]
  case h_2 settled reason written =>
      rw [written]
  case h_3 settled written =>
      rw [written]

/-- The answer of a write of another file changes no flag. -/
theorem settleFlag_other
    (details : Details)
    {romId : Int}
    (other : details.romId ≠ romId)
    (flag : Flag)
    (previous : Option Bool)
    (result : Except String Bool) :
    (details.settleFlag romId flag previous result).1.romId = details.romId ∧
      ∀ which,
        (details.settleFlag romId flag previous result).1.flagState which =
          details.flagState which := by
  unfold settleFlag
  dsimp only
  rw [if_pos other]
  refine ⟨rfl, ?_⟩
  intro which
  cases which with
  | favorite => rfl
  | backlog => rfl

/-- The flag a settled write leaves on the screen. -/
def settledState
    (previous : Option Bool) : Except String Bool → Option Bool
  | .ok state => some state
  | .error _ => previous

theorem settleFlag_same
    (details : Details)
    (flag : Flag)
    (previous : Option Bool)
    (result : Except String Bool) :
    (details.settleFlag details.romId flag previous result).1.romId =
        details.romId ∧
      ∀ which,
        (details.settleFlag details.romId flag previous result).1.flagState
            which =
          if which = flag then settledState previous result
          else details.flagState which := by
  unfold settleFlag
  dsimp only
  rw [if_neg (not_not.mpr rfl)]
  cases result with
  | ok state =>
      refine ⟨?_, ?_⟩
      · cases flag with
        | favorite => rfl
        | backlog => rfl
      · intro which
        cases flag with
        | favorite => cases which <;> rfl
        | backlog => cases which <;> rfl
  | error reason =>
      refine ⟨?_, ?_⟩
      · cases flag with
        | favorite => rfl
        | backlog => rfl
      · intro which
        cases flag with
        | favorite => cases which <;> rfl
        | backlog => cases which <;> rfl

/-- A read of another file, or one that fails, changes no flag. -/
theorem load_unknown
    (details : Details)
    (romId : Int)
    (result : Except String RetroDetails)
    (silent : details.romId ≠ romId ∨ ∃ error, result = .error error) :
    (details.load romId result).romId = details.romId ∧
      ∀ flag, (details.load romId result).flagState flag =
        details.flagState flag := by
  unfold load
  split
  case isTrue other => exact ⟨rfl, fun _ => rfl⟩
  case isFalse same =>
      obtain ⟨error, rfl⟩ := silent.resolve_left same
      refine ⟨rfl, ?_⟩
      intro flag
      cases flag with
      | favorite => rfl
      | backlog => rfl

theorem load_ok
    (details : Details)
    (loaded : RetroDetails) :
    (details.load details.romId (.ok loaded)).romId = details.romId ∧
      (details.load details.romId (.ok loaded)).favorite =
        some loaded.info.favorite ∧
      (details.load details.romId (.ok loaded)).backlogged =
        some loaded.info.backlogged := by
  unfold load
  rw [if_neg (not_not.mpr rfl)]
  exact ⟨rfl, rfl, rfl⟩

/-- A press shows the flag it asks for, and the write it begins remembers what
was shown. -/
theorem toggleFlag_some
    {details : Details}
    {flag : Flag}
    {write : FlagWrite}
    (began : (details.toggleFlag flag).2 = some write) :
    write.romId = details.romId ∧ write.flag = flag ∧
      write.previous = details.flagState flag ∧
      (details.toggleFlag flag).1.romId = details.romId ∧
      ∀ which, which ≠ flag →
        (details.toggleFlag flag).1.flagState which =
          details.flagState which := by
  unfold toggleFlag at began ⊢
  split at began
  case isTrue busy => cases began
  case isFalse free =>
      rw [if_neg free]
      cases began
      refine ⟨rfl, rfl, rfl, romId_setFlagState _ _ _, ?_⟩
      intro which different
      dsimp only
      rw [flagState_setFlagState_other _ _ different]
      cases which with
      | favorite => rfl
      | backlog => rfl

theorem toggleFlag_none
    {details : Details}
    {flag : Flag}
    (ignored : (details.toggleFlag flag).2 = none) :
    (details.toggleFlag flag).1 = details := by
  unfold toggleFlag at ignored ⊢
  split at ignored
  case isTrue busy => rw [if_pos busy]
  case isFalse free => cases ignored

/-- The messages that neither press a flag nor bring an answer leave the flags
of the file alone, or turn to a file whose flags are not known. -/
theorem update_quiet
    (details : Details)
    (message : DetailsMessage)
    (quiet : message.settles = false) :
    ((details.update message).1.romId = details.romId ∧
        ∀ flag, (details.update message).1.flagState flag =
          details.flagState flag) ∨
      ∀ flag, (details.update message).1.flagState flag = none := by
  cases message with
  | backPressed => exact Or.inl ⟨rfl, fun _ => rfl⟩
  | playPressed => exact Or.inl ⟨rfl, fun _ => rfl⟩
  | screenshotSelected index =>
      change ((details.selectShot index).romId = _ ∧ ∀ flag,
        (details.selectShot index).flagState flag = _) ∨ _
      unfold selectShot
      split
      case isTrue inside =>
          exact Or.inl ⟨rfl, fun flag => by cases flag <;> rfl⟩
      case isFalse outside => exact Or.inl ⟨rfl, fun _ => rfl⟩
  | flagPressed flag => cases quiet
  | discPickerPressed =>
      change (details.togglePicker.romId = _ ∧ ∀ flag,
        details.togglePicker.flagState flag = _) ∨ _
      unfold togglePicker
      split
      case isTrue single => exact Or.inl ⟨rfl, fun _ => rfl⟩
      case isFalse several =>
          exact Or.inl ⟨rfl, fun flag => by cases flag <;> rfl⟩
  | discSelected romId =>
      change ((details.selectDisc romId).romId = _ ∧ ∀ flag,
        (details.selectDisc romId).flagState flag = _) ∨
          ∀ flag, (details.selectDisc romId).flagState flag = none
      unfold selectDisc
      dsimp only
      split
      case isTrue other => exact Or.inr fun flag => by cases flag <;> rfl
      case isFalse same =>
          exact Or.inl ⟨rfl, fun flag => by cases flag <;> rfl⟩
  | loaded romId result => cases quiet
  | flagWritten romId flag previous result => cases quiet

end Details

/-! ## The screen in the shell -/

/-- The page shown, whether a change of page is still fading, and the details
screen, which outlives its page by the fade. -/
structure DetailsScreen where
  page : ShellPage
  fading : Bool
  details : Option Details
  deriving DecidableEq

namespace DetailsScreen

/-- The shell at start. -/
def start : DetailsScreen where
  page := .dashboard
  fading := false
  details := none

/-- `switch_page`. -/
def switchPage (screen : DetailsScreen) (page : ShellPage) : DetailsScreen :=
  if screen.page = page then
    { screen with fading := false }
  else
    { screen with
      page := page
      fading := true }

/-- `expire_page_fade`, once the fade has run its course: the screen goes with
the fade that leaves it. -/
def expirePageFade (screen : DetailsScreen) : DetailsScreen :=
  if screen.fading then
    { screen with
      fading := false
      details := if screen.page ≠ .details then none else screen.details }
  else
    screen

/-- `open_details`, for a tile of a console game. -/
def openDetails
    (screen : DetailsScreen)
    (romId : Int)
    (title : String)
    (versions : List RomVersion)
    (index : Nat) : DetailsScreen :=
  { screen with details := some (.new romId title versions index) }.switchPage
    .details

/-- `close_details`. -/
def closeDetails (screen : DetailsScreen) : DetailsScreen :=
  match screen.details with
  | some _ => screen.switchPage .library
  | none => screen

/-- Whether a message brings a read to a screen that was left. -/
def isLate (screen : DetailsScreen) : DetailsMessage → Bool
  | .loaded _ _ => screen.page ≠ .details
  | _ => false

/-- `update_details`: the fade keeps the screen, but a late read does not
repaint it. -/
def updateDetails
    (screen : DetailsScreen)
    (message : DetailsMessage) : DetailsScreen × DetailsEffect :=
  if screen.isLate message then
    (screen, .nothing)
  else
    match screen.details with
    | none => (screen, .nothing)
    | some details =>
        let updated := details.update message
        let shown := { screen with details := some updated.1 }
        match updated.2 with
        | .close => (shown.closeDetails, .close)
        | effect => (shown, effect)

@[simp] theorem details_switchPage
    (screen : DetailsScreen)
    (page : ShellPage) :
    (screen.switchPage page).details = screen.details := by
  unfold switchPage
  split
  case isTrue same => rfl
  case isFalse other => rfl

theorem updateDetails_none
    {screen : DetailsScreen}
    (gone : screen.details = none)
    (message : DetailsMessage) :
    screen.updateDetails message = (screen, .nothing) := by
  unfold updateDetails
  rw [gone]
  split
  case isTrue late => rfl
  case isFalse current => rfl

/-- A read that arrives on another page is dropped. -/
theorem updateDetails_late
    {screen : DetailsScreen}
    (elsewhere : screen.page ≠ .details)
    (romId : Int)
    (result : Except String RetroDetails) :
    screen.updateDetails (.loaded romId result) = (screen, .nothing) := by
  unfold updateDetails
  rw [if_pos (by exact decide_eq_true elsewhere)]

theorem current_of_not_isLate
    {screen : DetailsScreen}
    {message : DetailsMessage}
    (current : ¬ screen.isLate message = true) :
    screen.page = .details ∨
      ∀ romId result, message ≠ .loaded romId result := by
  by_cases onPage : screen.page = .details
  · exact Or.inl onPage
  · refine Or.inr ?_
    rintro romId result rfl
    exact current (decide_eq_true onPage)

theorem updateDetails_some
    {screen : DetailsScreen}
    {details : Details}
    (shown : screen.details = some details)
    (message : DetailsMessage)
    (current : screen.page = .details ∨
      ∀ romId result, message ≠ .loaded romId result) :
    (screen.updateDetails message).1.details =
        some (details.update message).1 ∧
      (screen.updateDetails message).2 = (details.update message).2 := by
  unfold updateDetails
  split
  case isTrue late =>
      unfold isLate at late
      split at late
      case h_1 romId result =>
          rcases current with onPage | other
          · exact absurd onPage (of_decide_eq_true late)
          · exact absurd rfl (other romId result)
      case h_2 => cases late
  case isFalse early =>
      rw [shown]
      dsimp only
      split
      case h_1 closes =>
          refine ⟨?_, closes.symm⟩
          unfold closeDetails
          dsimp only
          rw [details_switchPage]
      case h_2 => exact ⟨rfl, rfl⟩

end DetailsScreen
end Frontend
end Hearthdeck
