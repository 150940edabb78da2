import Hearthdeck.Foundation.Flight
import Hearthdeck.Foundation.Machine
import Hearthdeck.Frontend.Frames

/-!
# Settings saved and read back

A choice of the user changes the settings in memory, and the whole of them is
written to the file at once.  The file is watched: a change of it, also one
the shell made itself, begins a read of the file, and what the read found
replaces the settings in memory when it is delivered.
-/

namespace Hearthdeck
namespace Frontend

open Foundation

variable {Version : Type}

/-- What an effect does to the settings. -/
def Effect.choose (config : AppLibraryConfig) : Effect → AppLibraryConfig
  | .launchManaged _ _ => config
  | .toggleDesktopInput id => config.toggleDesktopInput id
  | .setFormOverride id form => config.setFormOverride id form

/-- Whether an effect is a choice that is saved. -/
def Effect.isChoice : Effect → Bool
  | .launchManaged _ _ => false
  | .toggleDesktopInput _ => true
  | .setFormOverride _ _ => true

namespace App

/-! ## The choices -/

/-- The settings after an action on a tile are those its effects choose. -/
theorem config_runAction
    (language : Language)
    (app : App Version)
    (target : Nat)
    (action : Action) :
    (app.runAction language target action).config =
      (app.actionEffects target action).foldl Effect.choose app.config := by
  cases action with
  | run =>
      change app.config = _
      unfold actionEffects
      cases app.visible[target]? with
      | none => rfl
      | some entry => rfl
  | toggleControllerCompatibility =>
      change (app.toggleControllerCompatibility target).config = _
      unfold toggleControllerCompatibility actionEffects
      cases app.visible[target]? with
      | none => rfl
      | some entry => rfl
  | moveToForm form =>
      change (app.moveToForm language target form).config = _
      unfold moveToForm actionEffects
      cases app.visible[target]? with
      | none => rfl
      | some entry => rfl

theorem config_activateMenuRow
    (language : Language)
    (app : App Version) :
    (app.activateMenuRow language).config =
      (app.effects .activateMenuRow).foldl Effect.choose app.config := by
  unfold activateMenuRow effects
  cases open_ : app.menuTarget with
  | none =>
      have bare : app.highlighted = none := by
        unfold highlighted
        rw [open_]
        rfl
      rw [bare]
      rfl
  | some target =>
      dsimp only
      cases app.highlighted with
      | none => rfl
      | some row =>
          obtain ⟨target, action⟩ := row
          exact config_runAction language _ target action

/-- A message that sets nothing chooses nothing. -/
theorem choose_effects_of_not_setsConfig
    (app : App Version)
    {message : Message Version}
    (leaves : message.setsConfig = false) :
    (app.effects message).foldl Effect.choose app.config = app.config := by
  unfold effects
  split
  case h_1 index =>
      unfold actionEffects
      cases app.visible[index]? with
      | none => rfl
      | some entry => rfl
  case h_2 => cases leaves
  case h_3 => cases leaves
  case h_4 => cases leaves
  case h_5 => rfl

/-- Every message but the delivery of a read changes the settings as its
effects choose. -/
theorem config_update
    (language : Language)
    (app : App Version)
    (message : Message Version)
    (internal : ∀ config, message ≠ .appConfigLoaded config) :
    (app.update language message).config =
      (app.effects message).foldl Effect.choose app.config := by
  change (app.clampCursors.handle language message).config =
    (app.clampCursors.effects message).foldl Effect.choose
      app.clampCursors.config
  generalize app.clampCursors = app
  cases sets : message.setsConfig with
  | false =>
      rw [choose_effects_of_not_setsConfig app sets]
      exact (leaves_handle language app message).config sets
  | true =>
      unfold Message.setsConfig at sets
      split at sets
      case h_1 index =>
          exact config_runAction language app index
            .toggleControllerCompatibility
      case h_2 index form =>
          exact config_runAction language app index (.moveToForm form)
      case h_3 => exact config_activateMenuRow language app
      case h_4 config => exact absurd rfl (internal config)
      case h_5 => cases sets

/-- A delivered read replaces the settings. -/
theorem config_appConfigLoaded
    (language : Language)
    (app : App Version)
    (config : AppLibraryConfig) :
    (app.update language (.appConfigLoaded config)).config = config :=
  congrArg Standing.config
    (standing_applyLiveConfig language app.clampCursors config)

end App

/-! ## The file -/

/-- The shell, the file of its settings, and the reads of it. -/
structure ConfigShell (Version : Type) where
  app : App Version
  /-- What the file holds. -/
  file : AppLibraryConfig
  /-- The reads of the file on their way. -/
  reads : List (Flight Unit AppLibraryConfig)
  /-- The choices made so far, oldest first. -/
  choices : List Effect

/-- What can happen. -/
inductive ConfigStep (Version : Type)
  /-- A message of the library that delivers no settings. -/
  | message (message : Message Version)
  /-- `AppConfigChanged`: the watch of the file reports a change. -/
  | appConfigChanged
  /-- A read finds what the file holds. -/
  | look (index : Nat)
  /-- `AppConfigLoaded`: what a read found is delivered. -/
  | appConfigLoaded (index : Nat)

/-- Whether a message brings settings. -/
def Message.bringsConfig : Message Version → Bool
  | .appConfigLoaded _ => true
  | _ => false

namespace ConfigShell

/-- Let the library react; `persist_config` follows every choice. -/
def message
    (language : Language)
    (shell : ConfigShell Version)
    (message : Message Version) : ConfigShell Version :=
  let app := shell.app.update language message
  let choices := (shell.app.effects message).filter Effect.isChoice
  { shell with
    app := app
    file := if choices.isEmpty then shell.file else app.config
    choices := shell.choices ++ choices }

def step
    (language : Language)
    (shell : ConfigShell Version) :
    ConfigStep Version → ConfigShell Version
  -- Settings come only from a read.
  | .message message =>
      if message.bringsConfig then shell else shell.message language message
  | .appConfigChanged =>
      { shell with reads := shell.reads ++ [.sent ()] }
  | .look index =>
      { shell with
        reads := shell.reads.modify index (Flight.look fun _ => shell.file) }
  | .appConfigLoaded index =>
      match shell.reads[index]? with
      | some ⟨_, some config⟩ =>
          { shell with
            app := shell.app.update language (.appConfigLoaded config)
            reads := shell.reads.eraseIdx index }
      | _ => shell

/-- The shell at start, with the settings it read from the file. -/
def start (config : AppLibraryConfig) : ConfigShell Version where
  app := .init config
  file := config
  reads := []
  choices := []

def machine
    (language : Language)
    (config : AppLibraryConfig) :
    Machine (ConfigShell Version) (ConfigStep Version) Unit where
  start := start config
  step := fun shell step => (shell.step language step, [])

/-- The settings the choices made so far ask for. -/
def chosen
    (shell : ConfigShell Version)
    (config : AppLibraryConfig) : AppLibraryConfig :=
  shell.choices.foldl Effect.choose config

/-- A read is delivered that found the file as it was before a choice that was
saved since. -/
def StaleEcho (shell : ConfigShell Version) : ConfigStep Version → Prop
  | .appConfigLoaded index =>
      ∃ config, shell.reads[index]? = some ⟨(), some config⟩ ∧
        config ≠ shell.file
  | _ => False

/-- Launches choose nothing. -/
theorem foldl_choose_filter
    (effects : List Effect)
    (config : AppLibraryConfig) :
    (effects.filter Effect.isChoice).foldl Effect.choose config =
      effects.foldl Effect.choose config := by
  induction effects generalizing config with
  | nil => rfl
  | cons effect effects inductionHypothesis =>
      cases effect with
      | launchManaged id title => exact inductionHypothesis config
      | toggleDesktopInput id => exact inductionHypothesis _
      | setFormOverride id form => exact inductionHypothesis _

/-- Memory and file hold what was chosen. -/
structure Kept
    (config : AppLibraryConfig)
    (shell : ConfigShell Version) : Prop where
  memory : shell.app.config = shell.chosen config
  file : shell.file = shell.chosen config

theorem Kept.message
    {config : AppLibraryConfig}
    {shell : ConfigShell Version}
    (kept : Kept config shell)
    (language : Language)
    (message : Message Version)
    (internal : ∀ config, message ≠ .appConfigLoaded config) :
    Kept config (shell.message language message) := by
  have updated : (shell.app.update language message).config =
      (shell.message language message).chosen config := by
    rw [App.config_update language shell.app message internal, kept.memory]
    change _ = (shell.choices ++ _).foldl Effect.choose config
    rw [List.foldl_append, foldl_choose_filter]
    rfl
  refine ⟨updated, ?_⟩
  change (if _ then _ else _) = _
  split
  case isFalse saved => exact updated
  case isTrue none =>
      change _ = (shell.choices ++ _).foldl Effect.choose config
      rw [List.isEmpty_iff.mp none, List.append_nil]
      exact kept.file

theorem Kept.step
    {config : AppLibraryConfig}
    {shell : ConfigShell Version}
    (kept : Kept config shell)
    (language : Language)
    (step : ConfigStep Version)
    (fresh : ¬ shell.StaleEcho step) :
    Kept config (shell.step language step) := by
  cases step with
  | message message =>
      change Kept config (if _ then _ else _)
      split
      case isTrue brings => exact kept
      case isFalse internal =>
          apply kept.message language
          rintro found rfl
          exact internal rfl
  | appConfigChanged => exact ⟨kept.memory, kept.file⟩
  | look index => exact ⟨kept.memory, kept.file⟩
  | appConfigLoaded index =>
      unfold ConfigShell.step
      dsimp only
      split
      case h_2 => exact kept
      case h_1 request found taken =>
          refine ⟨?_, kept.file⟩
          change (shell.app.update language (.appConfigLoaded found)).config =
            shell.chosen config
          rw [App.config_appConfigLoaded, ← kept.file]
          by_contra stale
          exact fresh ⟨found, taken, stale⟩

/-- No choice is undone.  In every run in which no read is delivered that
found the file as it was before a choice saved since, the settings in memory
and in the file are the settings at start with all choices made so far applied
in order. -/
theorem choices_survive
    (language : Language)
    (config : AppLibraryConfig)
    (steps : List (ConfigStep Version))
    (along : (machine language config).Along
      (fun shell step => ¬ shell.StaleEcho step) steps) :
    let shell := (machine language config).run steps
    shell.app.config = shell.choices.foldl Effect.choose config ∧
      shell.file = shell.choices.foldl Effect.choose config := by
  intro shell
  have kept : Kept config shell := by
    apply (machine language config).run_induction_along _ (Kept config) _ _
      steps along
    · exact ⟨rfl, rfl⟩
    · intro shell step kept fresh
      exact kept.step language step fresh
  exact ⟨kept.memory, kept.file⟩

/-- A shell without settings. -/
def plain : Machine (ConfigShell Unit) (ConfigStep Unit) Unit :=
  machine .ascii
    { desktopInputApps := []
      formOverrides := ∅ }

/-- Two games are installed, and both are on screen. -/
def installed : List (ConfigStep Unit) :=
  [.message (.catalogLoaded 1 (.ok
      [{ LibraryItem.default with
          id := "chess"
          name := "Chess"
          inSection := .pcGames },
        { LibraryItem.default with
          id := "go"
          name := "Go"
          inSection := .pcGames }]))]

/-- A choice is saved, and its echo is read and delivered. -/
def echoed : List (ConfigStep Unit) :=
  installed ++
    [.message (.toggleControllerCompatibility 0),
      .appConfigChanged,
      .look 0,
      .appConfigLoaded 0,
      .message (.moveToForm 1 .desktop)]

theorem choices_survive_echo :
    plain.Along (fun shell step => ¬ shell.StaleEcho step) echoed ∧
      let shell := plain.run echoed
      shell.app.config = shell.choices.foldl Effect.choose
          { desktopInputApps := []
            formOverrides := ∅ } ∧
        shell.file = shell.choices.foldl Effect.choose
          { desktopInputApps := []
            formOverrides := ∅ } := by
  have along : plain.Along (fun shell step => ¬ shell.StaleEcho step)
      echoed := by
    apply Machine.along_of_alongFrom
    refine ⟨id, id, id, id, ?_, id, trivial⟩
    rintro ⟨config, found, stale⟩
    cases found
    exact stale rfl
  exact ⟨along, choices_survive .ascii _ _ along⟩

/-- The echo of the first choice is read, a second choice is made and saved,
and only then the echo is delivered. -/
def overtakenEcho : List (ConfigStep Unit) :=
  installed ++
    [.message (.toggleControllerCompatibility 0),
      .appConfigChanged,
      .look 0,
      .message (.toggleControllerCompatibility 1),
      .appConfigLoaded 0]

/-- The second choice is undone in memory, and with the next choice in the
file as well. -/
theorem echo_undoes_a_choice :
    (plain.run overtakenEcho).choices =
        [.toggleDesktopInput "chess", .toggleDesktopInput "go"] ∧
      (plain.run overtakenEcho).app.config.desktopInputApps = ["chess"] ∧
      (plain.run (overtakenEcho ++
          [.message (.moveToForm 0 .desktop)])).file.desktopInputApps =
        ["chess"] := by
  refine ⟨?_, ?_, ?_⟩
  all_goals decide

end ConfigShell
end Frontend
end Hearthdeck
