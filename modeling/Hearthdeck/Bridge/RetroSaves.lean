import Hearthdeck.Foundation.ConfigText
import Hearthdeck.Foundation.Utf8

/-!
# Saves of a RetroArch launch

The bridge pins where RetroArch keeps the saves and states of one launch: a
folder for each, named after the stem of the ROM file.  The name comes from
outside, so the bytes that would break a line of the configuration are folded
to `_` before the folders are created and written into it.

The path of the ROM is the one the file system resolved, so what is outside is
how it resolves a path, and whether there is a file at one.
-/

namespace Hearthdeck
namespace Bridge

open Foundation UnixPath

/-! ## Folders -/

/-- `RetroSaveDirectories`. -/
structure RetroSaveDirectories where
  saves : Bytes
  states : Bytes
  deriving DecidableEq

/-- The byte that stands for one in the name of a folder. -/
def sanitizedByte (byte : UInt8) : UInt8 :=
  if byte = 0x22 ∨ byte = 0x5C then 0x5F
  else if byte ≤ 0x1F ∨ byte = 0x7F then 0x5F
  else byte

/-- `save_folder_name`. -/
def saveFolderName (romPath : Bytes) : Bytes :=
  let stem := ((fileStem romPath).filter (· ≠ [])).getD (ascii "game")
  stem.map sanitizedByte

/-- `RetroSaveDirectories::for_rom`. -/
def RetroSaveDirectories.forRom
    (saveRoot romPath : Bytes) : RetroSaveDirectories :=
  let game := saveFolderName romPath
  { saves := join (join saveRoot (ascii "saves")) game
    states := join (join saveRoot (ascii "states")) game }

/-- `retro_system_dir`. -/
def retroSystemDir (saveRoot : Bytes) : Bytes :=
  join saveRoot (ascii "system")

/-- `validate_retro_rom_path_in`, with how the file system resolves a path. -/
def validateRetroRomPathIn
    (canonicalize : Bytes → Option Bytes)
    (romPath cacheRoot : Bytes) : Except String Bytes :=
  if isAbsolute romPath then
    match canonicalize romPath with
    | none => .error "cached rom does not exist"
    | some canonical =>
        if startsWith canonical cacheRoot then
          .ok canonical
        else
          .error "rom path is not inside the Hearthdeck rom cache"
  else
    .error "rom path must be absolute"

/-! ## Configuration -/

/-- `RETRO_SHADER_DIRECTORY`. -/
def retroShaderDirectory : String :=
  "/usr/share/libretro/shaders/shaders_slang"

/-- `SHADER_PRESET_BY_CORE`. -/
def shaderPresetByCore : List (String × String) :=
  [("fceumm_libretro.so", "crt/crt-guest-advanced.slangp"),
    ("snes9x_libretro.so", "crt/crt-guest-advanced.slangp"),
    ("genesis_plus_gx_libretro.so", "crt/crt-guest-advanced.slangp"),
    ("picodrive_libretro.so", "crt/crt-guest-advanced.slangp"),
    ("mednafen_psx_libretro.so", "crt/crt-guest-advanced.slangp"),
    ("mupen64plus_next_libretro.so", "crt/crt-guest-advanced.slangp"),
    ("parallel_n64_libretro.so", "crt/crt-guest-advanced.slangp"),
    ("mednafen_pce_fast_libretro.so", "crt/crt-guest-advanced.slangp"),
    ("mednafen_supergrafx_libretro.so", "crt/crt-guest-advanced.slangp"),
    ("kronos_libretro.so", "crt/crt-guest-advanced.slangp"),
    ("mame_libretro.so", "crt/crt-guest-advanced.slangp"),
    ("mgba_libretro.so", "handheld/lcd-grid-v2.slangp"),
    ("gambatte_libretro.so", "handheld/lcd-grid-v2.slangp"),
    ("desmume_libretro.so", "handheld/lcd-grid-v2.slangp"),
    ("melonds_libretro.so", "handheld/lcd-grid-v2.slangp"),
    ("ppsspp_libretro.so", "handheld/lcd-grid-v2.slangp")]

/-- `shader_preset_for_core`. -/
def shaderPresetForCore
    (isFile : Bytes → Bool)
    (corePath : Bytes) : Option Bytes := do
  let coreFilename ← fileName corePath
  let (_, preset) ← shaderPresetByCore.find? fun entry =>
    ascii entry.1 == coreFilename
  let presetPath := join (ascii retroShaderDirectory) (ascii preset)
  if isFile presetPath then some presetPath else none

/-- `RETRO_MENU_TOGGLE_UNBOUND`. -/
def retroMenuToggleUnbound : String :=
  "input_menu_toggle_btn = \"nul\""

/-- `RETRO_MENU_TOGGLE_COMBO`. -/
def retroMenuToggleCombo : String :=
  "input_menu_toggle_gamepad_combo = \"4\""

/-- The lines that are the same for every launch. -/
def pinnedLines : List String :=
  ["video_fullscreen = \"true\"",
    "video_windowed_fullscreen = \"false\"",
    "video_fullscreen_x = \"0\"",
    "video_fullscreen_y = \"0\"",
    "gamemode_enable = \"true\"",
    "input_player1_joypad_index = \"0\"",
    "input_autodetect_enable = \"true\"",
    "input_joypad_driver = \"udev\"",
    retroMenuToggleUnbound,
    retroMenuToggleCombo]

/-- `retroarch_managed_config`.  Paths are displayed. -/
def retroarchManagedConfig
    (autoconfigDirectory : Bytes)
    (saveDirectories : RetroSaveDirectories)
    (systemDirectory : Bytes)
    (shaderPreset : Option Bytes) : Bytes :=
  (ascii "\n").intercalate (pinnedLines.map ascii) ++ ascii "\n" ++
    (ascii "joypad_autoconfig_dir = \"" ++
      Utf8.lossy autoconfigDirectory ++ ascii "\"\n") ++
    (ascii "system_directory = \"" ++
      Utf8.lossy systemDirectory ++
      ascii "\"\nsavefile_directory = \"" ++
      Utf8.lossy saveDirectories.saves ++
      ascii "\"\nsavestate_directory = \"" ++
      Utf8.lossy saveDirectories.states ++
      ascii ("\"\nsavefiles_in_content_dir = \"false\"\n" ++
        "savestates_in_content_dir = \"false\"\n" ++
        "sort_savefiles_enable = \"false\"\n" ++
        "sort_savefiles_by_content_enable = \"false\"\n" ++
        "sort_savestates_enable = \"false\"\n" ++
        "sort_savestates_by_content_enable = \"false\"\n")) ++
    match shaderPreset with
    | none => []
    | some preset =>
        ascii "video_shader_enable = \"true\"\n" ++
          (ascii "video_shader = \"" ++ Utf8.lossy preset ++ ascii "\"\n") ++
          ascii ("video_shader_dir = \"" ++ retroShaderDirectory ++ "\"\n")

/-! ## Names of folders -/

/-- Bytes that would end a line of the configuration or a value in it. -/
def Breaking (byte : UInt8) : Prop :=
  byte = 0x22 ∨ byte = 0x5C ∨ byte ≤ 0x1F ∨ byte = 0x7F

instance : DecidablePred Breaking := fun byte =>
  inferInstanceAs
    (Decidable (byte = 0x22 ∨ byte = 0x5C ∨ byte ≤ 0x1F ∨ byte = 0x7F))

/-- A path without quotes, backslashes and control bytes. -/
def Clean (path : Bytes) : Prop :=
  ∀ byte ∈ path, ¬ Breaking byte

instance (path : Bytes) : Decidable (Clean path) :=
  List.decidableBAll _ path

theorem sanitizedByte_cases
    (byte : UInt8) :
    Breaking byte ∧ sanitizedByte byte = 0x5F ∨
      ¬ Breaking byte ∧ sanitizedByte byte = byte := by
  unfold sanitizedByte Breaking
  split_ifs with quoted control
  · exact .inl ⟨quoted.imp_right .inl, rfl⟩
  · exact .inl ⟨.inr (.inr control), rfl⟩
  · refine .inr ⟨?_, rfl⟩
    rintro (isQuote | isBackslash | isControl)
    · exact quoted (.inl isQuote)
    · exact quoted (.inr isBackslash)
    · exact control isControl

theorem not_breaking_sanitizedByte
    (byte : UInt8) :
    ¬ Breaking (sanitizedByte byte) := by
  rcases sanitizedByte_cases byte with ⟨_, folded⟩ | ⟨kept, same⟩
  · rw [folded]
    decide
  · rw [same]
    exact kept

/-- A byte that is not an underscore only comes from itself. -/
theorem sanitizedByte_eq_iff
    {byte other : UInt8}
    (kept : ¬ Breaking other)
    (different : other ≠ 0x5F) :
    sanitizedByte byte = other ↔ byte = other := by
  rcases sanitizedByte_cases byte with ⟨breaking, folded⟩ | ⟨_, same⟩
  · rw [folded]
    refine iff_of_false different.symm ?_
    rintro rfl
    exact kept breaking
  · rw [same]

theorem keepsAscii_sanitizedByte : Utf8.KeepsAscii sanitizedByte where
  ascii byte isAscii := by
    rcases sanitizedByte_cases byte with ⟨_, folded⟩ | ⟨_, same⟩
    · rw [folded]
      decide
    · rw [same]
      exact isAscii
  other byte beyond := by
    rcases sanitizedByte_cases byte with ⟨breaking, _⟩ | ⟨_, same⟩
    · refine absurd ?_ beyond
      rcases breaking with rfl | rfl | control | rfl
      · decide
      · decide
      · exact UInt8.lt_of_le_of_lt control (by decide)
      · decide
    · exact same

/-- The stem that the folder of a ROM is named after. -/
def stemOf (romPath : Bytes) : Bytes :=
  ((fileStem romPath).filter (· ≠ [])).getD (ascii "game")

theorem saveFolderName_eq
    (romPath : Bytes) :
    saveFolderName romPath = (stemOf romPath).map sanitizedByte :=
  rfl

theorem stemOf_solid
    (romPath : Bytes) :
    stemOf romPath ≠ [] ∧ slash ∉ stemOf romPath := by
  unfold stemOf
  cases stemmed : fileStem romPath with
  | none => exact ⟨by decide, by decide⟩
  | some stem =>
      obtain ⟨solid, single⟩ := stem_of_fileStem stemmed
      rw [Option.filter_some, if_pos (decide_eq_true solid)]
      exact ⟨solid, single⟩

theorem saveFolderName_solid
    (romPath : Bytes) :
    saveFolderName romPath ≠ [] ∧ slash ∉ saveFolderName romPath := by
  obtain ⟨solid, single⟩ := stemOf_solid romPath
  rw [saveFolderName_eq]
  refine ⟨fun empty => solid (List.map_eq_nil_iff.mp empty), ?_⟩
  intro member
  obtain ⟨byte, inside, folded⟩ := List.mem_map.mp member
  rw [sanitizedByte_eq_iff (by decide) (by decide)] at folded
  exact single (folded ▸ inside)

theorem clean_saveFolderName
    (romPath : Bytes) :
    Clean (saveFolderName romPath) := by
  intro byte member
  obtain ⟨original, _, rfl⟩ := List.mem_map.mp member
  exact not_breaking_sanitizedByte original

theorem map_sanitizedByte_of_clean
    {name : Bytes}
    (clean : Clean name) :
    name.map sanitizedByte = name := by
  calc
    name.map sanitizedByte = name.map id :=
      List.map_congr_left fun byte member => by
        rcases sanitizedByte_cases byte with ⟨breaking, _⟩ | ⟨_, same⟩
        · exact absurd breaking (clean byte member)
        · exact same
    _ = name := List.map_id name

/-- Only dots are folded to dots. -/
theorem map_sanitizedByte_eq_iff
    (dots : Bytes)
    (alone : ∀ byte ∈ dots, byte = dot)
    (name : Bytes) :
    name.map sanitizedByte = dots ↔ name = dots := by
  induction dots generalizing name with
  | nil => exact List.map_eq_nil_iff
  | cons byte later inductionHypothesis =>
      cases name with
      | nil => exact iff_of_false (by simp) (by simp)
      | cons head rest =>
          have isDot := alone byte List.mem_cons_self
          rw [List.map_cons, List.cons.injEq, List.cons.injEq,
            inductionHypothesis (fun other among =>
              alone other (List.mem_cons_of_mem _ among)),
            sanitizedByte_eq_iff (isDot ▸ by decide) (isDot ▸ by decide)]

theorem plain_saveFolderName_iff
    (romPath : Bytes) :
    Plain (saveFolderName romPath) ↔
      stemOf romPath ≠ [dot] ∧ stemOf romPath ≠ [dot, dot] := by
  obtain ⟨solid, single⟩ := saveFolderName_solid romPath
  rw [saveFolderName_eq] at solid single ⊢
  have one := map_sanitizedByte_eq_iff [dot] (by simp)
    (stemOf romPath)
  have two := map_sanitizedByte_eq_iff [dot, dot] (by simp)
    (stemOf romPath)
  constructor
  · intro plain
    exact ⟨fun same => plain.notDot (one.mpr same),
      fun same => plain.notDots (two.mpr same)⟩
  · rintro ⟨notDot, notDots⟩
    exact ⟨solid, single, fun same => notDot (one.mp same),
      fun same => notDots (two.mp same)⟩

/-! ## Folders of games -/

theorem components_forRom
    (saveRoot romPath : Bytes)
    {folder : Bytes}
    (solid : folder ≠ []) :
    components (join (join saveRoot folder) (saveFolderName romPath)) =
      components (join saveRoot folder) ++
        (component (saveFolderName romPath)).toList := by
  refine components_join (saveFolderName_solid romPath).2 (.inl ?_)
  unfold join
  split
  · exact solid
  · split
    · simp [solid]
    · simp

/-- Folders under one root are the same path only when they have one name. -/
theorem components_forRom_eq_iff
    (saveRoot left right : Bytes)
    {folder : Bytes}
    (solid : folder ≠ []) :
    components (join (join saveRoot folder) (saveFolderName left)) =
        components (join (join saveRoot folder) (saveFolderName right)) ↔
      saveFolderName left = saveFolderName right := by
  rw [components_forRom saveRoot left solid,
    components_forRom saveRoot right solid, List.append_cancel_left_eq]
  constructor
  · intro same
    refine component_injective (saveFolderName_solid left).1
      (saveFolderName_solid right).1 ?_
    cases first : component (saveFolderName left) with
    | none =>
        cases second : component (saveFolderName right) with
        | none => rfl
        | some other => rw [first, second] at same; cases same
    | some named =>
        cases second : component (saveFolderName right) with
        | none => rw [first, second] at same; cases same
        | some other => rw [first, second] at same; cases same; rfl
  · intro same
    rw [same]

/-- A folder is a child of the one for all games when its name is plain. -/
theorem child_forRom_iff
    (saveRoot romPath : Bytes)
    {folder : Bytes}
    (solid : folder ≠ []) :
    (∃ name, Plain name ∧
        components (join (join saveRoot folder) (saveFolderName romPath)) =
          components (join saveRoot folder) ++ [.normal name]) ↔
      Plain (saveFolderName romPath) := by
  rw [components_forRom saveRoot romPath solid]
  constructor
  · rintro ⟨name, plain, child⟩
    have added := List.append_cancel_left child
    cases named : component (saveFolderName romPath) with
    | none => rw [named] at added; cases added
    | some part =>
        rw [named] at added
        cases added
        exact (plain_of_component (saveFolderName_solid romPath).2 named).1 ▸
          plain
  · intro plain
    exact ⟨_, plain, by rw [component_of_plain plain]; rfl⟩

/-- Two ROMs share the folders of their saves, and those of their states,
exactly when their stems become one name; stems without bytes that are folded
have to be the same for that. -/
theorem roms_share_folders_iff
    (saveRoot left right : Bytes) :
    (components (RetroSaveDirectories.forRom saveRoot left).saves =
        components (RetroSaveDirectories.forRom saveRoot right).saves ↔
      (stemOf left).map sanitizedByte = (stemOf right).map sanitizedByte) ∧
    (components (RetroSaveDirectories.forRom saveRoot left).states =
        components (RetroSaveDirectories.forRom saveRoot right).states ↔
      (stemOf left).map sanitizedByte = (stemOf right).map sanitizedByte) ∧
    (Clean (stemOf left) → Clean (stemOf right) →
      ((stemOf left).map sanitizedByte = (stemOf right).map sanitizedByte ↔
        stemOf left = stemOf right)) := by
  refine ⟨components_forRom_eq_iff saveRoot left right (by decide),
    components_forRom_eq_iff saveRoot left right (by decide), ?_⟩
  intro cleanLeft cleanRight
  rw [map_sanitizedByte_of_clean cleanLeft,
    map_sanitizedByte_of_clean cleanRight]

/-- A library of ROMs. -/
def romLibrary : Bytes := ascii "/romm/library"

/-- One game for two consoles. -/
def zeldaForSnes : Bytes := ascii "/romm/library/roms/snes/Zelda.sfc"

def zeldaForGameBoy : Bytes := ascii "/romm/library/roms/gb/Zelda.gb"

/-- Two files of the library that are kept in one folder. -/
theorem zelda_shares_folders :
    validateRetroRomPathIn some zeldaForSnes romLibrary =
        .ok zeldaForSnes ∧
      validateRetroRomPathIn some zeldaForGameBoy romLibrary =
        .ok zeldaForGameBoy ∧
      zeldaForSnes ≠ zeldaForGameBoy ∧
      ∀ saveRoot,
        RetroSaveDirectories.forRom saveRoot zeldaForSnes =
          RetroSaveDirectories.forRom saveRoot zeldaForGameBoy := by
  refine ⟨by rfl, by rfl, by decide, fun saveRoot => ?_⟩
  have named : saveFolderName zeldaForSnes =
      saveFolderName zeldaForGameBoy := by decide
  unfold RetroSaveDirectories.forRom
  rw [named]

/-! ## Settings -/

open ConfigText

/-- What is the same for every launch. -/
def pinnedPairs : List (String × String) :=
  [("video_fullscreen", "true"),
    ("video_windowed_fullscreen", "false"),
    ("video_fullscreen_x", "0"),
    ("video_fullscreen_y", "0"),
    ("gamemode_enable", "true"),
    ("input_player1_joypad_index", "0"),
    ("input_autodetect_enable", "true"),
    ("input_joypad_driver", "udev"),
    ("input_menu_toggle_btn", "nul"),
    ("input_menu_toggle_gamepad_combo", "4")]

/-- The settings that are the same for every launch. -/
def pinnedSettings : List Setting :=
  pinnedPairs.map fun pair => ⟨ascii pair.1, ascii pair.2⟩

/-- The settings with the paths of a launch. -/
def pathSettings
    (autoconfig system saves states : Bytes) : List Setting :=
  [⟨ascii "joypad_autoconfig_dir", autoconfig⟩,
    ⟨ascii "system_directory", system⟩,
    ⟨ascii "savefile_directory", saves⟩,
    ⟨ascii "savestate_directory", states⟩]

/-- The settings that keep RetroArch from filing saves elsewhere. -/
def sortSettings : List Setting :=
  ["savefiles_in_content_dir",
    "savestates_in_content_dir",
    "sort_savefiles_enable",
    "sort_savefiles_by_content_enable",
    "sort_savestates_enable",
    "sort_savestates_by_content_enable"].map fun key =>
      ⟨ascii key, ascii "false"⟩

/-- The settings of a shader preset. -/
def shaderSettings : Option Bytes → List Setting
  | none => []
  | some preset =>
      [⟨ascii "video_shader_enable", ascii "true"⟩,
        ⟨ascii "video_shader", preset⟩,
        ⟨ascii "video_shader_dir", ascii retroShaderDirectory⟩]

/-- The settings of a launch. -/
def managedSettings
    (autoconfigDirectory : Bytes)
    (saveDirectories : RetroSaveDirectories)
    (systemDirectory : Bytes)
    (shaderPreset : Option Bytes) : List Setting :=
  pinnedSettings ++
    pathSettings (Utf8.lossy autoconfigDirectory)
      (Utf8.lossy systemDirectory) (Utf8.lossy saveDirectories.saves)
      (Utf8.lossy saveDirectories.states) ++
    sortSettings ++
    shaderSettings (shaderPreset.map Utf8.lossy)

/-- The keys that a launch sets, in this order. -/
def managedKeys (shaded : Bool) : List Bytes :=
  ["video_fullscreen", "video_windowed_fullscreen", "video_fullscreen_x",
    "video_fullscreen_y", "gamemode_enable", "input_player1_joypad_index",
    "input_autodetect_enable", "input_joypad_driver",
    "input_menu_toggle_btn", "input_menu_toggle_gamepad_combo",
    "joypad_autoconfig_dir", "system_directory", "savefile_directory",
    "savestate_directory", "savefiles_in_content_dir",
    "savestates_in_content_dir", "sort_savefiles_enable",
    "sort_savefiles_by_content_enable", "sort_savestates_enable",
    "sort_savestates_by_content_enable"].map ascii ++
    if shaded then
      ["video_shader_enable", "video_shader", "video_shader_dir"].map ascii
    else
      []

theorem keys_managedSettings
    (autoconfigDirectory : Bytes)
    (saveDirectories : RetroSaveDirectories)
    (systemDirectory : Bytes)
    (shaderPreset : Option Bytes) :
    (managedSettings autoconfigDirectory saveDirectories systemDirectory
      shaderPreset).map Setting.key = managedKeys shaderPreset.isSome := by
  cases shaderPreset with
  | none =>
      simp [managedSettings, pinnedSettings, pinnedPairs, pathSettings,
        sortSettings, shaderSettings, managedKeys]
  | some preset =>
      simp [managedSettings, pinnedSettings, pinnedPairs, pathSettings,
        sortSettings, shaderSettings, managedKeys]

theorem line_ascii
    (key value : String) :
    Setting.line ⟨ascii key, ascii value⟩ =
      ascii (key ++ " = \"" ++ value ++ "\"") := by
  have opening : ascii " = \"" = [blank, equals, blank, quote] := by decide
  have closing : ascii "\"" = [quote] := by decide
  rw [ascii_append, ascii_append, ascii_append, opening, closing]
  simp [Setting.line]

theorem render_pinnedSettings :
    (ascii "\n").intercalate (pinnedLines.map ascii) ++ ascii "\n" =
      render pinnedSettings := by
  have texts : pinnedLines =
      pinnedPairs.map fun pair => pair.1 ++ " = \"" ++ pair.2 ++ "\"" := by
    decide +kernel
  have lines : pinnedLines.map ascii =
      pinnedSettings.map Setting.line := by
    rw [texts, pinnedSettings, List.map_map, List.map_map]
    exact List.map_congr_left fun pair _ => (line_ascii pair.1 pair.2).symm
  rw [lines]
  exact intercalate_lines (by decide)

theorem render_line
    (key value : Bytes) :
    render [⟨key, value⟩] =
      key ++ ascii " = \"" ++ value ++ ascii "\"\n" := by
  have opening : ascii " = \"" = [blank, equals, blank, quote] := by decide
  have closing : ascii "\"\n" = [quote, newline] := by decide
  rw [opening, closing]
  simp [render, Setting.line]

theorem render_pathSettings
    (autoconfig system saves states : Bytes) :
    render (pathSettings autoconfig system saves states) =
      (ascii "joypad_autoconfig_dir = \"" ++ autoconfig ++
        ascii "\"\n") ++
      (ascii "system_directory = \"" ++ system ++
        ascii "\"\nsavefile_directory = \"" ++ saves ++
        ascii "\"\nsavestate_directory = \"" ++ states ++
        ascii "\"\n") := by
  have first : ascii "joypad_autoconfig_dir = \"" =
      ascii "joypad_autoconfig_dir" ++ ascii " = \"" := by decide +kernel
  have second : ascii "system_directory = \"" =
      ascii "system_directory" ++ ascii " = \"" := by decide +kernel
  have third : ascii "\"\nsavefile_directory = \"" =
      ascii "\"\n" ++ (ascii "savefile_directory" ++ ascii " = \"") := by
    decide +kernel
  have fourth : ascii "\"\nsavestate_directory = \"" =
      ascii "\"\n" ++ (ascii "savestate_directory" ++ ascii " = \"") := by
    decide +kernel
  have apart : pathSettings autoconfig system saves states =
      [⟨ascii "joypad_autoconfig_dir", autoconfig⟩] ++
        [⟨ascii "system_directory", system⟩] ++
        [⟨ascii "savefile_directory", saves⟩] ++
        [⟨ascii "savestate_directory", states⟩] := rfl
  rw [apart, render_append, render_append, render_append, render_line,
    render_line, render_line, render_line, first, second, third, fourth]
  simp only [List.append_assoc]

theorem render_false
    (key : String) :
    render [⟨ascii key, ascii "false"⟩] =
      ascii (key ++ " = \"false\"\n") := by
  have value : " = \"false\"\n" = " = \"" ++ "false" ++ "\"\n" := by decide
  rw [render_line, value, ascii_append, ascii_append, ascii_append]
  simp only [List.append_assoc]

theorem render_sortSettings :
    ascii "\"\n" ++ render sortSettings =
      ascii ("\"\nsavefiles_in_content_dir = \"false\"\n" ++
        "savestates_in_content_dir = \"false\"\n" ++
        "sort_savefiles_enable = \"false\"\n" ++
        "sort_savefiles_by_content_enable = \"false\"\n" ++
        "sort_savestates_enable = \"false\"\n" ++
        "sort_savestates_by_content_enable = \"false\"\n") := by
  have each : ∀ keys : List String,
      render (keys.map fun key => ⟨ascii key, ascii "false"⟩) =
        keys.flatMap fun key => ascii (key ++ " = \"false\"\n") := by
    intro keys
    induction keys with
    | nil => rfl
    | cons key later inductionHypothesis =>
        rw [List.flatMap_cons, ← inductionHypothesis, ← render_false,
          ← render_append]
        rfl
  have first : "\"\nsavefiles_in_content_dir = \"false\"\n" =
      "\"\n" ++ ("savefiles_in_content_dir" ++ " = \"false\"\n") := by
    decide +kernel
  have second : "savestates_in_content_dir = \"false\"\n" =
      "savestates_in_content_dir" ++ " = \"false\"\n" := by decide +kernel
  have third : "sort_savefiles_enable = \"false\"\n" =
      "sort_savefiles_enable" ++ " = \"false\"\n" := by decide +kernel
  have fourth : "sort_savefiles_by_content_enable = \"false\"\n" =
      "sort_savefiles_by_content_enable" ++ " = \"false\"\n" := by
    decide +kernel
  have fifth : "sort_savestates_enable = \"false\"\n" =
      "sort_savestates_enable" ++ " = \"false\"\n" := by decide +kernel
  have sixth : "sort_savestates_by_content_enable = \"false\"\n" =
      "sort_savestates_by_content_enable" ++ " = \"false\"\n" := by
    decide +kernel
  rw [sortSettings, each, first, second, third, fourth, fifth, sixth]
  simp only [ascii_append, List.flatMap_cons, List.flatMap_nil,
    List.append_nil, List.append_assoc]

theorem render_shaderSettings
    (preset : Bytes) :
    render (shaderSettings (some preset)) =
      ascii "video_shader_enable = \"true\"\n" ++
        (ascii "video_shader = \"" ++ preset ++ ascii "\"\n") ++
        ascii ("video_shader_dir = \"" ++ retroShaderDirectory ++
          "\"\n") := by
  have enabled : ascii "video_shader_enable = \"true\"\n" =
      ascii "video_shader_enable" ++ ascii " = \"" ++ ascii "true" ++
        ascii "\"\n" := by
    decide +kernel
  have shader : ascii "video_shader = \"" =
      ascii "video_shader" ++ ascii " = \"" := by decide +kernel
  have folder : ascii "video_shader_dir = \"" =
      ascii "video_shader_dir" ++ ascii " = \"" := by decide +kernel
  rw [enabled, shader, ascii_append, ascii_append, folder, ← render_line,
    ← render_line, ← render_line, ← render_append, ← render_append]
  rfl

/-- The text of a configuration is its settings, rendered. -/
theorem retroarchManagedConfig_eq_render
    (autoconfigDirectory : Bytes)
    (saveDirectories : RetroSaveDirectories)
    (systemDirectory : Bytes)
    (shaderPreset : Option Bytes) :
    retroarchManagedConfig autoconfigDirectory saveDirectories
        systemDirectory shaderPreset =
      render (managedSettings autoconfigDirectory saveDirectories
        systemDirectory shaderPreset) := by
  unfold retroarchManagedConfig managedSettings
  rw [render_append, render_append, render_append, ← render_pinnedSettings,
    render_pathSettings, ← render_sortSettings]
  cases shaderPreset with
  | none =>
      change _ = _ ++ []
      simp only [List.append_assoc, List.append_nil]
  | some preset =>
      rw [Option.map_some, render_shaderSettings]
      simp only [List.append_assoc]

/-! ## What a launch reads back -/

theorem Clean.lossy
    {path : Bytes}
    (clean : Clean path) :
    Clean (Utf8.lossy path) := by
  have known : Clean Utf8.replacement := by decide
  intro byte member
  rcases Utf8.mem_lossy member with replaced | inside
  · exact known byte replaced
  · exact clean byte inside

theorem Clean.join
    {base name : Bytes}
    (cleanBase : Clean base)
    (cleanName : Clean name) :
    Clean (join base name) := by
  intro byte member
  rcases mem_join member with inBase | rfl | inName
  · exact cleanBase byte inBase
  · decide
  · exact cleanName byte inName

theorem plain_of_clean
    {key value : Bytes}
    (plain : Setting.Plain ⟨key, []⟩)
    (clean : Clean value) :
    Setting.Plain ⟨key, value⟩ where
  key := plain.key
  value byte member := by
    refine ⟨?_, ?_⟩
    · rintro rfl
      exact clean quote member (by decide)
    · rintro rfl
      exact clean newline member (by decide)

/-- A shader preset is one of the table. -/
theorem clean_shaderPreset
    {isFile : Bytes → Bool}
    {corePath preset : Bytes}
    (chosen : preset ∈ shaderPresetForCore isFile corePath) :
    Clean preset := by
  have texts : ∀ entry ∈ shaderPresetByCore,
      entry.2 = "crt/crt-guest-advanced.slangp" ∨
        entry.2 = "handheld/lcd-grid-v2.slangp" := by
    decide +kernel
  have table : ∀ entry ∈ shaderPresetByCore, Clean (ascii entry.2) := by
    intro entry among
    rcases texts entry among with isCrt | isLcd
    · rw [isCrt]
      decide +kernel
    · rw [isLcd]
      decide +kernel
  obtain ⟨coreFilename, _, found⟩ := Option.bind_eq_some_iff.mp chosen
  obtain ⟨entry, among, isPreset⟩ := Option.bind_eq_some_iff.mp found
  dsimp only at isPreset
  split at isPreset
  case isTrue present =>
      cases isPreset
      exact Clean.join (by decide)
        (table entry (List.mem_of_find?_eq_some among))
  case isFalse absent => cases isPreset

theorem plain_managedSettings
    {autoconfigDirectory systemDirectory : Bytes}
    {saveDirectories : RetroSaveDirectories}
    {shaderPreset : Option Bytes}
    (cleanAutoconfig : Clean autoconfigDirectory)
    (cleanSystem : Clean systemDirectory)
    (cleanSaves : Clean saveDirectories.saves)
    (cleanStates : Clean saveDirectories.states)
    (cleanPreset : ∀ preset ∈ shaderPreset, Clean preset) :
    ∀ setting ∈ managedSettings autoconfigDirectory saveDirectories
      systemDirectory shaderPreset, setting.Plain := by
  intro setting member
  rcases List.mem_append.mp member with inFront | inShader
  · rcases List.mem_append.mp inFront with inBoth | inSort
    · rcases List.mem_append.mp inBoth with pinned | inPaths
      · have all : ∀ setting ∈ pinnedSettings, setting.Plain := by
          decide +kernel
        exact all setting pinned
      · simp only [pathSettings, List.mem_cons, List.not_mem_nil,
          or_false] at inPaths
        rcases inPaths with rfl | rfl | rfl | rfl
        · exact plain_of_clean (by decide +kernel) cleanAutoconfig.lossy
        · exact plain_of_clean (by decide +kernel) cleanSystem.lossy
        · exact plain_of_clean (by decide +kernel) cleanSaves.lossy
        · exact plain_of_clean (by decide +kernel) cleanStates.lossy
    · have all : ∀ setting ∈ sortSettings, setting.Plain := by
        decide +kernel
      exact all setting inSort
  · cases shaderPreset with
    | none => cases inShader
    | some preset =>
        simp only [Option.map_some, shaderSettings, List.mem_cons,
          List.not_mem_nil, or_false] at inShader
        rcases inShader with rfl | rfl | rfl
        · decide +kernel
        · exact plain_of_clean (by decide +kernel)
            (cleanPreset preset rfl).lossy
        · decide +kernel

theorem managedKeys_nodup
    (shaded : Bool) :
    (managedKeys shaded).Nodup := by
  have all : (managedKeys true).Nodup := by decide +kernel
  cases shaded with
  | true => exact all
  | false => exact all.sublist ((List.nil_sublist _).append_left _)

/-! ## Whether a launch is harmless -/

/-- The folders of a launch are children of the ones for all games, and its
configuration reads back as the settings that are meant, each of them once,
with the folders in it as they are. -/
structure Harmless
    (saveRoot autoconfigDirectory romPath : Bytes)
    (shaderPreset : Option Bytes) : Prop where
  saves : ∃ name, Plain name ∧
    components (RetroSaveDirectories.forRom saveRoot romPath).saves =
      components (join saveRoot (ascii "saves")) ++ [.normal name]
  states : ∃ name, Plain name ∧
    components (RetroSaveDirectories.forRom saveRoot romPath).states =
      components (join saveRoot (ascii "states")) ++ [.normal name]
  settings : ∃ settings,
    parse (retroarchManagedConfig autoconfigDirectory
      (RetroSaveDirectories.forRom saveRoot romPath)
      (retroSystemDir saveRoot) shaderPreset) = some settings ∧
    settings.map (·.key) = managedKeys shaderPreset.isSome ∧
    (settings.map (·.key)).Nodup ∧
    valueOf (ascii "savefile_directory") settings =
      some (RetroSaveDirectories.forRom saveRoot romPath).saves ∧
    valueOf (ascii "savestate_directory") settings =
      some (RetroSaveDirectories.forRom saveRoot romPath).states ∧
    valueOf (ascii "system_directory") settings =
      some (retroSystemDir saveRoot)

/-- A folder of a game is displayed as it is when the root and the stem are
UTF-8. -/
theorem lossy_folder_iff
    (saveRoot romPath : Bytes)
    {first : UInt8}
    (isAscii : first < 0x80)
    (notSlash : first ≠ slash)
    {rest : Bytes}
    (ends : ∃ last, (first :: rest).getLast? = some last ∧ last ≠ slash)
    (named : Utf8.WellFormed (first :: rest)) :
    Utf8.lossy
        (join (join saveRoot (first :: rest)) (saveFolderName romPath)) =
        join (join saveRoot (first :: rest)) (saveFolderName romPath) ↔
      Utf8.WellFormed saveRoot ∧ Utf8.WellFormed (stemOf romPath) := by
  rw [Utf8.lossy_eq_self_iff,
    join_folder ends (saveFolderName_solid romPath).2,
    Utf8.wellFormed_append_iff (by decide),
    Utf8.wellFormed_join_iff isAscii notSlash, and_iff_left named,
    saveFolderName_eq, keepsAscii_sanitizedByte.wellFormed_map_iff]

theorem lossy_savesFolder_iff
    (saveRoot romPath : Bytes) :
    Utf8.lossy (RetroSaveDirectories.forRom saveRoot romPath).saves =
        (RetroSaveDirectories.forRom saveRoot romPath).saves ↔
      Utf8.WellFormed saveRoot ∧ Utf8.WellFormed (stemOf romPath) :=
  lossy_folder_iff saveRoot romPath (by decide) (by decide)
    ⟨0x73, by decide, by decide⟩ (Utf8.wellFormed_of_ascii (by decide))

theorem lossy_statesFolder_iff
    (saveRoot romPath : Bytes) :
    Utf8.lossy (RetroSaveDirectories.forRom saveRoot romPath).states =
        (RetroSaveDirectories.forRom saveRoot romPath).states ↔
      Utf8.WellFormed saveRoot ∧ Utf8.WellFormed (stemOf romPath) :=
  lossy_folder_iff saveRoot romPath (by decide) (by decide)
    ⟨0x73, by decide, by decide⟩ (Utf8.wellFormed_of_ascii (by decide))

theorem lossy_systemFolder_iff
    (saveRoot : Bytes) :
    Utf8.lossy (retroSystemDir saveRoot) = retroSystemDir saveRoot ↔
      Utf8.WellFormed saveRoot := by
  have named : Utf8.WellFormed (ascii "system") :=
    Utf8.wellFormed_of_ascii (by decide)
  rw [Utf8.lossy_eq_self_iff]
  exact (Utf8.wellFormed_join_iff (by decide) (by decide) saveRoot _).trans
    (and_iff_left named)

/-- What the paths of a launch are set to. -/
theorem values_managedSettings
    (autoconfigDirectory : Bytes)
    (saveDirectories : RetroSaveDirectories)
    (systemDirectory : Bytes)
    (shaderPreset : Option Bytes) :
    let settings := managedSettings autoconfigDirectory saveDirectories
      systemDirectory shaderPreset
    valueOf (ascii "system_directory") settings =
        some (Utf8.lossy systemDirectory) ∧
      valueOf (ascii "savefile_directory") settings =
        some (Utf8.lossy saveDirectories.saves) ∧
      valueOf (ascii "savestate_directory") settings =
        some (Utf8.lossy saveDirectories.states) := by
  intro settings
  have once : (settings.map (·.key)).Nodup :=
    keys_managedSettings autoconfigDirectory saveDirectories systemDirectory
      shaderPreset ▸ managedKeys_nodup _
  have among : ∀ setting ∈ pathSettings (Utf8.lossy autoconfigDirectory)
      (Utf8.lossy systemDirectory) (Utf8.lossy saveDirectories.saves)
      (Utf8.lossy saveDirectories.states), setting ∈ settings :=
    fun setting member => List.mem_append_left _
      (List.mem_append_left _ (List.mem_append_right _ member))
  have system := among _ (.tail _ (.head _))
  have saves := among _ (.tail _ (.tail _ (.head _)))
  have states := among _ (.tail _ (.tail _ (.tail _ (.head _))))
  exact ⟨valueOf_of_mem once system, valueOf_of_mem once saves,
    valueOf_of_mem once states⟩

/-- A launch is harmless exactly when the stem of the ROM is no dot or two,
and the stem and the root of the saves are UTF-8. -/
theorem launch_is_harmless_iff
    (saveRoot autoconfigDirectory romPath corePath : Bytes)
    (isFile : Bytes → Bool)
    (cleanRoot : Clean saveRoot)
    (cleanAutoconfig : Clean autoconfigDirectory) :
    Harmless saveRoot autoconfigDirectory romPath
        (shaderPresetForCore isFile corePath) ↔
      stemOf romPath ≠ [dot] ∧ stemOf romPath ≠ [dot, dot] ∧
        Utf8.WellFormed (stemOf romPath) ∧ Utf8.WellFormed saveRoot := by
  have cleanFolder : ∀ folder, Clean folder →
      Clean (join (join saveRoot folder) (saveFolderName romPath)) :=
    fun folder clean =>
      (cleanRoot.join clean).join (clean_saveFolderName romPath)
  have reads : parse (retroarchManagedConfig autoconfigDirectory
      (RetroSaveDirectories.forRom saveRoot romPath)
      (retroSystemDir saveRoot) (shaderPresetForCore isFile corePath)) =
        some (managedSettings autoconfigDirectory
          (RetroSaveDirectories.forRom saveRoot romPath)
          (retroSystemDir saveRoot)
          (shaderPresetForCore isFile corePath)) := by
    rw [retroarchManagedConfig_eq_render]
    exact parse_render (plain_managedSettings cleanAutoconfig
      (cleanRoot.join (by decide)) (cleanFolder _ (by decide))
      (cleanFolder _ (by decide)) fun _ => clean_shaderPreset)
  have keys := keys_managedSettings autoconfigDirectory
    (RetroSaveDirectories.forRom saveRoot romPath)
    (retroSystemDir saveRoot) (shaderPresetForCore isFile corePath)
  obtain ⟨system, saves, states⟩ := values_managedSettings
    autoconfigDirectory (RetroSaveDirectories.forRom saveRoot romPath)
    (retroSystemDir saveRoot) (shaderPresetForCore isFile corePath)
  constructor
  · rintro ⟨⟨name, plain, child⟩, _, settings, isParsed, _, _, inSaves, _, _⟩
    rw [reads] at isParsed
    cases isParsed
    have named := (plain_saveFolderName_iff romPath).mp
      ((child_forRom_iff saveRoot romPath (by decide)).mp
        ⟨name, plain, child⟩)
    have same := Option.some.inj (saves.symm.trans inSaves)
    have both := (lossy_savesFolder_iff saveRoot romPath).mp same
    exact ⟨named.1, named.2, both.2, both.1⟩
  · rintro ⟨notDot, notDots, stemShown, rootShown⟩
    have plain := (plain_saveFolderName_iff romPath).mpr ⟨notDot, notDots⟩
    refine ⟨(child_forRom_iff saveRoot romPath (by decide)).mpr plain,
      (child_forRom_iff saveRoot romPath (by decide)).mpr plain,
      _, reads, keys, keys ▸ managedKeys_nodup _, ?_, ?_, ?_⟩
    · rw [saves]
      exact congrArg some ((lossy_savesFolder_iff saveRoot romPath).mpr
        ⟨rootShown, stemShown⟩)
    · rw [states]
      exact congrArg some ((lossy_statesFolder_iff saveRoot romPath).mpr
        ⟨rootShown, stemShown⟩)
    · rw [system]
      exact congrArg some ((lossy_systemFolder_iff saveRoot).mpr rootShown)

/-- A game that is launched with a preset. -/
theorem zelda_is_harmless :
    Harmless (ascii "/home/user/saves") (ascii "/config/autoconfig")
      zeldaForSnes (shaderPresetForCore (fun _ => true)
        (ascii "/usr/lib/libretro/snes9x_libretro.so")) :=
  (launch_is_harmless_iff _ _ _ _ _ (by decide) (by decide)).mpr
    ⟨by decide, by decide, Utf8.wellFormed_of_ascii (by decide),
      Utf8.wellFormed_of_ascii (by decide)⟩

/-- A ROM whose stem is two dots. -/
def dottedRom : Bytes := ascii "/romm/library/roms/snes/...sfc"

/-- Its saves are kept beside the folder for all games. -/
theorem dotted_rom_escapes :
    validateRetroRomPathIn some dottedRom romLibrary = .ok dottedRom ∧
      Clean (ascii "/saves") ∧ Clean (ascii "/autoconfig") ∧
      (RetroSaveDirectories.forRom (ascii "/saves") dottedRom).saves =
        ascii "/saves/saves/.." ∧
      ¬ Harmless (ascii "/saves") (ascii "/autoconfig") dottedRom none := by
  refine ⟨by rfl, by decide, by decide, by decide, ?_⟩
  intro harmless
  have solid : ascii "saves" ≠ [] := by decide
  have plain := (child_forRom_iff (ascii "/saves") dottedRom solid).mp
    harmless.saves
  exact absurd plain (by decide)

end Bridge
end Hearthdeck
