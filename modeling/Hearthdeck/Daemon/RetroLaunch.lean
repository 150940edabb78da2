import Hearthdeck.Daemon.BiosSync
import Hearthdeck.Foundation.TextPaths
import Hearthdeck.Frontend.RommForm

/-!
# Launching a ROM

A ROM of RomM is launched with a libretro core: the core of its content, when
there is one for the extension, or else that of its platform.  The core is
looked for in two directories, those of the distribution and of the user.

What RomM answers, and which paths are regular files, are arguments.
-/

namespace Hearthdeck
namespace Daemon

open Foundation TextPath

/-! ## Cores -/

/-- `CORE_DIRECTORY`. -/
def coreDirectory : String := "/usr/lib/libretro"

/-- The cores of platforms, each with the slugs it is configured for. -/
def platformCores : List (String × List String) :=
  [("fceumm_libretro.so",
      ["nes", "famicom", "fds", "nintendo-entertainment-system"]),
    ("snes9x_libretro.so",
      ["snes", "sfc", "sfam", "super-famicom", "super-nintendo",
        "super-nintendo-entertainment-system"]),
    ("genesis_plus_gx_libretro.so",
      ["genesis", "genesis-slash-megadrive", "megadrive", "mega-drive",
        "sega-mega-drive", "sega-genesis", "sms", "mastersystem",
        "master-system", "sega-master-system", "gg", "gamegear",
        "game-gear", "sega-game-gear", "segacd", "sega-cd", "mega-cd",
        "mega-cd-slash-sega-cd"]),
    ("picodrive_libretro.so",
      ["sega32x", "32x", "sega-32x"]),
    ("mgba_libretro.so",
      ["gb", "gameboy", "game-boy", "gbc", "gameboy-color",
        "game-boy-color", "gba", "gameboy-advance", "game-boy-advance"]),
    ("mupen64plus_next_libretro.so",
      ["n64", "nintendo-64", "nintendo64"]),
    ("dolphin_libretro.so",
      ["ngc", "gc", "gamecube", "game-cube", "nintendo-gamecube",
        "nintendo-game-cube", "wii", "nintendo-wii"]),
    ("mednafen_psx_libretro.so",
      ["ps", "psx", "ps1", "playstation", "sony-playstation"]),
    ("pcsx2_libretro.so",
      ["ps2", "playstation-2", "sony-playstation-2"]),
    ("ppsspp_libretro.so",
      ["psp", "playstation-portable", "sony-playstation-portable"]),
    ("desmume_libretro.so",
      ["nds", "nintendo-ds", "ds"]),
    ("flycast_libretro.so",
      ["dc", "dreamcast", "sega-dreamcast"]),
    ("kronos_libretro.so",
      ["saturn", "sega-saturn"]),
    ("mednafen_pce_fast_libretro.so",
      ["pce", "pcengine", "pc-engine", "turbografx16", "turbografx-16",
        "nec-pc-engine"]),
    ("mednafen_supergrafx_libretro.so",
      ["supergrafx", "super-grafx"]),
    ("mame_libretro.so",
      ["arcade", "mame", "neogeo", "neo-geo", "snk-neo-geo"]),
    ("scummvm_libretro.so",
      ["scummvm"])]

/-- `CORE_BY_PLATFORM_SLUG`. -/
def coreByPlatformSlug : List (String × String) :=
  platformCores.flatMap fun entry => entry.2.map fun slug => (slug, entry.1)

/-- `CORE_BY_CONTENT_EXTENSION`. -/
def coreByContentExtension : List (String × String) :=
  [("32x", "picodrive_libretro.so")]

/-- The core of a content, by the extension of its name. -/
def coreOfContent (contentName : String) : Option String :=
  ((fileName contentName).bind pathExtension).bind fun extension =>
    (coreByContentExtension.find? fun entry =>
      eqIgnoreAsciiCase entry.1 extension).map Prod.snd

/-- The core of a platform. -/
def coreOfPlatform (fsSlug : String) : Option String :=
  (coreByPlatformSlug.find? fun entry => entry.1 == fsSlug).map Prod.snd

/-- `core_filename_for`. -/
def coreFilenameFor (fsSlug contentName : String) : Option String :=
  (coreOfContent contentName).or (coreOfPlatform fsSlug)

/-- `core_package_for`. -/
def corePackageFor : String → Option String
  | "fceumm_libretro.so" => some "libretro-fceumm"
  | "snes9x_libretro.so" => some "libretro-snes9x"
  | "genesis_plus_gx_libretro.so" => some "libretro-genesis-plus-gx"
  | "picodrive_libretro.so" => some "libretro-picodrive"
  | "mgba_libretro.so" => some "libretro-mgba"
  | "mupen64plus_next_libretro.so" => some "libretro-mupen64plus-next"
  | "mednafen_psx_libretro.so" => some "libretro-beetle-psx"
  | "ppsspp_libretro.so" => some "libretro-ppsspp"
  | "desmume_libretro.so" => some "libretro-desmume"
  | "dolphin_libretro.so" => some "libretro-dolphin"
  | "flycast_libretro.so" => some "libretro-flycast"
  | "kronos_libretro.so" => some "libretro-kronos"
  | "mednafen_pce_fast_libretro.so" => some "libretro-beetle-pce-fast"
  | "mednafen_supergrafx_libretro.so" => some "libretro-beetle-supergrafx"
  | "mame_libretro.so" => some "libretro-mame"
  | "scummvm_libretro.so" => some "libretro-scummvm"
  | _ => none

/-- Which paths are regular files, and where the program looks. -/
structure RetroHost where
  isFile : String → Bool
  libraryRoot : String
  /-- `retro_cores_dir`. -/
  userCoresDir : String

/-- `find_core`. -/
def findCore
    (isFile : String → Bool)
    (coreFilename : String)
    (directories : List String) : Option String :=
  (directories.map fun directory => join directory coreFilename).find? isFile

/-! ## The library -/

/-- `RommPlatform`, as far as a launch and a readiness report read it. -/
structure ListedPlatform extends RommPlatform where
  id : Int
  name : String
  displayName : Option String

/-- `RommGame`, as far as a launch reads it. -/
structure RommGame where
  id : Int
  platformId : Int
  fsName : Option String
  fsPath : Option String

/-- `RommQueryError`. -/
inductive RommQueryError
  | notConfigured
  | failed (error : String)
  deriving DecidableEq

/-- `RetroLaunchError`. -/
inductive RetroLaunchError
  | romm (error : RommQueryError)
  | platformNotFound
  | unsupportedPlatform (fsSlug : String)
  | coreNotInstalled (corePath : String)
  | romHasNoContentFile
  | invalidContentFileName
  | romNotOnDisk (path : String)
  deriving DecidableEq

/-- What RomM answers. -/
structure RommAnswers where
  /-- `Connection::load`. -/
  load : Except RommQueryError Unit
  rom : Int → Except RommQueryError RommGame
  platforms : Except RommQueryError (List ListedPlatform)

/-- `validate_content_filename`. -/
def validateContentFilename (fsName : String) :
    Except RetroLaunchError Unit :=
  match components fsName with
  | [.normal _] => .ok ()
  | _ => .error .invalidContentFileName

/-- `trim_matches`, of slashes. -/
def withoutSlashes (path : String) : String :=
  String.ofList
    ((path.toList.dropWhile (· == '/')).reverse.dropWhile
      (· == '/')).reverse

/-- A directory with the next component of a ROM's own. -/
def pushComponent
    (directory : String) : Component → Except RetroLaunchError String
  | .normal part => .ok (join directory part)
  | .curDir => .ok directory
  | .parentDir => .error .invalidContentFileName
  | .rootDir => .error .invalidContentFileName

/-- `Option::ok_or`. -/
def okOr
    {Value : Type}
    (value : Option Value)
    (error : RetroLaunchError) : Except RetroLaunchError Value :=
  match value with
  | some value => .ok value
  | none => .error error

/-- `library_rom_path`. -/
def libraryRomPath
    (host : RetroHost)
    (rom : RommGame) : Except RetroLaunchError String := do
  let fsName ← okOr
    ((rom.fsName.map Frontend.trimmed).filter fun name => name != "")
    .romHasNoContentFile
  validateContentFilename fsName
  let directory ← (components (withoutSlashes (rom.fsPath.getD ""))).foldlM
    pushComponent ""
  let romPath := join (join host.libraryRoot directory) fsName
  if host.isFile romPath then
    .ok romPath
  else
    .error (.romNotOnDisk romPath)

/-! ## Launches -/

/-- `RetroLaunchPlan`. -/
structure RetroLaunchPlan where
  corePath : String
  romPath : String
  game : RommGame

/-- `core_path_for`. -/
def corePathFor
    (host : RetroHost)
    (coreFilename : String) : Except RetroLaunchError String :=
  okOr (findCore host.isFile coreFilename [coreDirectory, host.userCoresDir])
    (.coreNotInstalled (join coreDirectory coreFilename))

/-- `prepare_launch`, from the list of platforms on. -/
def resolveLaunch
    (host : RetroHost)
    (platforms : List ListedPlatform)
    (rom : RommGame)
    (romPath : String) : Except RetroLaunchError RetroLaunchPlan := do
  let platform ← okOr
    (platforms.find? fun platform => platform.id = rom.platformId)
    .platformNotFound
  let fsSlug ← okOr (platform.fsSlug.or platform.slug)
    (.unsupportedPlatform platform.name)
  let coreFilename ← okOr (coreFilenameFor fsSlug (rom.fsName.getD ""))
    (.unsupportedPlatform fsSlug)
  let corePath ← corePathFor host coreFilename
  .ok { corePath := corePath, romPath := romPath, game := rom }

/-- `prepare_launch`. -/
def prepareLaunch
    (host : RetroHost)
    (romm : RommAnswers)
    (romId : Int) : Except RetroLaunchError RetroLaunchPlan := do
  romm.load.mapError .romm
  let rom ← (romm.rom romId).mapError .romm
  let romPath ← libraryRomPath host rom
  let platforms ← romm.platforms.mapError .romm
  resolveLaunch host platforms rom romPath

end Daemon
end Hearthdeck
