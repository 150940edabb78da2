import Hearthdeck.Foundation.FileNames
import Hearthdeck.Foundation.Files
import Hearthdeck.Foundation.Pool
import Hearthdeck.Foundation.TextPaths
import Mathlib.Data.List.MinMax

/-!
# Syncing BIOS files

A sync goes through the slots of the platforms that have ROMs.  For a slot
whose file is not there it picks a file from the listing of the source, checks
what it downloads, writes it to a file beside the target, and renames that.
Nothing keeps two syncs apart.  A section is one system call or request, a
write may be done in several, and a sync may be cut off before any of them.

Hashing is the work of a library, and so is what the source answers; both are
arguments here.  The source may name a file as it likes: its names are joined
to the directory of a slot as paths, and only a known dump gets its own name.
There are no links, so a path leads where its parts do.  Directories are not
followed: a path is a folder and the name of a file in it.
-/

namespace Hearthdeck
namespace Daemon

open Foundation

/-! ## Slots -/

/-- `KnownBios`. -/
structure KnownBios where
  name : String
  sha1 : Option String
  size : Option Nat
  deriving DecidableEq

/-- `BiosAccept`. -/
inductive BiosAccept
  | known (entries : List KnownBios)
  | pattern
      (label extension : String)
      (size : Nat)
      (prefer reject : List String)
  deriving DecidableEq

/-- `BiosSlot`. -/
structure BiosSlot where
  platforms : List String
  system : String
  targetDir : String
  required : Bool
  accept : BiosAccept
  deriving DecidableEq

def ps1SlottedPlatforms : List String :=
  ["ps", "psx", "ps1", "playstation", "sony-playstation"]

def ps2SlottedPlatforms : List String :=
  ["ps2", "playstation-2", "sony-playstation-2"]

def pceSlottedPlatforms : List String :=
  ["pce", "pcengine", "pc-engine", "turbografx16", "turbografx-16",
    "nec-pc-engine", "supergrafx", "super-grafx"]

def segaCdPlatforms : List String :=
  ["segacd", "sega-cd", "mega-cd", "mega-cd-slash-sega-cd"]

/-- `BIOS_SLOTS`. -/
def biosSlots : List BiosSlot :=
  [⟨ps1SlottedPlatforms, "Sony/PlayStation", "", false,
      .known [⟨"scph5500.bin", none, some 524288⟩]⟩,
    ⟨ps1SlottedPlatforms, "Sony/PlayStation", "", false,
      .known [⟨"scph5501.bin", none, some 524288⟩]⟩,
    ⟨ps1SlottedPlatforms, "Sony/PlayStation", "", false,
      .known [⟨"scph5502.bin", none, some 524288⟩]⟩,
    ⟨ps2SlottedPlatforms, "Sony/PlayStation 2", "pcsx2/bios", true,
      .pattern "SCPH-*.bin" "bin" 4194304 ["SCPH-"] ["SCPH-10000"]⟩,
    ⟨["saturn", "sega-saturn"], "Sega/Saturn", "", true,
      .known [⟨"sega_101.bin", none, none⟩, ⟨"mpr-17933.bin", none, none⟩]⟩,
    ⟨["dc", "dreamcast", "sega-dreamcast"], "Sega/Dreamcast", "dc", false,
      .known
        [⟨"dc_boot.bin", some "8951d1bb219ab2ff8583033d2119c899cc81f18c",
            none⟩,
          ⟨"dc_flash.bin", none, none⟩]⟩,
    ⟨segaCdPlatforms, "Sega/Mega CD", "", false,
      .known [⟨"bios_CD_E.bin",
        some "f891e0ea651e2232af0c5c4cb46a0cae2ee8f356", none⟩]⟩,
    ⟨segaCdPlatforms, "Sega/Mega CD", "", false,
      .known [⟨"bios_CD_U.bin",
        some "f4f315adcef9b8feb0364c21ab7f0eaf5457f3ed", none⟩]⟩,
    ⟨segaCdPlatforms, "Sega/Mega CD", "", false,
      .known [⟨"bios_CD_J.bin",
        some "4846f448160059a7da0215a5df12ca160f26dd69", none⟩]⟩,
    ⟨pceSlottedPlatforms, "NEC/PC Engine", "", false,
      .known
        [⟨"syscard3.pce", some "79f5ff55dd10187c7fd7b8daab0b3ffbd1f56a2c",
            none⟩,
          ⟨"syscard3u.pce", some "d02611d99921986147c753df14c7349b31d71950",
            none⟩,
          ⟨"syscard2.pce", some "88da02e2503f7c32810f5d93a34849d470742b6d",
            none⟩,
          ⟨"syscard2u.pce", some "2bea3dac98f84b2f2f469fa77ea720b8770d598d",
            none⟩,
          ⟨"syscard1.pce", some "a39a66da7de6ba94ab84d04eef7afeec7d4ee66a",
            none⟩]⟩,
    ⟨["neogeo", "neo-geo", "snk-neo-geo"], "SNK/Neo Geo", "", true,
      .known [⟨"neogeo.zip", none, none⟩]⟩,
    ⟨["fds"], "Nintendo/Famicom Disk System", "", true,
      .known [⟨"disksys.rom",
        some "57fe1bdee955bb48d357e463ccbf129496930b62", none⟩]⟩,
    ⟨["gg", "gamegear", "game-gear", "sega-game-gear"], "Sega/Game Gear", "",
      false,
      .known [⟨"bios.gg",
        some "914aa165e3d879f060be77870d345b60cfeb4ede", none⟩]⟩]

/-- `RommPlatform`, as far as a sync reads it. -/
structure RommPlatform where
  romCount : Nat
  slug : Option String
  fsSlug : Option String

/-- `platform_slug`. -/
def platformSlug (platform : RommPlatform) : String :=
  (platform.fsSlug.or platform.slug).getD ""

/-- `active_platforms`. -/
def activePlatforms (platforms : List RommPlatform) : List RommPlatform :=
  platforms.filter fun platform =>
    0 < platform.romCount && !(platformSlug platform).isEmpty

/-- `bios_slots_for`. -/
def biosSlotsFor (fsSlug : String) : List BiosSlot :=
  biosSlots.filter fun slot => slot.platforms.contains fsSlug

/-- `active_slots`.  The slots of the table differ, so that comparing them
compares their positions. -/
def activeSlots (platforms : List RommPlatform) : List BiosSlot :=
  (activePlatforms platforms).foldl
    (fun slots platform =>
      (biosSlotsFor (platformSlug platform)).foldl
        (fun slots slot =>
          if slots.contains slot then slots else slots ++ [slot])
        slots)
    []

/-! ## Names and contents -/

/-- `str::eq_ignore_ascii_case`. -/
def eqIgnoreAsciiCase (left right : String) : Bool :=
  left.toList.map Char.toLower == right.toList.map Char.toLower

/-- `Path::extension`. -/
def pathExtension (name : String) : Option String :=
  (FileName.extension '.' name.toList).map String.ofList

/-- `name_satisfies`, of the name of a file. -/
def nameSatisfies (name : String) : BiosAccept → Bool
  | .known entries => entries.any fun entry => eqIgnoreAsciiCase entry.name name
  | .pattern _ extension _ _ _ =>
      (pathExtension name).any fun found => eqIgnoreAsciiCase found extension

/-- `name_satisfies`, of a name that is a path. -/
def pathSatisfies (name : String) : BiosAccept → Bool
  | .known entries => nameSatisfies name (.known entries)
  | .pattern label extension size prefer reject =>
      (TextPath.fileName name).any fun last =>
        nameSatisfies last (.pattern label extension size prefer reject)

/-- `file_is_verified`, told how contents are hashed. -/
def fileIsVerified
    (sha1Hex : List UInt8 → String)
    (name : String)
    (bytes : List UInt8) : BiosAccept → Bool
  | .known entries =>
      match entries.find? fun entry => eqIgnoreAsciiCase entry.name name with
      | none => false
      | some entry =>
          if entry.size.any fun size => bytes.length ≠ size then
            false
          else
            entry.sha1.all fun sha1 => sha1Hex bytes == sha1
  | .pattern _ _ size _ _ => bytes.length == size

/-- `SourceEntry`. -/
structure SourceEntry where
  name : String
  size : Nat := 0
  downloadUrl : Option String := none

/-- A name without regard to case starts with one of these. -/
def startsLike (fronts : List String) (name : String) : Bool :=
  fronts.any fun front =>
    (front.toList.map Char.toLower).isPrefixOf (name.toList.map Char.toLower)

/-- `pick_candidate`. -/
def pickCandidate (entries : List SourceEntry) :
    BiosAccept → Option SourceEntry
  | .known known =>
      known.findSome? fun entry =>
        entries.find? fun candidate =>
          eqIgnoreAsciiCase candidate.name entry.name
  | .pattern label extension size prefer reject =>
      (entries.filter fun candidate =>
          pathSatisfies candidate.name
            (.pattern label extension size prefer reject) &&
            candidate.size == size).argmin fun candidate =>
        if startsLike reject candidate.name then
          2
        else if startsLike prefer candidate.name then
          0
        else
          1

/-- `canonical_name`. -/
def canonicalName (slot : BiosSlot) (sourceName : String) : String :=
  match slot.accept with
  | .known entries =>
      ((entries.find? fun entry =>
        eqIgnoreAsciiCase entry.name sourceName).map KnownBios.name).getD
          sourceName
  | .pattern _ _ _ _ _ => sourceName

/-- `slot_display_name`. -/
def slotDisplayName (slot : BiosSlot) : String :=
  match slot.accept with
  | .known entries => (entries.head?.map KnownBios.name).getD ""
  | .pattern label _ _ _ _ => label

section Paths

variable {Name : Type} (encode : String → Name) (systemDir : List Name)

/-- The target directory of a slot. -/
def slotFolder (slot : BiosSlot) : List Name :=
  TextPath.walk encode systemDir (TextPath.parts slot.targetDir)

/-- `target_path`, as far as its parent leads. -/
def targetParent (slot : BiosSlot) (name : String) : List Name :=
  TextPath.walk encode
    (if TextPath.isAbsolute name then []
      else slotFolder encode systemDir slot)
    (TextPath.parts name).dropLast

end Paths

/-- The folder that a path leads to, and the name of the file in it. -/
abbrev SystemPath := List String × String

/-- `Path::with_extension`, of the name of a file that is written. -/
def partialName (name : String) : String :=
  String.ofList (FileName.withExtension '.' name.toList "partial".toList)

/-- The file beside a target through which it is written. -/
def partialPath (target : SystemPath) : SystemPath :=
  (target.1, partialName target.2)

/-- The error of a rename.  To what looks like a directory there is none. -/
def renameError (fault : Option String) (name : String) : Option String :=
  if TextPath.isBare name then
    fault
  else
    some (fault.getD "Not a directory (os error 20)")

/-- `SlotState`. -/
inductive SlotState
  | missing
  | present (name : String) (verified : Bool)

/-- `slot_state`, told the names in the folder and what was read of each. -/
def slotState
    (sha1Hex : List UInt8 → String)
    (accept : BiosAccept)
    (entries : List (String × Option (List UInt8))) : SlotState :=
  (entries.filter fun entry => nameSatisfies entry.1 accept).foldl
    (fun found entry =>
      match found with
      | .present name true => .present name true
      | _ => .present entry.1
          (entry.2.any fun bytes =>
            fileIsVerified sha1Hex entry.1 bytes accept))
    .missing

/-! ## Runs -/

/-- `RetroBiosSyncFailure`. -/
structure SyncFailure where
  filename : String
  reason : String

/-- What the program takes from elsewhere, and where its files are. -/
structure SyncService where
  sha1Hex : List UInt8 → String
  /-- How the target of a slot and a name is shown. -/
  display : BiosSlot → String → String
  systemDir : List String

/-- `target_path`, where it leads. -/
def SyncService.targetPath
    (service : SyncService)
    (slot : BiosSlot)
    (name : String) : SystemPath :=
  (targetParent id service.systemDir slot name,
    (TextPath.fileName name).getD "")

/-- `MAX_SOURCE_FILE_BYTES`. -/
def maxSourceFileBytes : Nat := 128 * 1024 * 1024

/-- A run: the slots it has before it, the listings it has read, and what it
will report. -/
structure SyncRun where
  slots : List BiosSlot
  listings : List (String × Except String (List SourceEntry)) := []
  fetched : List String := []
  failed : List SyncFailure := []

/-- The runs under way, each named by its next system call or request. -/
inductive SyncTask
  /-- `slot_state` of the next slot, or the report. -/
  | check (run : SyncRun)
  /-- `place_bios`. -/
  | list (run : SyncRun) (slot : BiosSlot)
  | download
      (run : SyncRun)
      (slot : BiosSlot)
      (candidate : SourceEntry)
  /-- `write_file`, of checked contents under a name. -/
  | createDirs
      (run : SyncRun)
      (slot : BiosSlot)
      (name : String)
      (bytes : List UInt8)
  | create
      (run : SyncRun)
      (slot : BiosSlot)
      (name : String)
      (bytes : List UInt8)
  | write
      (run : SyncRun)
      (slot : BiosSlot)
      (name : String)
      (bytes : List UInt8)
      (file offset : Nat)
  | rename
      (run : SyncRun)
      (slot : BiosSlot)
      (name : String)
      (bytes : List UInt8)

/-- What a section is answered from outside. -/
structure SyncReply where
  /-- The run is cut off. -/
  cut : Bool := false
  /-- The error of the system call. -/
  fault : Option String := none
  /-- The names in the folder of the slot, and what was read of each. -/
  present : List (String × Option (List UInt8)) := []
  listing : Except String (List SourceEntry) := .ok []
  content : Except String (List UInt8) := .ok []
  /-- How many bytes the call wrote. -/
  count : Nat := 0

/-- What the runs share: the files, and the report of the last step. -/
structure SystemDir where
  files : Files SystemPath UInt8
  report : Option (List String × List SyncFailure) := none

namespace SystemDir

variable (service : SyncService)

/-- The run fails for a slot and goes on to the next. -/
def fails (run : SyncRun) (filename reason : String) : SyncTask :=
  .check { run with failed := run.failed ++ [⟨filename, reason⟩] }

/-- The folder of a slot in the source. -/
def sourceFolder (slot : BiosSlot) : String :=
  "bios/" ++ slot.system

/-- `place_bios`, from the listing on. -/
def choose
    (run : SyncRun)
    (slot : BiosSlot)
    (listing : Except String (List SourceEntry)) : SyncTask :=
  match listing with
  | .error reason => fails run (slotDisplayName slot) reason
  | .ok entries =>
      match pickCandidate entries slot.accept with
      | none =>
          fails run (slotDisplayName slot)
            ("no matching file in the source's " ++ sourceFolder slot)
      | some candidate => .download run slot candidate

/-- `sync_bios`, its next slot.  A folder is listed once. -/
def check
    (dir : SystemDir)
    (run : SyncRun)
    (reply : SyncReply) : SystemDir × List SyncTask :=
  match run.slots with
  | [] => ({ dir with report := some (run.fetched, run.failed) }, [])
  | slot :: slots =>
      let run := { run with slots := slots }
      let next :=
        match slotState service.sha1Hex slot.accept reply.present with
        | .present _ true => .check run
        | _ =>
            match run.listings.lookup (sourceFolder slot) with
            | some listing => choose run slot listing
            | none => .list run slot
      ({ dir with report := none }, [next])

/-- `SourceFetcher::download`, and what is made of it. -/
def download
    (run : SyncRun)
    (slot : BiosSlot)
    (candidate : SourceEntry)
    (reply : SyncReply) : SyncTask :=
  let name := canonicalName slot candidate.name
  if candidate.downloadUrl.isNone then
    fails run name "the source offers no download URL for this file"
  else
    match reply.content with
    | .error reason => fails run name reason
    | .ok bytes =>
        if maxSourceFileBytes < bytes.length then
          fails run name "the file is too large to be a BIOS dump"
        else if fileIsVerified service.sha1Hex candidate.name bytes
            slot.accept then
          .createDirs run slot name bytes
        else
          fails run name "the downloaded file failed verification"

/-- A system call of `write_file` failed. -/
def couldNotWrite
    (run : SyncRun)
    (slot : BiosSlot)
    (name error : String) : SyncTask :=
  fails run name
    ("could not write " ++ service.display slot name ++ ": " ++ error)

/-- What follows when so many bytes are written. -/
def written
    (run : SyncRun)
    (slot : BiosSlot)
    (name : String)
    (bytes : List UInt8)
    (file offset : Nat) : SyncTask :=
  if bytes.length ≤ offset then
    .rename run slot name bytes
  else
    .write run slot name bytes file offset

/-- `write_file`, opening the file beside the target. -/
def create
    (dir : SystemDir)
    (run : SyncRun)
    (slot : BiosSlot)
    (name : String)
    (bytes : List UInt8)
    (reply : SyncReply) : SystemDir × List SyncTask :=
  match reply.fault with
  | some error => (dir, [couldNotWrite service run slot name error])
  | none =>
      let opened :=
        dir.files.create (partialPath (service.targetPath slot name))
      ({ dir with files := opened.1 },
        [written run slot name bytes opened.2 0])

/-- `write_file`, one write of at least a byte. -/
def write
    (dir : SystemDir)
    (run : SyncRun)
    (slot : BiosSlot)
    (name : String)
    (bytes : List UInt8)
    (file offset : Nat)
    (reply : SyncReply) : SystemDir × List SyncTask :=
  match reply.fault with
  | some error => (dir, [couldNotWrite service run slot name error])
  | none =>
      let part := (bytes.drop offset).take (max 1 reply.count)
      ({ dir with files := dir.files.write 0 file offset part },
        [written run slot name bytes file (offset + part.length)])

/-- `write_file`, its rename. -/
def rename
    (dir : SystemDir)
    (run : SyncRun)
    (slot : BiosSlot)
    (name : String)
    (reply : SyncReply) : SystemDir × List SyncTask :=
  let target := service.targetPath slot name
  match renameError reply.fault name,
      dir.files.rename (partialPath target) target with
  | none, some files =>
      ({ dir with files := files },
        [.check { run with fetched := run.fetched ++ [name] }])
  | fault, _ =>
      (dir, [couldNotWrite service run slot name
        (fault.getD "No such file or directory (os error 2)")])

/-- The next section of a run. -/
def perform
    (dir : SystemDir)
    (task : SyncTask)
    (reply : SyncReply) : SystemDir × List SyncTask :=
  if reply.cut then
    (dir, [])
  else
    match task with
    | .check run => check service dir run reply
    | .list run slot =>
        let listings := (sourceFolder slot, reply.listing) :: run.listings
        (dir, [choose { run with listings := listings } slot reply.listing])
    | .download run slot candidate =>
        (dir, [download service run slot candidate reply])
    | .createDirs run slot name bytes =>
        match reply.fault with
        | some error => (dir, [couldNotWrite service run slot name error])
        | none => (dir, [.create run slot name bytes])
    | .create run slot name bytes =>
        create service dir run slot name bytes reply
    | .write run slot name bytes file offset =>
        write service dir run slot name bytes file offset reply
    | .rename run slot name _ => rename service dir run slot name reply

/-- `sync_bios` starts. -/
def enter
    (dir : SystemDir)
    (platforms : List RommPlatform) : SystemDir × List SyncTask :=
  (dir, [.check { slots := activeSlots platforms }])

/-- Syncing as a program of runs. -/
def program :
    Program SystemDir SyncTask (List RommPlatform) SyncReply where
  enter := enter
  perform := perform service

/-- The runs over the files that were there. -/
def machine (files : Files SystemPath UInt8) :
    Machine (Pool SystemDir SyncTask) (Move (List RommPlatform) SyncReply)
      Unit :=
  (program service).machine { files := files }

end SystemDir
end Daemon
end Hearthdeck
