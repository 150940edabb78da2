import Hearthdeck.Daemon.RetroLaunch
import Hearthdeck.Foundation.KeySort
import Mathlib.Data.String.Basic

/-!
# Readiness of the platforms

A report has a row for every platform that has ROMs and a core, and the row
shows whether the core is installed.  A launch looks for a core in the same
directories, but asks the content of the ROM first.  The two are of one mind
as long as the content does not ask for another core than the platform, or
neither of the two is installed.

What `slot_state` finds of the BIOS files is an argument.
-/

namespace Hearthdeck
namespace Daemon

open Foundation TextPath

/-! ## The report -/

/-- `RetroBiosFile`. -/
structure RetroBiosFile where
  system : String
  filename : String
  required : Bool
  present : Bool
  verified : Bool
  target : String

/-- `RetroCoreReadiness`. -/
structure RetroCoreReadiness where
  coreFilename : String
  package : String
  installed : Bool

/-- `RetroSystemReadiness`. -/
structure RetroSystemReadiness where
  platform : String
  displayName : String
  core : RetroCoreReadiness
  bios : List RetroBiosFile

/-- `ReadinessPaths`, with what is found of the slots in `system_dir`. -/
structure ReadinessPaths where
  coresDir : String
  userCoresDir : String
  slotState : BiosSlot → SlotState

/-- `ReadinessPaths::discover`. -/
def ReadinessPaths.discover
    (host : RetroHost)
    (slotState : BiosSlot → SlotState) : ReadinessPaths where
  coresDir := coreDirectory
  userCoresDir := host.userCoresDir
  slotState := slotState

/-- `slot_target_display`. -/
def slotTargetDisplay (slot : BiosSlot) (name : String) : String :=
  if slot.targetDir.isEmpty then
    name
  else
    slot.targetDir ++ "/" ++ name

/-- `bios_file_status`. -/
def biosFileStatus (slot : BiosSlot) (state : SlotState) : RetroBiosFile :=
  let (filename, present, verified) :=
    match state with
    | .missing => (slotDisplayName slot, false, false)
    | .present name verified => (name, true, verified)
  { system := slot.system
    filename := filename
    required := slot.required
    present := present
    verified := verified
    target := slotTargetDisplay slot filename }

/-- The name under which a platform is shown. -/
def shownName (platform : ListedPlatform) : String :=
  platform.displayName.getD platform.name

/-- `readiness`, the row of a platform with a core. -/
def readinessRow
    (isFile : String → Bool)
    (paths : ReadinessPaths)
    (platform : ListedPlatform)
    (coreFilename : String) : RetroSystemReadiness where
  platform := platformSlug platform.toRommPlatform
  displayName := shownName platform
  core :=
    { coreFilename := coreFilename
      package := (corePackageFor coreFilename).getD ""
      installed := (findCore isFile coreFilename
        [paths.coresDir, paths.userCoresDir]).isSome }
  bios := (biosSlotsFor (platformSlug platform.toRommPlatform)).map
    fun slot => biosFileStatus slot (paths.slotState slot)

/-- A platform that has ROMs and a slug. -/
def isActive (platform : ListedPlatform) : Bool :=
  0 < platform.romCount && !(platformSlug platform.toRommPlatform).isEmpty

/-- `readiness`. -/
def readiness
    (isFile : String → Bool)
    (paths : ReadinessPaths)
    (platforms : List ListedPlatform) : List RetroSystemReadiness :=
  sortByKey RetroSystemReadiness.displayName
    ((platforms.filter isActive).filterMap fun platform =>
      (coreFilenameFor (platformSlug platform.toRommPlatform) "").map
        (readinessRow isFile paths platform))

/-! ## What is asked of it -/

/-- The row of a platform in a report. -/
structure IsRowOf
    (report : List RetroSystemReadiness)
    (platform : ListedPlatform)
    (row : RetroSystemReadiness) : Prop where
  reported : row ∈ report
  slug : row.platform = platformSlug platform.toRommPlatform
  shown : row.displayName = shownName platform

/-- A report says of a platform what a launch of one of its ROMs comes to. -/
structure Agrees
    (report : List RetroSystemReadiness)
    (platform : ListedPlatform)
    (launch : Except RetroLaunchError RetroLaunchPlan) : Prop where
  /-- The row shows an installed core when the launch resolves one. -/
  installed :
    (∃ row, IsRowOf report platform row ∧ row.core.installed = true) ↔
      ∃ plan, launch = .ok plan
  /-- The resolved core has the file name that the row shows. -/
  named : ∀ row, IsRowOf report platform row →
    ∀ plan, launch = .ok plan →
      fileName plan.corePath = some row.core.coreFilename
  /-- Without a row nothing is launched. -/
  absent : (∀ row, ¬ IsRowOf report platform row) →
    ∀ plan, launch ≠ .ok plan

/-- Where a launch on this host finds a core. -/
def installedAt (host : RetroHost) (coreFilename : String) : Option String :=
  findCore host.isFile coreFilename [coreDirectory, host.userCoresDir]

/-- When the content of a ROM asks for a core, it is that of the platform, or
neither of the two is installed. -/
def Consistent
    (host : RetroHost)
    (platform : ListedPlatform)
    (rom : RommGame) : Prop :=
  ∀ fsSlug, platform.fsSlug.or platform.slug = some fsSlug →
    ∀ asked, coreOfContent (rom.fsName.getD "") = some asked →
      coreOfPlatform fsSlug = some asked ∨
        installedAt host asked = none ∧
          ∀ core, coreOfPlatform fsSlug = some core →
            installedAt host core = none

/-! ## Cores -/

theorem coreFilenameFor_bare
    (fsSlug : String) :
    coreFilenameFor fsSlug "" = coreOfPlatform fsSlug := by
  have nothing : coreOfContent "" = none := by decide
  rw [coreFilenameFor, nothing, Option.none_or]

theorem isPlain_platformCores :
    ∀ entry ∈ platformCores, isPlain entry.1 = true := by
  decide +kernel

theorem isPlain_coreByContentExtension :
    ∀ entry ∈ coreByContentExtension, isPlain entry.2 = true := by
  decide

/-- No core has no slug. -/
theorem coreOfPlatform_empty :
    coreOfPlatform "" = none := by
  decide

/-- The file names of cores are plain. -/
theorem isPlain_of_coreFilenameFor
    {fsSlug contentName core : String}
    (chosen : coreFilenameFor fsSlug contentName = some core) :
    isPlain core = true := by
  rcases Option.or_eq_some_iff.mp chosen with content | ⟨_, platform⟩
  · obtain ⟨extension, _, found⟩ := Option.bind_eq_some_iff.mp content
    obtain ⟨entry, finds, rfl⟩ := Option.map_eq_some_iff.mp found
    exact isPlain_coreByContentExtension entry
      (List.mem_of_find?_eq_some finds)
  · obtain ⟨entry, finds, rfl⟩ := Option.map_eq_some_iff.mp platform
    obtain ⟨group, member, among⟩ :=
      List.mem_flatMap.mp (List.mem_of_find?_eq_some finds)
    obtain ⟨slug, _, rfl⟩ := List.mem_map.mp among
    exact isPlain_platformCores group member

/-- What is found for a core has its file name. -/
theorem fileName_of_findCore
    {isFile : String → Bool}
    {core path : String}
    {directories : List String}
    (plain : isPlain core = true)
    (found : findCore isFile core directories = some path) :
    fileName path = some core := by
  obtain ⟨directory, _, rfl⟩ :=
    List.mem_map.mp (List.mem_of_find?_eq_some found)
  exact fileName_join plain directory

/-! ## Launches -/

theorem bind_eq_ok_iff
    {Error First Second : Type}
    {first : Except Error First}
    {next : First → Except Error Second}
    {result : Second} :
    (first >>= next) = .ok result ↔
      ∃ between, first = .ok between ∧ next between = .ok result := by
  cases first <;> simp [bind, Except.bind]

theorem okOr_eq_ok_iff
    {Value : Type}
    {value : Option Value}
    {error : RetroLaunchError}
    {result : Value} :
    okOr value error = .ok result ↔ value = some result := by
  cases value <;> simp [okOr]

variable
  {host : RetroHost}
  {platforms : List ListedPlatform}
  {platform : ListedPlatform}
  {rom : RommGame}
  {romPath : String}

/-- A launch from a list with distinct identifiers: it resolves the core that
is chosen for the slug and the content, where it is installed. -/
theorem resolveLaunch_eq_ok_iff
    (distinct : (platforms.map ListedPlatform.id).Nodup)
    (listed : platform ∈ platforms)
    (filed : rom.platformId = platform.id)
    {plan : RetroLaunchPlan} :
    resolveLaunch host platforms rom romPath = .ok plan ↔
      ∃ fsSlug, platform.fsSlug.or platform.slug = some fsSlug ∧
        ∃ core, coreFilenameFor fsSlug (rom.fsName.getD "") = some core ∧
          ∃ path, installedAt host core = some path ∧
            plan = { corePath := path, romPath := romPath, game := rom } := by
  have finds : (platforms.find? fun other => other.id = rom.platformId) =
      some platform := by
    rw [filed]
    exact find?_key_eq_some ListedPlatform.id listed
      fun other member same =>
        List.inj_on_of_nodup_map distinct member listed same
  unfold resolveLaunch corePathFor installedAt
  simp only [bind_eq_ok_iff, okOr_eq_ok_iff, Except.ok.injEq]
  constructor
  · rintro ⟨other, same, fsSlug, slugged, core, chosen, path, found, rfl⟩
    rw [finds] at same
    cases same
    exact ⟨fsSlug, slugged, core, chosen, path, found, rfl⟩
  · rintro ⟨fsSlug, slugged, core, chosen, path, found, rfl⟩
    exact ⟨platform, finds, fsSlug, slugged, core, chosen, path, found, rfl⟩

/-! ## Rows -/

theorem isActive_of_coreOfPlatform
    (played : 0 < platform.romCount)
    {core : String}
    (mapped :
      coreOfPlatform (platformSlug platform.toRommPlatform) = some core) :
    isActive platform = true := by
  unfold isActive
  rw [decide_eq_true played, Bool.true_and, Bool.not_eq_true',
    Bool.eq_false_iff]
  intro empty
  have none : platformSlug platform.toRommPlatform = "" := by
    simpa using empty
  rw [none, coreOfPlatform_empty] at mapped
  cases mapped

/-- The rows of a platform show its core, and whether it is installed. -/
theorem isRowOf_shows
    {slotState : BiosSlot → SlotState}
    {row : RetroSystemReadiness}
    (isRow : IsRowOf
      (readiness host.isFile (.discover host slotState) platforms)
      platform row) :
    coreOfPlatform (platformSlug platform.toRommPlatform) =
        some row.core.coreFilename ∧
      row.core.installed =
        (installedAt host row.core.coreFilename).isSome := by
  have member := (perm_sortByKey _ _).mem_iff.mp isRow.reported
  obtain ⟨other, _, made⟩ := List.mem_filterMap.mp member
  obtain ⟨core, mapped, rfl⟩ := Option.map_eq_some_iff.mp made
  rw [coreFilenameFor_bare] at mapped
  have slug : platformSlug other.toRommPlatform =
      platformSlug platform.toRommPlatform := isRow.slug
  rw [slug] at mapped
  exact ⟨mapped, rfl⟩

/-- A platform with ROMs and a core has a row. -/
theorem exists_isRowOf
    (slotState : BiosSlot → SlotState)
    (listed : platform ∈ platforms)
    (played : 0 < platform.romCount)
    {core : String}
    (mapped :
      coreOfPlatform (platformSlug platform.toRommPlatform) = some core) :
    ∃ row, IsRowOf
      (readiness host.isFile (.discover host slotState) platforms)
      platform row := by
  refine ⟨readinessRow host.isFile (.discover host slotState) platform core,
    ?_, rfl, rfl⟩
  apply (perm_sortByKey _ _).mem_iff.mpr
  refine List.mem_filterMap.mpr ⟨platform, List.mem_filter.mpr
    ⟨listed, isActive_of_coreOfPlatform played mapped⟩, ?_⟩
  rw [coreFilenameFor_bare, mapped]
  rfl

/-! ## Reports and launches -/

/-- With the core of a platform and that of the launch known, the report
agrees with the launch when they are installed together, and are the same one
if so. -/
theorem agrees_iff
    {slotState : BiosSlot → SlotState}
    (listed : platform ∈ platforms)
    (played : 0 < platform.romCount)
    {launch : Except RetroLaunchError RetroLaunchPlan}
    {chosen : Option String}
    (resolves : ∀ plan, launch = .ok plan ↔
      ∃ core, chosen = some core ∧ ∃ path,
        installedAt host core = some path ∧
          plan = { corePath := path, romPath := romPath, game := rom })
    (plain : ∀ core, chosen = some core → isPlain core = true) :
    Agrees (readiness host.isFile (.discover host slotState) platforms)
        platform launch ↔
      ((∃ core, coreOfPlatform (platformSlug platform.toRommPlatform) =
          some core ∧ (installedAt host core).isSome = true) ↔
        ∃ core, chosen = some core ∧
          (installedAt host core).isSome = true) ∧
      ∀ core other,
        coreOfPlatform (platformSlug platform.toRommPlatform) = some core →
        chosen = some other → (installedAt host other).isSome = true →
          other = core := by
  have launches : (∃ plan, launch = .ok plan) ↔
      ∃ core, chosen = some core ∧
        (installedAt host core).isSome = true := by
    constructor
    · rintro ⟨plan, ok⟩
      obtain ⟨core, isChosen, path, found, _⟩ := (resolves plan).mp ok
      exact ⟨core, isChosen, Option.isSome_iff_exists.mpr ⟨path, found⟩⟩
    · rintro ⟨core, isChosen, found⟩
      obtain ⟨path, isPath⟩ := Option.isSome_iff_exists.mp found
      exact ⟨_, (resolves _).mpr ⟨core, isChosen, path, isPath, rfl⟩⟩
  have rows : (∃ row, IsRowOf
      (readiness host.isFile (.discover host slotState) platforms)
      platform row ∧ row.core.installed = true) ↔
      ∃ core, coreOfPlatform (platformSlug platform.toRommPlatform) =
        some core ∧ (installedAt host core).isSome = true := by
    constructor
    · rintro ⟨row, isRow, green⟩
      obtain ⟨mapped, installed⟩ := isRowOf_shows isRow
      exact ⟨_, mapped, installed.symm.trans green⟩
    · rintro ⟨core, mapped, found⟩
      obtain ⟨row, isRow⟩ := exists_isRowOf slotState listed played mapped
      obtain ⟨shows, installed⟩ := isRowOf_shows isRow
      rw [mapped] at shows
      rw [← Option.some.inj shows, found] at installed
      exact ⟨row, isRow, installed⟩
  constructor
  · intro agrees
    refine ⟨rows.symm.trans (agrees.installed.trans launches), ?_⟩
    intro core other mapped isChosen found
    obtain ⟨row, isRow⟩ := exists_isRowOf slotState listed played mapped
    obtain ⟨path, isPath⟩ := Option.isSome_iff_exists.mp found
    have shown := agrees.named row isRow _
      ((resolves _).mpr ⟨other, isChosen, path, isPath, rfl⟩)
    have named := fileName_of_findCore (plain other isChosen) isPath
    rw [named] at shown
    have shows := (isRowOf_shows isRow).1
    rw [mapped] at shows
    exact (Option.some.inj shown).trans (Option.some.inj shows).symm
  · rintro ⟨together, same⟩
    have installed := rows.trans (together.trans launches.symm)
    constructor
    case installed => exact installed
    case named =>
        intro row isRow plan ok
        obtain ⟨other, isChosen, path, found, rfl⟩ := (resolves plan).mp ok
        have equal := same _ other (isRowOf_shows isRow).1 isChosen
          (Option.isSome_iff_exists.mpr ⟨path, found⟩)
        rw [← equal]
        exact fileName_of_findCore (plain other isChosen) found
    case absent =>
        intro none plan ok
        obtain ⟨row, isRow, _⟩ := installed.mpr ⟨plan, ok⟩
        exact none row isRow

/-- Two cores that are chosen in different ways are installed together, and
one if so, when they are one or none is installed. -/
theorem together_iff
    (found : String → Bool)
    (mapped asked : Option String) :
    ((∃ core, mapped = some core ∧ found core = true) ↔
        ∃ core, asked.or mapped = some core ∧ found core = true) ∧
      (∀ core other, mapped = some core → asked.or mapped = some other →
        found other = true → other = core) ↔
    ∀ core, asked = some core →
      mapped = some core ∨ found core = false ∧
        ∀ other, mapped = some other → found other = false := by
  cases asked with
  | none =>
      rw [Option.none_or]
      constructor
      · nofun
      · intro _
        exact ⟨Iff.rfl, fun _ _ first second _ =>
          Option.some.inj (second.symm.trans first)⟩
  | some asked =>
      cases mapped with
      | none => simp
      | some mapped =>
          by_cases same : mapped = asked
          · simp [same]
          · cases first : found asked with
            | false => simp [first, same]
            | true => simp [first, same, Ne.symm same]

/-- The report on a platform agrees with the launch of one of its ROMs exactly
when the content of the ROM asks for no other core than the platform, or
neither of the two is installed. -/
theorem readiness_agrees_iff
    (host : RetroHost)
    (slotState : BiosSlot → SlotState)
    (romm : RommAnswers)
    {platforms : List ListedPlatform}
    {platform : ListedPlatform}
    {rom : RommGame}
    {romId : Int}
    {romPath : String}
    (loads : romm.load = .ok ())
    (lists : romm.platforms = .ok platforms)
    (answers : romm.rom romId = .ok rom)
    (distinct : (platforms.map ListedPlatform.id).Nodup)
    (listed : platform ∈ platforms)
    (played : 0 < platform.romCount)
    (filed : rom.platformId = platform.id)
    (present : libraryRomPath host rom = .ok romPath) :
    Agrees (readiness host.isFile (.discover host slotState) platforms)
        platform (prepareLaunch host romm romId) ↔
      Consistent host platform rom := by
  have launch : prepareLaunch host romm romId =
      resolveLaunch host platforms rom romPath := by
    unfold prepareLaunch
    rw [loads, answers, lists]
    change (libraryRomPath host rom >>= fun romPath =>
      resolveLaunch host platforms rom romPath) = _
    rw [present]
    rfl
  rw [launch]
  cases slugged : platform.fsSlug.or platform.slug with
  | none =>
      have slug : platformSlug platform.toRommPlatform = "" := by
        rw [platformSlug, slugged]
        rfl
      have never : ∀ plan,
          resolveLaunch host platforms rom romPath = .ok plan ↔
            ∃ core, (none : Option String) = some core ∧ ∃ path,
              installedAt host core = some path ∧
                plan =
                  { corePath := path, romPath := romPath, game := rom } := by
        intro plan
        rw [resolveLaunch_eq_ok_iff distinct listed filed, slugged]
        simp
      rw [agrees_iff listed played never nofun, slug, coreOfPlatform_empty]
      unfold Consistent
      rw [slugged]
      simp
  | some fsSlug =>
      have slug : platformSlug platform.toRommPlatform = fsSlug := by
        rw [platformSlug, slugged]
        rfl
      have resolves : ∀ plan,
          resolveLaunch host platforms rom romPath = .ok plan ↔
            ∃ core, coreFilenameFor fsSlug (rom.fsName.getD "") =
              some core ∧ ∃ path, installedAt host core = some path ∧
                plan =
                  { corePath := path, romPath := romPath, game := rom } := by
        intro plan
        rw [resolveLaunch_eq_ok_iff distinct listed filed, slugged]
        simp
      rw [agrees_iff listed played resolves
        (fun core chosen => isPlain_of_coreFilenameFor chosen), slug]
      refine (together_iff (fun core => (installedAt host core).isSome)
        (coreOfPlatform fsSlug)
        (coreOfContent (rom.fsName.getD ""))).trans ?_
      unfold Consistent
      rw [slugged]
      simp

/-- The Mega Drive, with one ROM. -/
def megaDrive : ListedPlatform where
  romCount := 1
  slug := none
  fsSlug := some "genesis"
  id := 1
  name := "Mega Drive"
  displayName := none

/-- A ROM of the Mega Drive with this name. -/
def megaDriveRom (fsName : String) : RommGame where
  id := 7
  platformId := 1
  fsName := some fsName
  fsPath := some "genesis/roms"

/-- RomM with this ROM only. -/
def megaDriveRomm (fsName : String) : RommAnswers where
  load := .ok ()
  rom _ := .ok (megaDriveRom fsName)
  platforms := .ok [megaDrive]

/-- A host with the core of the Mega Drive and two ROMs. -/
def megaDriveHost : RetroHost where
  isFile path := ["/usr/lib/libretro/genesis_plus_gx_libretro.so",
    "/library/genesis/roms/sonic.md",
    "/library/genesis/roms/chaotix.32x"].contains path
  libraryRoot := "/library"
  userCoresDir := "/cores"

theorem readiness_agrees_iff_sonic :
    Agrees
        (readiness megaDriveHost.isFile
          (.discover megaDriveHost fun _ => .missing) [megaDrive])
        megaDrive
        (prepareLaunch megaDriveHost (megaDriveRomm "sonic.md") 7) ↔
      Consistent megaDriveHost megaDrive (megaDriveRom "sonic.md") :=
  readiness_agrees_iff megaDriveHost (fun _ => .missing)
    (megaDriveRomm "sonic.md") rfl rfl rfl (by decide)
    List.mem_cons_self (by decide) rfl
    (by rfl : libraryRomPath megaDriveHost (megaDriveRom "sonic.md") =
      .ok "/library/genesis/roms/sonic.md")

/-- The row of the Mega Drive is green, and a 32X ROM of it is not
launched. -/
theorem green_row_is_not_launched :
    ¬ Agrees
      (readiness megaDriveHost.isFile
        (.discover megaDriveHost fun _ => .missing) [megaDrive])
      megaDrive
      (prepareLaunch megaDriveHost (megaDriveRomm "chaotix.32x") 7) := by
  intro agrees
  have launch :
      prepareLaunch megaDriveHost (megaDriveRomm "chaotix.32x") 7 =
        .error (.coreNotInstalled
          "/usr/lib/libretro/picodrive_libretro.so") := by
    rfl
  have mapped : coreOfPlatform (platformSlug megaDrive.toRommPlatform) =
      some "genesis_plus_gx_libretro.so" := by
    rfl
  have listed : megaDrive ∈ [megaDrive] := List.mem_cons_self
  obtain ⟨row, isRow⟩ := @exists_isRowOf megaDriveHost _ _
    (fun _ => .missing) listed (by decide) _ mapped
  obtain ⟨shows, installed⟩ := isRowOf_shows isRow
  have core : row.core.coreFilename = "genesis_plus_gx_libretro.so" :=
    Option.some.inj (shows.symm.trans mapped)
  have green : row.core.installed = true := by
    rw [installed, core]
    rfl
  obtain ⟨plan, ok⟩ := agrees.installed.mp ⟨row, isRow, green⟩
  rw [launch] at ok
  cases ok

end Daemon
end Hearthdeck
