import Hearthdeck.Daemon.BiosSync

/-!
# Placing BIOS files

A file beside a target is never a target itself: no slot takes a file with its
extension.  While one run has such a file before it, written or not, what the
file holds is what that run wrote, as long as no other run opens it.  So what
is renamed to a target is what was verified for its slot.  A name that is no
more than a file's leads to a target of its own slot.
-/

namespace Hearthdeck
namespace Daemon

open Foundation

/-! ## Names -/

theorem eqIgnoreAsciiCase_iff
    {left right : String} :
    eqIgnoreAsciiCase left right = true ↔
      left.toList.map Char.toLower = right.toList.map Char.toLower :=
  beq_iff_eq

/-- No file with the extension of a file beside a target is taken. -/
def refusesPartial : BiosAccept → Bool
  | .known entries =>
      entries.all fun entry =>
        !(".partial".toList.isSuffixOf (entry.name.toList.map Char.toLower))
  | .pattern _ extension _ _ _ => !(eqIgnoreAsciiCase "partial" extension)

/-- No file name is taken by both. -/
def apart : BiosAccept → BiosAccept → Bool
  | .known left, .known right =>
      left.all fun entry => right.all fun other =>
        !(eqIgnoreAsciiCase entry.name other.name)
  | _, _ => false

/-- The names of known dumps are plain, in whatever case. -/
def plainNames : BiosAccept → Bool
  | .known entries => entries.all fun entry =>
      TextPath.isPlain (String.ofList (entry.name.toList.map Char.toLower))
  | .pattern _ _ _ _ _ => true

/-- The slot takes any name of a kind. -/
def isPattern : BiosAccept → Bool
  | .known _ => false
  | .pattern _ _ _ _ _ => true

theorem refusesPartial_biosSlots :
    ∀ slot ∈ biosSlots, refusesPartial slot.accept = true := by
  decide +kernel

/-- Slots with a folder in common take different names. -/
theorem apart_biosSlots :
    ∀ slot ∈ biosSlots, ∀ other ∈ biosSlots,
      slot.targetDir = other.targetDir →
        slot = other ∨ apart slot.accept other.accept = true := by
  decide +kernel

theorem plainNames_biosSlots :
    ∀ slot ∈ biosSlots, plainNames slot.accept = true := by
  decide

theorem eq_of_isPattern :
    ∀ slot ∈ biosSlots, ∀ other ∈ biosSlots,
      isPattern slot.accept = true → isPattern other.accept = true →
        slot = other := by
  decide

/-- Directories of the table differ in how deep they are. -/
theorem targetDir_eq_of_length :
    ∀ slot ∈ biosSlots, ∀ other ∈ biosSlots,
      (TextPath.parts slot.targetDir).length =
          (TextPath.parts other.targetDir).length →
        slot.targetDir = other.targetDir := by
  decide

theorem parts_targetDir_ne_dots :
    ∀ slot ∈ biosSlots, ∀ part ∈ TextPath.parts slot.targetDir,
      part ≠ TextPath.dots := by
  decide

/-- A file beside a target is taken by no slot. -/
theorem nameSatisfies_partialName
    {accept : BiosAccept}
    (refuses : refusesPartial accept = true)
    (target : String) :
    nameSatisfies (partialName target) accept = false := by
  apply Bool.eq_false_iff.mpr
  intro satisfies
  have name : (partialName target).toList =
      FileName.stem '.' target.toList ++ '.' :: "partial".toList := by
    rw [partialName, String.toList_ofList]
    rfl
  cases accept with
  | known entries =>
      obtain ⟨entry, member, same⟩ := List.any_eq_true.mp satisfies
      rw [eqIgnoreAsciiCase_iff, name, List.map_append] at same
      have ends := List.all_eq_true.mp refuses entry member
      rw [same] at ends
      simp only [Bool.not_eq_true', Bool.eq_false_iff] at ends
      apply ends
      rw [List.isSuffixOf_iff_suffix]
      exact List.suffix_append _ _
  | pattern label extension size prefer reject =>
      unfold nameSatisfies pathExtension at satisfies
      rw [name] at satisfies
      have split := FileName.splitLast_append
        (by decide : '.' ∉ "partial".toList)
        (FileName.stem '.' target.toList)
      cases front : FileName.stem '.' target.toList with
      | nil =>
          rw [front] at split satisfies
          unfold FileName.extension at satisfies
          rw [split] at satisfies
          cases satisfies
      | cons head before =>
          rw [front] at split satisfies
          unfold FileName.extension at satisfies
          rw [split] at satisfies
          have differs : eqIgnoreAsciiCase "partial" extension = false := by
            simpa [refusesPartial] using refuses
          have same : eqIgnoreAsciiCase "partial" extension = true :=
            satisfies
          rw [differs] at same
          cases same

/-- A name of a known dump is plain, in whatever case it is written. -/
theorem isPlain_of_nameSatisfies
    {entries : List KnownBios}
    (plain : plainNames (.known entries) = true)
    {name : String}
    (satisfies : nameSatisfies name (.known entries) = true) :
    TextPath.isPlain name = true := by
  obtain ⟨entry, member, alike⟩ := List.any_eq_true.mp satisfies
  rw [eqIgnoreAsciiCase_iff] at alike
  have lowered := List.all_eq_true.mp plain entry member
  rw [alike, TextPath.isPlain_iff, String.toList_ofList] at lowered
  obtain ⟨solid, notDot, notDots, single⟩ := lowered
  rw [TextPath.isPlain_iff]
  refine ⟨?_, ?_, ?_, ?_⟩
  · intro empty
    exact solid (congrArg (List.map Char.toLower) empty)
  · intro isDot
    exact notDot (congrArg (List.map Char.toLower) isDot)
  · intro isDots
    exact notDots (congrArg (List.map Char.toLower) isDots)
  · intro inside
    exact single (List.mem_map_of_mem (f := Char.toLower) inside)

/-- A name that is a path ends in the name of a file that the slot takes, and
what is verified is so under either. -/
theorem exists_fileName
    {slot : BiosSlot}
    (listed : slot ∈ biosSlots)
    {name : String}
    (satisfies : pathSatisfies name slot.accept = true) :
    ∃ last, TextPath.fileName name = some last ∧
      nameSatisfies last slot.accept = true ∧
      ∀ sha1Hex bytes, fileIsVerified sha1Hex name bytes slot.accept =
        fileIsVerified sha1Hex last bytes slot.accept := by
  have plain := plainNames_biosSlots slot listed
  cases accept : slot.accept with
  | known entries =>
      rw [accept] at satisfies plain
      exact ⟨name, TextPath.fileName_of_isPlain
        (isPlain_of_nameSatisfies plain satisfies), satisfies,
        fun _ _ => rfl⟩
  | pattern label extension size prefer reject =>
      rw [accept] at satisfies
      obtain ⟨last, named, takes⟩ :=
        (Option.any_eq_true _ (TextPath.fileName name)).mp satisfies
      exact ⟨last, named, takes, fun _ _ => rfl⟩

/-! ## Places -/

section Places

variable {Name : Type} {encode : String → Name} {systemDir : List Name}

theorem slotFolder_eq
    {slot : BiosSlot}
    (listed : slot ∈ biosSlots) :
    slotFolder encode systemDir slot = systemDir ++
      (TextPath.parts slot.targetDir).map fun part =>
        encode (String.ofList part) :=
  TextPath.walk_of_forall_ne_dots (parts_targetDir_ne_dots slot listed) _

/-- Slots with one directory have one target directory. -/
theorem targetDir_of_slotFolder
    {slot other : BiosSlot}
    (listed : slot ∈ biosSlots)
    (another : other ∈ biosSlots)
    (same : slotFolder encode systemDir slot =
      slotFolder encode systemDir other) :
    slot.targetDir = other.targetDir := by
  rw [slotFolder_eq listed, slotFolder_eq another] at same
  have lengths := congrArg List.length (List.append_cancel_left same)
  rw [List.length_map, List.length_map] at lengths
  exact targetDir_eq_of_length slot listed other another lengths

/-- A plain name leads to the directory of the slot. -/
theorem targetParent_of_isPlain
    {name : String}
    (plain : TextPath.isPlain name = true)
    (slot : BiosSlot) :
    targetParent encode systemDir slot name =
      slotFolder encode systemDir slot := by
  unfold targetParent
  rw [TextPath.isAbsolute_of_isPlain plain,
    TextPath.parts_of_isPlain plain]
  rfl

end Places

/-- No two slots take one name in one directory. -/
theorem slot_eq_of_targetDir
    {slot other : BiosSlot}
    (listed : slot ∈ biosSlots)
    (another : other ∈ biosSlots)
    {name : String}
    (satisfies : nameSatisfies name slot.accept = true)
    (satisfied : nameSatisfies name other.accept = true)
    (same : slot.targetDir = other.targetDir) :
    slot = other := by
  rcases apart_biosSlots slot listed other another same with equal | apart
  · exact equal
  · exfalso
    revert satisfies satisfied apart
    cases slot.accept with
    | pattern => nofun
    | known left =>
        cases other.accept with
        | pattern => nofun
        | known right =>
            intro satisfies satisfied apart
            obtain ⟨entry, member, first⟩ := List.any_eq_true.mp satisfies
            obtain ⟨second, present, last⟩ := List.any_eq_true.mp satisfied
            rw [eqIgnoreAsciiCase_iff] at first last
            have different := List.all_eq_true.mp
              (List.all_eq_true.mp apart entry member) second present
            have alike : eqIgnoreAsciiCase entry.name second.name = true :=
              eqIgnoreAsciiCase_iff.mpr (first.trans last.symm)
            rw [alike] at different
            cases different

/-- A name leads to a file that another slot takes, in the directory of that
slot. -/
def Crosses
    (service : SyncService)
    (slot : BiosSlot)
    (name : String) : Prop :=
  ∃ other ∈ biosSlots, other ≠ slot ∧
    (service.targetPath slot name).1 =
      slotFolder id service.systemDir other ∧
    nameSatisfies (service.targetPath slot name).2 other.accept = true

/-- A plain name, as any file in the directory of a slot has, does not. -/
theorem not_crosses_of_isPlain
    {service : SyncService}
    {slot : BiosSlot}
    (listed : slot ∈ biosSlots)
    {name : String}
    (plain : TextPath.isPlain name = true)
    (satisfies : pathSatisfies name slot.accept = true) :
    ¬ Crosses service slot name := by
  rintro ⟨other, another, different, folder, satisfied⟩
  obtain ⟨last, named, takes, _⟩ := exists_fileName listed satisfies
  change targetParent id service.systemDir slot name = _ at folder
  rw [targetParent_of_isPlain plain] at folder
  change nameSatisfies ((TextPath.fileName name).getD "") _ = _ at satisfied
  rw [named] at satisfied
  exact different (slot_eq_of_targetDir listed another takes satisfied
    (targetDir_of_slotFolder listed another folder)).symm

/-- No target is beside one. -/
theorem targetPath_ne_partialPath
    {service : SyncService}
    {slot : BiosSlot}
    (listed : slot ∈ biosSlots)
    {name : String}
    (satisfies : pathSatisfies name slot.accept = true)
    (target : SystemPath) :
    service.targetPath slot name ≠ partialPath target := by
  intro same
  obtain ⟨last, named, takes, _⟩ := exists_fileName listed satisfies
  have refused := nameSatisfies_partialName
    (refusesPartial_biosSlots slot listed) target.2
  have together : last = partialName target.2 := by
    have names := congrArg Prod.snd same
    change (TextPath.fileName name).getD "" = _ at names
    rwa [named] at names
  rw [← together, takes] at refused
  cases refused

/-- A slot of known dumps has its targets in its own directory. -/
theorem crosses_of_known
    {service : SyncService}
    {slot other : BiosSlot}
    (listed : slot ∈ biosSlots)
    {entries : List KnownBios}
    (accept : slot.accept = .known entries)
    {name second : String}
    (satisfies : pathSatisfies name slot.accept = true)
    (same : service.targetPath slot name = service.targetPath other second)
    (different : slot ≠ other) :
    Crosses service other second := by
  have plain := plainNames_biosSlots slot listed
  rw [accept] at satisfies plain
  have plainName := isPlain_of_nameSatisfies plain satisfies
  refine ⟨slot, listed, different, ?_, ?_⟩
  · rw [← same]
    exact targetParent_of_isPlain plainName slot
  · rw [← same]
    change nameSatisfies ((TextPath.fileName name).getD "") _ = true
    rw [TextPath.fileName_of_isPlain plainName, accept]
    exact satisfies

/-- No two slots have a target in common, unless a name leads to a file of
another slot. -/
theorem slot_eq_of_targetPath
    {service : SyncService}
    {slot other : BiosSlot}
    (listed : slot ∈ biosSlots)
    (another : other ∈ biosSlots)
    {name second : String}
    (satisfies : pathSatisfies name slot.accept = true)
    (satisfied : pathSatisfies second other.accept = true)
    (stays : ¬ Crosses service slot name)
    (remains : ¬ Crosses service other second)
    (same : service.targetPath slot name =
      service.targetPath other second) :
    slot = other := by
  by_contra different
  cases accept : slot.accept with
  | known entries =>
      exact remains
        (crosses_of_known listed accept satisfies same different)
  | pattern label extension size prefer reject =>
      cases accepts : other.accept with
      | known entries =>
          exact stays (crosses_of_known another accepts satisfied same.symm
            (Ne.symm different))
      | pattern others extensions sizes prefers rejects =>
          apply different
          apply eq_of_isPattern slot listed other another
          · rw [accept]
            rfl
          · rw [accepts]
            rfl

/-! ## Candidates -/

/-- What is picked for a slot has a name that the slot takes. -/
theorem pathSatisfies_of_pickCandidate
    {entries : List SourceEntry}
    {accept : BiosAccept}
    {candidate : SourceEntry}
    (picked : pickCandidate entries accept = some candidate) :
    pathSatisfies candidate.name accept = true := by
  cases accept with
  | known known =>
      obtain ⟨entry, member, found⟩ := List.exists_of_findSome?_eq_some picked
      have alike := List.find?_some found
      rw [eqIgnoreAsciiCase_iff] at alike
      apply List.any_eq_true.mpr
      exact ⟨entry, member, eqIgnoreAsciiCase_iff.mpr alike.symm⟩
  | pattern label extension size prefer reject =>
      have member := List.argmin_mem picked
      have kept := (List.mem_filter.mp member).2
      exact (Bool.and_eq_true_iff.mp kept).1

/-- What is verified under the name in the source is verified under the name
it is placed with, which the slot takes. -/
theorem verified_canonicalName
    {sha1Hex : List UInt8 → String}
    {slot : BiosSlot}
    {name : String}
    {bytes : List UInt8}
    (satisfies : pathSatisfies name slot.accept = true)
    (verified : fileIsVerified sha1Hex name bytes slot.accept = true) :
    pathSatisfies (canonicalName slot name) slot.accept = true ∧
      fileIsVerified sha1Hex (canonicalName slot name) bytes slot.accept =
        true := by
  unfold canonicalName
  cases accept : slot.accept with
  | pattern label extension size prefer reject =>
      rw [accept] at satisfies verified
      exact ⟨satisfies, verified⟩
  | known entries =>
      rw [accept] at verified
      dsimp only
      cases found : entries.find? fun entry =>
          eqIgnoreAsciiCase entry.name name with
      | none =>
          simp only [fileIsVerified, found] at verified
          cases verified
      | some entry =>
          have alike := List.find?_some found
          rw [eqIgnoreAsciiCase_iff] at alike
          have same : (fun other : KnownBios =>
              eqIgnoreAsciiCase other.name entry.name) =
              fun other => eqIgnoreAsciiCase other.name name := by
            funext other
            apply Bool.eq_iff_iff.mpr
            rw [eqIgnoreAsciiCase_iff, eqIgnoreAsciiCase_iff, alike]
          constructor
          · apply List.any_eq_true.mpr
            exact ⟨entry, List.mem_of_find?_eq_some found,
              eqIgnoreAsciiCase_iff.mpr rfl⟩
          · unfold fileIsVerified at verified ⊢
            simp only [Option.map_some, Option.getD_some, same]
            exact verified

/-- The active slots are slots of the table. -/
theorem mem_biosSlots_of_mem_activeSlots
    {platforms : List RommPlatform}
    {slot : BiosSlot}
    (member : slot ∈ activeSlots platforms) :
    slot ∈ biosSlots := by
  have every : ∀ slot ∈ activeSlots platforms, slot ∈ biosSlots := by
    unfold activeSlots
    refine List.foldlRecOn (motive := fun slots => ∀ slot ∈ slots,
      slot ∈ biosSlots) _ _ nofun ?_
    intro slots known platform _
    refine List.foldlRecOn (motive := fun slots => ∀ slot ∈ slots,
      slot ∈ biosSlots) _ _ known ?_
    intro slots known found member other
    split
    case isTrue present => exact known other
    case isFalse missing =>
        intro added
        rcases List.mem_append.mp added with old | new
        · exact known other old
        · rw [List.mem_singleton.mp new]
          exact (List.mem_filter.mp member).1
  exact every slot member

/-! ## The invariant -/

namespace SyncTask

/-- The run that goes on. -/
def run : SyncTask → SyncRun
  | check run => run
  | list run _ => run
  | download run _ _ => run
  | createDirs run _ _ _ => run
  | create run _ _ _ => run
  | write run _ _ _ _ _ => run
  | rename run _ _ _ => run

/-- The file beside a target that a run has open, or has yet to rename. -/
def beside (service : SyncService) : SyncTask → Option SystemPath
  | write _ slot name _ _ _ =>
      some (partialPath (service.targetPath slot name))
  | rename _ slot name _ =>
      some (partialPath (service.targetPath slot name))
  | _ => none

/-- A run has this file beside a target before it. -/
def keeps
    (service : SyncService)
    (path : SystemPath)
    (task : SyncTask) : Bool :=
  decide (task.beside service = some path)

end SyncTask

namespace SystemDir

variable {service : SyncService}

/-- Every target of a slot is missing, holds what it held, or what is verified
for the slot.  What is a file of another slot is a target of that. -/
def Intact
    (service : SyncService)
    (before after : Files SystemPath UInt8) : Prop :=
  ∀ slot ∈ biosSlots, ∀ name, pathSatisfies name slot.accept = true →
    ¬ Crosses service slot name →
      ∀ bytes, after.read (service.targetPath slot name) = some bytes →
        before.read (service.targetPath slot name) = some bytes ∨
          fileIsVerified service.sha1Hex name bytes slot.accept = true

/-- A run opens the file beside a target while another one has it open or is
yet to rename it, or goes on to write under a name that is more than the name
of a file. -/
def Slips
    (service : SyncService)
    (pool : Pool SystemDir SyncTask) :
    Move (List RommPlatform) SyncReply → Prop
  | .call _ => False
  | .advance index reply =>
      reply.cut = false ∧ reply.fault = none ∧
        match pool.tasks[index]? with
        | some (.createDirs _ _ name _) => TextPath.isPlain name = false
        | some (.create _ slot name _) =>
            ∃ task ∈ pool.tasks, task.beside service =
              some (partialPath (service.targetPath slot name))
        | _ => False

/-- What is placed: contents that are verified for a slot of the table, under
a name that it takes. -/
structure Checked
    (service : SyncService)
    (slot : BiosSlot)
    (name : String)
    (bytes : List UInt8) : Prop where
  listed : slot ∈ biosSlots
  satisfies : pathSatisfies name slot.accept = true
  verified : fileIsVerified service.sha1Hex name bytes slot.accept = true

/-- What is written is placed in the directory of the slot. -/
structure Writes
    (service : SyncService)
    (slot : BiosSlot)
    (name : String)
    (bytes : List UInt8) : Prop
    extends Checked service slot name bytes where
  plain : TextPath.isPlain name = true

/-- A name stands for a file that holds this. -/
def Holds
    (files : Files SystemPath UInt8)
    (path : SystemPath)
    (file : Nat)
    (bytes : List UInt8) : Prop :=
  files.names.lookup path = some file ∧ files.contents file = bytes

/-- What holds of what a run has before it. -/
def Doing
    (service : SyncService)
    (files : Files SystemPath UInt8) : SyncTask → Prop
  | .check _ => True
  | .list _ slot => slot ∈ biosSlots
  | .download _ slot candidate =>
      slot ∈ biosSlots ∧ pathSatisfies candidate.name slot.accept = true
  | .createDirs _ slot name bytes => Checked service slot name bytes
  | .create _ slot name bytes => Writes service slot name bytes
  | .write _ slot name bytes file offset =>
      Writes service slot name bytes ∧ offset ≤ bytes.length ∧
        Holds files (partialPath (service.targetPath slot name)) file
          (bytes.take offset)
  | .rename _ slot name bytes =>
      Writes service slot name bytes ∧ ∃ file,
        Holds files (partialPath (service.targetPath slot name)) file bytes

/-- What holds of a run. -/
def Part
    (service : SyncService)
    (dir : SystemDir)
    (task : SyncTask) : Prop :=
  (∀ slot ∈ task.run.slots, slot ∈ biosSlots) ∧
    Doing service dir.files task

/-- Other files than those that a run has before it do not matter to it. -/
theorem Doing.mono
    {files next : Files SystemPath UInt8}
    {task : SyncTask}
    (doing : Doing service files task)
    (same : ∀ path file bytes, task.beside service = some path →
      Holds files path file bytes → Holds next path file bytes) :
    Doing service next task := by
  cases task with
  | write run slot name bytes file offset =>
      exact ⟨doing.1, doing.2.1, same _ _ _ rfl doing.2.2⟩
  | rename run slot name bytes =>
      obtain ⟨writes, file, holds⟩ := doing
      exact ⟨writes, file, same _ _ _ rfl holds⟩
  | _ => exact doing

/-- The invariant of the runs under way. -/
structure Sound
    (service : SyncService)
    (before : Files SystemPath UInt8)
    (pool : Pool SystemDir SyncTask) : Prop where
  holds : pool.Holds (fun dir => Intact service before dir.files)
    (Part service)
  exclusive : pool.Exclusive (SyncTask.keeps service)

variable
  {before : Files SystemPath UInt8}
  {pool : Pool SystemDir SyncTask}
  {index : Nat}
  {task : SyncTask}
  {reply : SyncReply}

/-- A task that has nothing beside a target before it. -/
theorem keeps_eq_false
    (free : task.beside service = none)
    (path : SystemPath) :
    task.keeps service path = false := by
  unfold SyncTask.keeps
  rw [free]
  rfl

/-- A section that leaves the files as they are, and no new file beside a
target. -/
theorem Sound.idle
    (sound : Sound service before pool)
    (stands : pool.tasks[index]? = some task)
    {report : Option (List String × List SyncFailure)}
    {left : List SyncTask}
    (performs : pool.shared.perform service task reply =
      ({ pool.shared with report := report }, left))
    (parts : ∀ other ∈ left, Part service pool.shared other)
    (free : ∀ other ∈ left, other.beside service = none) :
    Sound service before
      ((program service).step pool (.advance index reply)) := by
  have performed : (program service).perform pool.shared task reply =
      ({ pool.shared with report := report }, left) := performs
  constructor
  · apply Pool.Holds.advance sound.holds stands
    · rw [performed]
      exact sound.holds.shared
    · intro other member part
      rw [performed]
      exact part
    · intro other member
      rw [performed] at member ⊢
      exact parts other member
  · apply Pool.Exclusive.advance sound.exclusive stands
    intro path
    left
    rw [performed]
    have zero : left.countP (SyncTask.keeps service path) = 0 := by
      rw [List.countP_eq_zero]
      intro other member
      exact Bool.eq_false_iff.mp (keeps_eq_false (free other member) path)
    exact Nat.le_of_eq zero |>.trans (Nat.zero_le _)

/-- A section that goes on with one task and no file beside a target. -/
theorem Sound.goes
    (sound : Sound service before pool)
    (stands : pool.tasks[index]? = some task)
    {report : Option (List String × List SyncFailure)}
    {next : SyncTask}
    (performs : pool.shared.perform service task reply =
      ({ pool.shared with report := report }, [next]))
    (part : Part service pool.shared next)
    (free : next.beside service = none) :
    Sound service before
      ((program service).step pool (.advance index reply)) := by
  apply sound.idle stands performs
  · intro other member
    rw [List.mem_singleton.mp member]
    exact part
  · intro other member
    rw [List.mem_singleton.mp member]
    exact free

/-! ## Sections -/

/-- A run that fails for a slot goes on with its other slots. -/
theorem part_fails
    {dir : SystemDir}
    {run : SyncRun}
    (slots : ∀ slot ∈ run.slots, slot ∈ biosSlots)
    (filename reason : String) :
    Part service dir (fails run filename reason) :=
  ⟨slots, trivial⟩

theorem part_choose
    (service : SyncService)
    (dir : SystemDir)
    (run : SyncRun)
    (slots : ∀ slot ∈ run.slots, slot ∈ biosSlots)
    {slot : BiosSlot}
    (listed : slot ∈ biosSlots)
    (listing : Except String (List SourceEntry)) :
    Part service dir (choose run slot listing) ∧
      (choose run slot listing).beside service = none := by
  unfold choose
  split
  case h_1 reason => exact ⟨part_fails slots _ _, rfl⟩
  case h_2 entries =>
      split
      case h_1 missing => exact ⟨part_fails slots _ _, rfl⟩
      case h_2 candidate picked =>
          exact ⟨⟨slots, listed, pathSatisfies_of_pickCandidate picked⟩, rfl⟩

theorem Sound.check
    (sound : Sound service before pool)
    {run : SyncRun}
    (stands : pool.tasks[index]? = some (.check run))
    (goesOn : reply.cut = false) :
    Sound service before
      ((program service).step pool (.advance index reply)) := by
  have slots : ∀ slot ∈ run.slots, slot ∈ biosSlots :=
    (sound.holds.each _ (List.mem_of_getElem? stands)).1
  have performs : pool.shared.perform service (.check run) reply =
      SystemDir.check service pool.shared run reply := by
    unfold perform
    rw [goesOn]
    rfl
  unfold SystemDir.check at performs
  split at performs
  case h_1 finished =>
      exact sound.idle stands performs nofun nofun
  case h_2 slot rest following =>
      rw [following] at slots
      have listed := slots slot List.mem_cons_self
      have others : ∀ other ∈ rest, other ∈ biosSlots := fun other member =>
        slots other (List.mem_cons_of_mem _ member)
      dsimp only at performs
      split at performs
      case h_1 name present =>
          exact sound.goes stands performs ⟨others, trivial⟩ rfl
      case h_2 absent =>
          split at performs
          case h_1 listing known =>
              have chosen := part_choose service pool.shared
                { run with slots := rest } others listed listing
              exact sound.goes stands performs chosen.1 chosen.2
          case h_2 unknown =>
              exact sound.goes stands performs ⟨others, listed⟩ rfl

theorem Sound.list
    (sound : Sound service before pool)
    {run : SyncRun}
    {slot : BiosSlot}
    (stands : pool.tasks[index]? = some (.list run slot))
    (goesOn : reply.cut = false) :
    Sound service before
      ((program service).step pool (.advance index reply)) := by
  obtain ⟨slots, listed⟩ := sound.holds.each _ (List.mem_of_getElem? stands)
  have performs : pool.shared.perform service (.list run slot) reply =
      (pool.shared, [choose
        { run with
          listings := (sourceFolder slot, reply.listing) :: run.listings }
        slot reply.listing]) := by
    unfold perform
    rw [goesOn]
    rfl
  have chosen := part_choose service pool.shared
    { run with
      listings := (sourceFolder slot, reply.listing) :: run.listings }
    slots listed reply.listing
  exact sound.goes stands performs chosen.1 chosen.2

theorem Sound.download
    (sound : Sound service before pool)
    {run : SyncRun}
    {slot : BiosSlot}
    {candidate : SourceEntry}
    (stands : pool.tasks[index]? = some (.download run slot candidate))
    (goesOn : reply.cut = false) :
    Sound service before
      ((program service).step pool (.advance index reply)) := by
  obtain ⟨slots, listed, taken⟩ :=
    sound.holds.each _ (List.mem_of_getElem? stands)
  have performs :
      pool.shared.perform service (.download run slot candidate) reply =
        (pool.shared,
          [SystemDir.download service run slot candidate reply]) := by
    unfold perform
    rw [goesOn]
    rfl
  unfold SystemDir.download at performs
  dsimp only at performs
  split at performs
  case isTrue unnamed =>
      exact sound.goes stands performs (part_fails slots _ _) rfl
  case isFalse named =>
      split at performs
      case h_1 reason =>
          exact sound.goes stands performs (part_fails slots _ _) rfl
      case h_2 bytes =>
          split at performs
          case isTrue large =>
              exact sound.goes stands performs (part_fails slots _ _) rfl
          case isFalse small =>
              split at performs
              case isTrue verified =>
                  have placed := verified_canonicalName taken verified
                  exact sound.goes stands performs
                    ⟨slots, listed, placed.1, placed.2⟩ rfl
              case isFalse refused =>
                  exact sound.goes stands performs (part_fails slots _ _) rfl

/-- A system call of `write_file` that fails. -/
theorem Sound.fault
    (sound : Sound service before pool)
    (stands : pool.tasks[index]? = some task)
    {slot : BiosSlot}
    {name error : String}
    (performs : pool.shared.perform service task reply =
      (pool.shared, [couldNotWrite service task.run slot name error])) :
    Sound service before
      ((program service).step pool (.advance index reply)) := by
  obtain ⟨slots, _⟩ := sound.holds.each _ (List.mem_of_getElem? stands)
  exact sound.goes stands performs (part_fails slots _ _) rfl

theorem Sound.createDirs
    (sound : Sound service before pool)
    {run : SyncRun}
    {slot : BiosSlot}
    {name : String}
    {bytes : List UInt8}
    (stands : pool.tasks[index]? = some (.createDirs run slot name bytes))
    (goesOn : reply.cut = false)
    (calm : ¬ Slips service pool (.advance index reply)) :
    Sound service before
      ((program service).step pool (.advance index reply)) := by
  obtain ⟨slots, checked⟩ := sound.holds.each _ (List.mem_of_getElem? stands)
  cases fault : reply.fault with
  | some error =>
      apply sound.fault stands
      unfold perform
      rw [goesOn, fault]
      rfl
  | none =>
      have performs :
          pool.shared.perform service (.createDirs run slot name bytes)
            reply = (pool.shared, [.create run slot name bytes]) := by
        unfold perform
        rw [goesOn, fault]
        rfl
      have plain : TextPath.isPlain name = true := by
        by_contra more
        simp only [Slips, stands] at calm
        exact calm ⟨goesOn, fault, Bool.eq_false_iff.mpr more⟩
      exact sound.goes stands performs ⟨slots, checked, plain⟩ rfl

/-- What a run has before it after bytes of a file beside a target are
written. -/
theorem part_written
    {dir : SystemDir}
    {run : SyncRun}
    (slots : ∀ slot ∈ run.slots, slot ∈ biosSlots)
    {slot : BiosSlot}
    {name : String}
    {bytes : List UInt8}
    (writes : Writes service slot name bytes)
    {file offset : Nat}
    (holds : Holds dir.files (partialPath (service.targetPath slot name))
      file (bytes.take offset)) :
    Part service dir (written run slot name bytes file offset) := by
  unfold written
  split
  case isTrue finished =>
      rw [List.take_of_length_le finished] at holds
      exact ⟨slots, writes, file, holds⟩
  case isFalse unfinished =>
      exact ⟨slots, writes, Nat.le_of_not_le unfinished, holds⟩

/-- Only the file beside the target that is written is before such a run. -/
theorem beside_written
    (run : SyncRun)
    (slot : BiosSlot)
    (name : String)
    (bytes : List UInt8)
    (file offset : Nat) :
    (written run slot name bytes file offset).beside service =
      some (partialPath (service.targetPath slot name)) := by
  unfold written
  split <;> rfl

/-- A run that goes on with a file beside a target is the only one with it, if
it was so before or nobody had it. -/
theorem exclusive_writes
    (exclusive : pool.Exclusive (SyncTask.keeps service))
    (stands : pool.tasks[index]? = some task)
    {target : SystemPath}
    {dir : SystemDir}
    {next : SyncTask}
    (performs : pool.shared.perform service task reply = (dir, [next]))
    (beside : next.beside service = some (partialPath target))
    (alone : task.keeps service (partialPath target) = true ∨
      ∀ other ∈ pool.tasks,
        other.keeps service (partialPath target) = false) :
    ((program service).step pool (.advance index reply)).Exclusive
      (SyncTask.keeps service) := by
  have performed : (program service).perform pool.shared task reply =
      (dir, [next]) := performs
  apply Pool.Exclusive.advance exclusive stands
  intro path
  rw [performed]
  by_cases same : path = partialPath target
  · subst same
    rcases alone with held | nobody
    · left
      rw [held, if_pos rfl]
      exact List.countP_le_length
    · right
      exact ⟨List.countP_le_length, nobody⟩
  · left
    have zero : [next].countP (SyncTask.keeps service path) = 0 := by
      rw [List.countP_eq_zero]
      intro other member keeps
      rw [List.mem_singleton.mp member] at keeps
      have found := of_decide_eq_true keeps
      rw [beside] at found
      exact same (Option.some.inj found).symm
    rw [zero]
    exact Nat.zero_le _

/-- A section that changes what is under the name of one file beside a target,
which it has before it alone. -/
theorem Sound.writes
    (sound : Sound service before pool)
    (stands : pool.tasks[index]? = some task)
    {target : SystemPath}
    {files : Files SystemPath UInt8}
    {next : SyncTask}
    (performs : pool.shared.perform service task reply =
      ({ pool.shared with files := files }, [next]))
    (beside : next.beside service = some (partialPath target))
    (alone : task.keeps service (partialPath target) = true ∨
      ∀ other ∈ pool.tasks, other.keeps service (partialPath target) = false)
    (lookups : ∀ path ≠ partialPath target,
      files.names.lookup path = pool.shared.files.names.lookup path)
    (reads : ∀ path ≠ partialPath target,
      files.read path = pool.shared.files.read path)
    (part : Part service { pool.shared with files := files } next) :
    Sound service before
      ((program service).step pool (.advance index reply)) := by
  have performed : (program service).perform pool.shared task reply =
      ({ pool.shared with files := files }, [next]) := performs
  have apart : ∀ other ∈ pool.tasks.eraseIdx index,
      other.keeps service (partialPath target) = false := by
    intro other member
    rcases alone with held | nobody
    · exact sound.exclusive.others stands held member
    · exact nobody other (List.mem_of_mem_eraseIdx member)
  constructor
  · apply Pool.Holds.advance sound.holds stands
    · rw [performed]
      intro slot listed name satisfies stays bytes found
      rw [reads _ (targetPath_ne_partialPath listed satisfies target)] at found
      exact sound.holds.shared slot listed name satisfies stays bytes found
    · intro other member part
      rw [performed]
      refine ⟨part.1, part.2.mono ?_⟩
      rintro path file bytes before ⟨stood, held⟩
      have different : path ≠ partialPath target := by
        rintro rfl
        exact absurd before (of_decide_eq_false (apart other member))
      have same := reads path different
      have stays := (lookups path different).trans stood
      rw [Files.read_eq_some stays, Files.read_eq_some stood] at same
      exact ⟨stays, (Option.some.inj same).trans held⟩
    · intro other member
      rw [performed] at member ⊢
      rw [List.mem_singleton.mp member]
      exact part
  · exact exclusive_writes sound.exclusive stands performs beside alone

theorem Sound.create
    (sound : Sound service before pool)
    {run : SyncRun}
    {slot : BiosSlot}
    {name : String}
    {bytes : List UInt8}
    (stands : pool.tasks[index]? = some (.create run slot name bytes))
    (goesOn : reply.cut = false)
    (calm : ¬ Slips service pool (.advance index reply)) :
    Sound service before
      ((program service).step pool (.advance index reply)) := by
  obtain ⟨slots, writes⟩ := sound.holds.each _ (List.mem_of_getElem? stands)
  have performs :
      pool.shared.perform service (.create run slot name bytes) reply =
        SystemDir.create service pool.shared run slot name bytes reply := by
    unfold perform
    rw [goesOn]
    rfl
  unfold SystemDir.create at performs
  cases fault : reply.fault with
  | some error =>
      rw [fault] at performs
      exact sound.fault stands performs
  | none =>
      rw [fault] at performs
      have opened := Files.lookup_create pool.shared.files
        (partialPath (service.targetPath slot name))
      apply sound.writes stands performs (beside_written _ _ _ _ _ _)
      · right
        intro other member
        apply decide_eq_false
        intro found
        simp only [Slips, stands] at calm
        exact calm ⟨goesOn, fault, other, member, found⟩
      · intro path different
        exact Files.lookup_create_of_ne _ different
      · intro path different
        exact Files.read_create _ different
      · exact part_written slots writes opened

theorem Sound.write
    (sound : Sound service before pool)
    {run : SyncRun}
    {slot : BiosSlot}
    {name : String}
    {bytes : List UInt8}
    {file offset : Nat}
    (stands :
      pool.tasks[index]? = some (.write run slot name bytes file offset))
    (goesOn : reply.cut = false) :
    Sound service before
      ((program service).step pool (.advance index reply)) := by
  obtain ⟨slots, writes, bound, found, held⟩ :=
    sound.holds.each _ (List.mem_of_getElem? stands)
  have performs :
      pool.shared.perform service (.write run slot name bytes file offset)
        reply = SystemDir.write service pool.shared run slot name bytes file
          offset reply := by
    unfold perform
    rw [goesOn]
    rfl
  unfold SystemDir.write at performs
  cases fault : reply.fault with
  | some error =>
      rw [fault] at performs
      exact sound.fault stands performs
  | none =>
      rw [fault] at performs
      dsimp only at performs
      generalize size : max 1 reply.count = count at performs
      have length : (bytes.take offset).length = offset :=
        List.length_take_of_le bound
      apply sound.writes stands performs (beside_written _ _ _ _ _ _)
      · left
        exact decide_eq_true rfl
      · intro path different
        rfl
      · intro path different
        exact Files.read_store found different _
      · apply part_written slots writes
        refine ⟨found, ?_⟩
        change (pool.shared.files.store _ _).contents file = _
        rw [Files.contents_store, held]
        have patched := Files.patch_length (0 : UInt8) (bytes.take offset)
          ((bytes.drop offset).take count)
        rw [length] at patched
        rw [patched, List.take_add, List.length_take, ← List.take_eq_take_min]

theorem exists_of_beside
    {path : SystemPath}
    (beside : task.beside service = some path) :
    ∃ target, path = partialPath target := by
  cases task with
  | write run slot name bytes file offset =>
      exact ⟨_, (Option.some.inj beside).symm⟩
  | rename run slot name bytes =>
      exact ⟨_, (Option.some.inj beside).symm⟩
  | _ => cases beside

/-- Where two names of a slot lead to one file, what is verified is so under
either. -/
theorem Checked.of_targetPath
    {slot : BiosSlot}
    {name second : String}
    {bytes : List UInt8}
    (checked : Checked service slot name bytes)
    (satisfies : pathSatisfies second slot.accept = true)
    (same : service.targetPath slot second = service.targetPath slot name) :
    fileIsVerified service.sha1Hex second bytes slot.accept = true := by
  obtain ⟨last, named, _, alike⟩ := exists_fileName checked.listed satisfies
  obtain ⟨other, called, _, similar⟩ :=
    exists_fileName checked.listed checked.satisfies
  have names := congrArg Prod.snd same
  change (TextPath.fileName second).getD "" =
    (TextPath.fileName name).getD "" at names
  rw [named, called] at names
  change last = other at names
  rw [alike, names, ← similar]
  exact checked.verified

/-- The targets stay intact where one of them alone gets what is verified for
it. -/
theorem Intact.renamed
    {files next : Files SystemPath UInt8}
    (intact : Intact service before files)
    {slot : BiosSlot}
    {name : String}
    {bytes : List UInt8}
    (writes : Writes service slot name bytes)
    (placed : next.read (service.targetPath slot name) = some bytes)
    (elsewhere : ∀ path, path ≠ service.targetPath slot name →
      path ≠ partialPath (service.targetPath slot name) →
        next.read path = files.read path) :
    Intact service before next := by
  have stays : ¬ Crosses service slot name :=
    not_crosses_of_isPlain writes.listed writes.plain writes.satisfies
  intro other listed second satisfies remains others reads
  by_cases same : service.targetPath other second =
      service.targetPath slot name
  · right
    obtain rfl := slot_eq_of_targetPath listed writes.listed satisfies
      writes.satisfies remains stays same
    rw [same, placed] at reads
    cases reads
    exact writes.toChecked.of_targetPath satisfies same
  · rw [elsewhere _ same (targetPath_ne_partialPath listed satisfies _)]
      at reads
    exact intact other listed second satisfies remains others reads

/-- A rename puts checked contents in place, and leaves the other targets and
the files that other runs have before them alone. -/
theorem Sound.renamed
    (sound : Sound service before pool)
    {run : SyncRun}
    {slot : BiosSlot}
    {name : String}
    {bytes : List UInt8}
    (stands : pool.tasks[index]? = some (.rename run slot name bytes))
    {files : Files SystemPath UInt8}
    {next : SyncRun}
    (renames : pool.shared.files.rename
      (partialPath (service.targetPath slot name))
      (service.targetPath slot name) = some files)
    (performs :
      pool.shared.perform service (.rename run slot name bytes) reply =
        ({ pool.shared with files := files }, [.check next]))
    (slots : ∀ slot ∈ next.slots, slot ∈ biosSlots) :
    Sound service before
      ((program service).step pool (.advance index reply)) := by
  have performed :
      (program service).perform pool.shared (.rename run slot name bytes)
        reply = ({ pool.shared with files := files }, [.check next]) :=
    performs
  obtain ⟨_, writes, file, found, held⟩ :=
    sound.holds.each _ (List.mem_of_getElem? stands)
  have checked := writes.toChecked
  obtain ⟨names, contents⟩ := Files.read_rename renames found
  have elsewhere : ∀ path, path ≠ service.targetPath slot name →
      path ≠ partialPath (service.targetPath slot name) →
      files.names.lookup path = pool.shared.files.names.lookup path := by
    intro path notTarget notBeside
    rw [names, Table.lookup_insert_eq_ite, if_neg notTarget,
      Table.lookup_erase_eq_ite, if_neg notBeside]
  constructor
  · apply Pool.Holds.advance sound.holds stands
    · rw [performed]
      apply Intact.renamed sound.holds.shared writes
      · have stood : files.names.lookup (service.targetPath slot name) =
            some file := by
          rw [names, AList.lookup_insert]
        rw [Files.read_eq_some stood, contents, held]
      · intro path notTarget notBeside
        unfold Files.read
        rw [elsewhere path notTarget notBeside, contents]
    · intro other member part
      rw [performed]
      refine ⟨part.1, part.2.mono ?_⟩
      rintro path second before beside ⟨stood, has⟩
      refine ⟨?_, contents ▸ has⟩
      rw [elsewhere, stood]
      · rintro rfl
        obtain ⟨target, same⟩ := exists_of_beside beside
        exact targetPath_ne_partialPath checked.listed checked.satisfies
          target same
      · rintro rfl
        have alone := sound.exclusive.others stands (decide_eq_true rfl) member
        exact absurd beside (of_decide_eq_false alone)
    · intro other member
      rw [performed] at member ⊢
      rw [List.mem_singleton.mp member]
      exact ⟨slots, trivial⟩
  · apply Pool.Exclusive.advance sound.exclusive stands
    intro path
    left
    rw [performed]
    exact Nat.zero_le _

theorem Sound.rename
    (sound : Sound service before pool)
    {run : SyncRun}
    {slot : BiosSlot}
    {name : String}
    {bytes : List UInt8}
    (stands : pool.tasks[index]? = some (.rename run slot name bytes))
    (goesOn : reply.cut = false) :
    Sound service before
      ((program service).step pool (.advance index reply)) := by
  have performs :
      pool.shared.perform service (.rename run slot name bytes) reply =
        SystemDir.rename service pool.shared run slot name reply := by
    unfold perform
    rw [goesOn]
    rfl
  obtain ⟨slots, _⟩ := sound.holds.each _ (List.mem_of_getElem? stands)
  unfold SystemDir.rename at performs
  dsimp only at performs
  split at performs
  case h_1 files fault renames =>
      exact sound.renamed stands renames performs slots
  case h_2 => exact sound.fault stands performs

/-! ## Runs -/

theorem Sound.call
    (sound : Sound service before pool)
    (platforms : List RommPlatform) :
    Sound service before ((program service).step pool (.call platforms)) := by
  constructor
  · apply Pool.Holds.call sound.holds sound.holds.shared
    · intro other member part
      exact part
    · intro other member
      rw [List.mem_singleton.mp member]
      exact ⟨fun slot => mem_biosSlots_of_mem_activeSlots, trivial⟩
  · apply Pool.Exclusive.call sound.exclusive
    intro path other member
    rw [List.mem_singleton.mp member]
    exact keeps_eq_false rfl path

/-- A run that is cut off leaves what it had before it. -/
theorem Sound.cut
    (sound : Sound service before pool)
    (stands : pool.tasks[index]? = some task)
    (cut : reply.cut = true) :
    Sound service before
      ((program service).step pool (.advance index reply)) := by
  have performs :
      pool.shared.perform service task reply = (pool.shared, []) := by
    unfold perform
    rw [cut]
    rfl
  exact sound.idle stands performs nofun nofun

theorem Sound.step
    (sound : Sound service before pool)
    (move : Move (List RommPlatform) SyncReply)
    (calm : ¬ Slips service pool move) :
    Sound service before ((program service).step pool move) := by
  cases move with
  | call platforms => exact sound.call platforms
  | advance index reply =>
      cases stands : pool.tasks[index]? with
      | none =>
          rw [(program service).step_idle stands]
          exact sound
      | some task =>
          cases cut : reply.cut with
          | true => exact sound.cut stands cut
          | false =>
              cases task with
              | check run => exact sound.check stands cut
              | list run slot => exact sound.list stands cut
              | download run slot candidate => exact sound.download stands cut
              | createDirs run slot name bytes =>
                  exact sound.createDirs stands cut calm
              | create run slot name bytes =>
                  exact sound.create stands cut calm
              | write run slot name bytes file offset =>
                  exact sound.write stands cut
              | rename run slot name bytes =>
                  exact sound.rename stands cut

/-- In runs in which no sync opens the file beside a target while another one
has it open or is yet to rename it, and none writes under more than the name
of a file, every target of a slot is missing, holds what it held before, or
what is verified for the slot. -/
theorem bios_files_are_never_bad
    (service : SyncService)
    (files : Files SystemPath UInt8)
    (moves : List (Move (List RommPlatform) SyncReply))
    (calm : (machine service files).Along
      (fun pool move => ¬ Slips service pool move) moves) :
    Intact service files ((machine service files).run moves).shared.files := by
  have sound : Sound service files ((machine service files).run moves) := by
    apply (machine service files).run_induction_along _
      (Sound service files) _ _ moves calm
    · constructor
      · exact ⟨fun _ _ _ _ _ _ found => .inl found, nofun⟩
      · exact fun path => Nat.zero_le _
    · intro pool move sound calm
      exact sound.step move calm
  exact sound.holds.shared

/-- A hash that knows one file. -/
def gameGearHash (bytes : List UInt8) : String :=
  if bytes = [1, 2] then
    "914aa165e3d879f060be77870d345b60cfeb4ede"
  else
    ""

def gameGearService : SyncService where
  sha1Hex := gameGearHash
  display := fun _ name => name
  systemDir := ["system"]

def gameGearSlot : BiosSlot where
  platforms := ["gg", "gamegear", "game-gear", "sega-game-gear"]
  system := "Sega/Game Gear"
  targetDir := ""
  required := false
  accept := .known
    [⟨"bios.gg", some "914aa165e3d879f060be77870d345b60cfeb4ede", none⟩]

def gameGearPlatform : RommPlatform where
  romCount := 1
  slug := none
  fsSlug := some "gg"

def gameGearEntry : SourceEntry where
  name := "BIOS.gg"
  downloadUrl := some "https://source/bios.gg"

/-- A run up to where it opens the file beside a target: the file is not
there, the source has it, and it is verified. -/
def fetchAnswers : List SyncReply :=
  [{}, { listing := .ok [gameGearEntry] }, { content := .ok [1, 2] }, {}]

/-- A run that places a file, in two writes. -/
def placingMoves : List (Move (List RommPlatform) SyncReply) :=
  [Move.call [gameGearPlatform]] ++ fetchAnswers.map (Move.advance 0) ++
    [Move.advance 0 ({} : SyncReply), Move.advance 0 ({} : SyncReply),
      Move.advance 0 ({} : SyncReply), Move.advance 0 ({} : SyncReply),
      Move.advance 0 ({} : SyncReply)]

theorem bios_files_are_never_bad_placed :
    ((machine gameGearService Files.empty).run placingMoves).shared.files.read
        (["system"], "bios.gg") = some [1, 2] ∧
      Intact gameGearService Files.empty
        ((machine gameGearService Files.empty).run placingMoves).shared.files :=
    by
  refine ⟨by decide +kernel, bios_files_are_never_bad _ _ _ ?_⟩
  apply Machine.along_of_alongFrom
  have idle {cut fault : Prop} : ¬ (cut ∧ fault ∧ False) :=
    fun slips => slips.2.2
  refine ⟨id, idle, idle, idle, ?_, ?_, idle, idle, idle, idle, trivial⟩
  · rintro ⟨_, _, more⟩
    have plain : TextPath.isPlain "bios.gg" = true := by decide
    exact Bool.eq_false_iff.mp more plain
  · rintro ⟨_, _, task, member, beside⟩
    rw [List.mem_singleton.mp member] at beside
    cases beside

/-- Two runs fetch the same file.  The second opens the file beside the target
when the first has written it, and the first renames it. -/
def overlappingMoves : List (Move (List RommPlatform) SyncReply) :=
  [Move.call [gameGearPlatform], Move.call [gameGearPlatform]] ++
    fetchAnswers.map (Move.advance 1) ++
    [Move.advance 0 ({} : SyncReply)] ++
    (fetchAnswers.drop 1).map (Move.advance 1) ++
    [Move.advance 1 ({} : SyncReply),
      Move.advance 1 { count := 2 : SyncReply },
      Move.advance 0 ({} : SyncReply), Move.advance 0 ({} : SyncReply)]

theorem overlapping_truncates :
    ¬ Intact gameGearService Files.empty
      ((machine gameGearService Files.empty).run
        overlappingMoves).shared.files := by
  intro intact
  have placed : ((machine gameGearService Files.empty).run
      overlappingMoves).shared.files.read (["system"], "bios.gg") =
        some [] := by
    decide +kernel
  have listed : gameGearSlot ∈ biosSlots := by decide
  have taken : pathSatisfies "bios.gg" gameGearSlot.accept = true := by decide
  have bad := intact gameGearSlot listed "bios.gg" taken
    (not_crosses_of_isPlain listed (by decide) taken) [] placed
  exact absurd bad (by decide)

end SystemDir
end Daemon
end Hearthdeck
