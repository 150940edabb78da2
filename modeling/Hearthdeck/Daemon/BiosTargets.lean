import Hearthdeck.Daemon.BiosPlacement

/-!
# Where a BIOS sync places files

One sync, from its first slot to its last.  The source may name a file as it
likes: its names are joined to the folder of a slot as paths, and only a known
dump gets its own name.  There are no links, so a path leads where its parts
do.  Directories are not followed: only files are kept, each with what can be
read of it.  The order in which a directory is read is the system's.

Hashes, how a path is shown, what a system call answers and what the source
answers are arguments.  A name in a directory need not be text, but is shown
as one.
-/

namespace Hearthdeck
namespace Daemon
namespace BiosTargets

open Foundation TextPath

/-- Names in directories. -/
structure Names (Name : Type) where
  /-- `OsStr::to_string_lossy`. -/
  text : Name → String
  /-- The name that a text is. -/
  encode : String → Name
  text_encode : ∀ name, isPlain name = true → text (encode name) = name

/-- A folder and a name in it. -/
abbrev Place (Name : Type) := List Name × Name

/-- Files, each with what can be read of it. -/
abbrev Disk (Name : Type) [DecidableEq Name] :=
  Table (Place Name) (Option (List UInt8))

/-- What the program takes from elsewhere, and where its files are. -/
structure Setup (Name : Type) where
  sha1Hex : List UInt8 → String
  names : Names Name
  /-- How the target of a slot and a name is shown. -/
  display : BiosSlot → String → String
  systemDir : List Name

/-- The errors of the system calls of `write_file`, and how many bytes were
written before that of a write. -/
structure Calls where
  createDirs : Option String := none
  create : Option String := none
  write : Option (Nat × String) := none
  rename : Option String := none

/-- What a sync is answered from outside.  A folder is listed once. -/
structure Answers where
  listing : String → Except String (List SourceEntry)
  content : BiosSlot → Except String (List UInt8)
  calls : BiosSlot → Calls
  /-- The order in which the directory of a slot is read. -/
  arrange : BiosSlot → List (String × Option (List UInt8)) →
    List (String × Option (List UInt8))
  arranged : ∀ slot entries, (arrange slot entries).Perm entries

variable {Name : Type} [DecidableEq Name]

section Program

variable (setup : Setup Name) (answers : Answers)

/-- `place_bios`, up to its writing: the name and what is written. -/
def fetch (slot : BiosSlot) : Except SyncFailure (String × List UInt8) :=
  match answers.listing (SystemDir.sourceFolder slot) with
  | .error reason => .error ⟨slotDisplayName slot, reason⟩
  | .ok entries =>
      match pickCandidate entries slot.accept with
      | none =>
          .error ⟨slotDisplayName slot, "no matching file in the source's " ++
            SystemDir.sourceFolder slot⟩
      | some candidate =>
          let name := canonicalName slot candidate.name
          if candidate.downloadUrl.isNone then
            .error ⟨name, "the source offers no download URL for this file"⟩
          else
            match answers.content slot with
            | .error reason => .error ⟨name, reason⟩
            | .ok bytes =>
                if maxSourceFileBytes < bytes.length then
                  .error ⟨name, "the file is too large to be a BIOS dump"⟩
                else if fileIsVerified setup.sha1Hex candidate.name bytes
                    slot.accept then
                  .ok (name, bytes)
                else
                  .error ⟨name, "the downloaded file failed verification"⟩

/-- The target directory of a slot. -/
def slotDir (slot : BiosSlot) : List Name :=
  slotFolder setup.names.encode setup.systemDir slot

/-- `target_path`, as far as its parent leads. -/
def targetFolder (slot : BiosSlot) (name : String) : List Name :=
  targetParent setup.names.encode setup.systemDir slot name

/-- `target_path`, where it leads. -/
def target (slot : BiosSlot) (name : String) : Place Name :=
  (targetFolder setup slot name,
    setup.names.encode ((fileName name).getD ""))

/-- The file beside a target, through which it is written. -/
def besides (slot : BiosSlot) (name : String) : Place Name :=
  (targetFolder setup slot name,
    setup.names.encode (partialName ((fileName name).getD "")))

/-- What a slot comes to. -/
inductive Outcome
  | skipped
  | placed (name : String) (bytes : List UInt8)
  | failed (failure : SyncFailure)

/-- What is done for a slot: the files that are left, and those created or
replaced. -/
structure Attempt (Name : Type) [DecidableEq Name] where
  outcome : Outcome
  disk : Disk Name
  touched : List (Place Name) := []

/-- `write_file`. -/
def writeFile
    (disk : Disk Name)
    (slot : BiosSlot)
    (name : String)
    (bytes : List UInt8) : Attempt Name :=
  let calls := answers.calls slot
  let failed (error : String) : Outcome :=
    .failed ⟨name,
      "could not write " ++ setup.display slot name ++ ": " ++ error⟩
  let temporary := besides setup slot name
  match calls.createDirs.or calls.create with
  | some error => { outcome := failed error, disk := disk }
  | none =>
      match calls.write with
      | some (count, error) =>
          { outcome := failed error
            disk := disk.insert temporary (some (bytes.take count))
            touched := [temporary] }
      | none =>
          match renameError calls.rename name with
          | some error =>
              { outcome := failed error
                disk := disk.insert temporary (some bytes)
                touched := [temporary] }
          | none =>
              { outcome := .placed name bytes
                disk := ((disk.insert temporary (some bytes)).erase
                  temporary).insert (target setup slot name) (some bytes)
                touched := [temporary, target setup slot name] }

/-- `read_dir` of the target directory of a slot. -/
def readDir
    (disk : Disk Name)
    (slot : BiosSlot) : List (String × Option (List UInt8)) :=
  (disk.entries.filter fun entry => entry.1.1 = slotDir setup slot).map
    fun entry => (setup.names.text entry.1.2, entry.2)

/-- `slot_state`. -/
def stateOf (disk : Disk Name) (slot : BiosSlot) : SlotState :=
  slotState setup.sha1Hex slot.accept
    (answers.arrange slot (readDir setup disk slot))

/-- `sync_bios`, one slot. -/
def attempt (disk : Disk Name) (slot : BiosSlot) : Attempt Name :=
  match stateOf setup answers disk slot with
  | .present _ true => { outcome := .skipped, disk := disk }
  | _ =>
      match fetch setup answers slot with
      | .error failure => { outcome := .failed failure, disk := disk }
      | .ok (name, bytes) => writeFile setup answers disk slot name bytes

/-- `sync_bios`, what is done for each slot in turn. -/
def attempts : List BiosSlot → Disk Name → List (BiosSlot × Attempt Name)
  | [], _ => []
  | slot :: slots, disk =>
      let done := attempt setup answers disk slot
      (slot, done) :: attempts slots done.disk

/-- The files after a sync. -/
def after (slots : List BiosSlot) (disk : Disk Name) : Disk Name :=
  slots.foldl (fun disk slot => (attempt setup answers disk slot).disk) disk

/-- The `fetched` of a report. -/
def fetched (done : List (BiosSlot × Attempt Name)) : List String :=
  done.filterMap fun entry =>
    match entry.2.outcome with
    | .placed name _ => some name
    | _ => none

end Program

/-! ## What is asked of a sync -/

variable (setup : Setup Name) (answers : Answers)

/-- The directory of a slot has a file that is verified for it. -/
def Verified (disk : Disk Name) (slot : BiosSlot) : Prop :=
  ∃ name bytes,
    disk.lookup (slotDir setup slot, name) = some (some bytes) ∧
      nameSatisfies (setup.names.text name) slot.accept = true ∧
      fileIsVerified setup.sha1Hex (setup.names.text name) bytes slot.accept =
        true

/-- The files that a slot takes are the same. -/
def Same (slot : BiosSlot) (left right : Disk Name) : Prop :=
  ∀ name, nameSatisfies (setup.names.text name) slot.accept = true →
    left.lookup (slotDir setup slot, name) =
      right.lookup (slotDir setup slot, name)

/-- What is fetched for a slot has a name that leads out of its directory,
and the file beside the target is opened there. -/
def Leaves (slot : BiosSlot) : Prop :=
  ∃ name bytes, fetch setup answers slot = .ok (name, bytes) ∧
    (answers.calls slot).createDirs = none ∧
    (answers.calls slot).create = none ∧
    targetFolder setup slot name ≠ slotDir setup slot

/-- A slot has no verified file, and what is fetched for it leaves its
directory. -/
def Strays (disk : Disk Name) (slot : BiosSlot) : Prop :=
  ¬ Verified setup disk slot ∧ Leaves setup answers slot

/-- What is asked of a sync of platforms. -/
structure Sound
    (platforms : List RommPlatform)
    (disk : Disk Name) : Prop where
  /-- What is created or replaced is in the directory of its slot. -/
  direct : ∀ entry ∈ attempts setup answers (activeSlots platforms) disk,
    ∀ place ∈ entry.2.touched, place.1 = slotDir setup entry.1
  /-- What is placed is verified for its slot under its name. -/
  checked : ∀ entry ∈ attempts setup answers (activeSlots platforms) disk,
    ∀ name bytes, entry.2.outcome = .placed name bytes →
      fileIsVerified setup.sha1Hex name bytes entry.1.accept = true
  /-- A slot that has a verified file keeps what it has. -/
  kept : ∀ slot ∈ biosSlots, Verified setup disk slot →
    Verified setup (after setup answers (activeSlots platforms) disk) slot ∧
      Same setup slot disk
        (after setup answers (activeSlots platforms) disk)
  /-- A fetched name is of a slot that now has a verified file, for which
  another sync that stays in its directories does nothing. -/
  settled : ∀ name ∈
      fetched (attempts setup answers (activeSlots platforms) disk),
    ∃ entry ∈ attempts setup answers (activeSlots platforms) disk,
      (∃ bytes, entry.2.outcome = .placed name bytes) ∧
        Verified setup (after setup answers (activeSlots platforms) disk)
          entry.1 ∧
        ∀ again : Answers,
          (∀ slot ∈ activeSlots platforms, ¬ Strays setup again
            (after setup answers (activeSlots platforms) disk) slot) →
          ∀ other ∈ attempts setup again (activeSlots platforms)
              (after setup answers (activeSlots platforms) disk),
            other.1 = entry.1 → other.2.outcome = .skipped
  /-- A slot comes to what it comes to without the others. -/
  alone : ∀ entry ∈ attempts setup answers (activeSlots platforms) disk,
    entry.2.outcome = (attempt setup answers disk entry.1).outcome

variable
  {setup : Setup Name}
  {answers : Answers}
  {disk : Disk Name}
  {slot other : BiosSlot}

/-! ## The state of a slot -/

/-- What is found is verified when it was already, or a later file is. -/
theorem foldl_found_verified_iff
    {Entry : Type}
    (name : Entry → String)
    (verified : Entry → Bool)
    {entries : List Entry}
    {start : SlotState} :
    (∃ found, entries.foldl
        (fun found entry =>
          match found with
          | .present name true => .present name true
          | _ => .present (name entry) (verified entry))
        start = .present found true) ↔
      (∃ found, start = .present found true) ∨
        ∃ entry ∈ entries, verified entry = true := by
  induction entries generalizing start with
  | nil => simp
  | cons entry entries inductionHypothesis =>
      rw [List.foldl_cons, inductionHypothesis]
      rcases start with _ | ⟨first, _ | _⟩
      all_goals simp

/-- Reading a directory comes to a verified file when there is one. -/
theorem slotState_verified_iff
    {sha1Hex : List UInt8 → String}
    {accept : BiosAccept}
    {entries : List (String × Option (List UInt8))} :
    (∃ found, slotState sha1Hex accept entries = .present found true) ↔
      ∃ entry ∈ entries, nameSatisfies entry.1 accept = true ∧
        ∃ bytes, entry.2 = some bytes ∧
          fileIsVerified sha1Hex entry.1 bytes accept = true := by
  refine (foldl_found_verified_iff Prod.fst
    (fun entry : String × Option (List UInt8) => entry.2.any fun bytes =>
      fileIsVerified sha1Hex entry.1 bytes accept)).trans ?_
  simp [and_assoc, Option.any_eq_true]

theorem mem_readDir_iff
    {entry : String × Option (List UInt8)} :
    entry ∈ readDir setup disk slot ↔
      ∃ name, disk.lookup (slotDir setup slot, name) = some entry.2 ∧
        setup.names.text name = entry.1 := by
  unfold readDir
  rw [List.mem_map]
  constructor
  · rintro ⟨⟨⟨folder, name⟩, content⟩, member, rfl⟩
    obtain ⟨present, inside⟩ := List.mem_filter.mp member
    have here : folder = slotDir setup slot := of_decide_eq_true inside
    exact ⟨name, AList.mem_lookup_iff.mpr (here ▸ present), rfl⟩
  · rintro ⟨name, found, shown⟩
    refine ⟨⟨(slotDir setup slot, name), entry.2⟩,
      List.mem_filter.mpr ⟨AList.mem_lookup_iff.mp found, ?_⟩, ?_⟩
    · exact decide_eq_true rfl
    · exact Prod.ext shown rfl

/-- `slot_state` finds a verified file when there is one, in whatever order
the directory is read. -/
theorem stateOf_verified_iff :
    (∃ found, stateOf setup answers disk slot = .present found true) ↔
      Verified setup disk slot := by
  unfold stateOf Verified
  rw [slotState_verified_iff]
  constructor
  · rintro ⟨entry, member, satisfies, bytes, content, verified⟩
    have read := (answers.arranged slot _).mem_iff.mp member
    obtain ⟨name, found, shown⟩ := mem_readDir_iff.mp read
    rw [content] at found
    exact ⟨name, bytes, found, shown ▸ satisfies, shown ▸ verified⟩
  · rintro ⟨name, bytes, found, satisfies, verified⟩
    refine ⟨(setup.names.text name, some bytes), ?_, satisfies, bytes, rfl,
      verified⟩
    exact (answers.arranged slot _).mem_iff.mpr
      (mem_readDir_iff.mpr ⟨name, found, rfl⟩)

/-! ## One slot -/

theorem Same.refl
    (setup : Setup Name)
    (slot : BiosSlot)
    (disk : Disk Name) :
    Same setup slot disk disk :=
  fun _ _ => rfl

theorem Same.trans
    {first second third : Disk Name}
    (left : Same setup slot first second)
    (right : Same setup slot second third) :
    Same setup slot first third :=
  fun name satisfies =>
    (left name satisfies).trans (right name satisfies)

theorem Verified.of_same
    {next : Disk Name}
    (verified : Verified setup disk slot)
    (same : Same setup slot disk next) :
    Verified setup next slot := by
  obtain ⟨name, bytes, found, satisfies, checks⟩ := verified
  exact ⟨name, bytes, (same name satisfies).symm.trans found, satisfies,
    checks⟩

theorem Same.verified_iff
    {next : Disk Name}
    (same : Same setup slot disk next) :
    Verified setup disk slot ↔ Verified setup next slot :=
  ⟨fun verified => verified.of_same same,
    fun verified => verified.of_same
      fun name satisfies => (same name satisfies).symm⟩

/-- Nothing is done for a slot that has a verified file. -/
theorem attempt_of_verified
    (verified : Verified setup disk slot) :
    attempt setup answers disk slot =
      { outcome := .skipped, disk := disk } := by
  obtain ⟨found, state⟩ :=
    (@stateOf_verified_iff _ _ setup answers disk slot).mpr verified
  unfold attempt
  rw [state]

/-- Otherwise a file is fetched, and placed if that went well. -/
theorem attempt_of_not_verified
    (missing : ¬ Verified setup disk slot) :
    attempt setup answers disk slot =
      match fetch setup answers slot with
      | .error failure => { outcome := .failed failure, disk := disk }
      | .ok (name, bytes) =>
          writeFile setup answers disk slot name bytes := by
  unfold attempt
  split
  case h_1 found state =>
      exact absurd (stateOf_verified_iff.mp ⟨found, state⟩) missing
  case h_2 => rfl

end BiosTargets
end Daemon
end Hearthdeck
