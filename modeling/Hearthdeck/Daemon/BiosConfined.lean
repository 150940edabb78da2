import Hearthdeck.Daemon.BiosTargets

/-!
# Syncs that stay in their directories

A slot whose file is placed in its own directory changes nothing that another
slot takes: the file beside a target is taken by no slot, and no two slots
take one name in one directory.  So the slots of a sync do not depend on each
other, until one of them is given a name that leads elsewhere.
-/

namespace Hearthdeck
namespace Daemon
namespace BiosTargets

open Foundation TextPath

variable
  {Name : Type} [DecidableEq Name]
  {setup : Setup Name}
  {answers : Answers}
  {disk : Disk Name}
  {slot other : BiosSlot}

/-! ## Names -/

/-- The file beside a target has a plain name. -/
theorem isPlain_partialName
    {name : String}
    (plain : isPlain name = true) :
    isPlain (partialName name) = true := by
  obtain ⟨solid, _, _, single⟩ := isPlain_iff.mp plain
  have whole : (partialName name).toList =
      FileName.stem '.' name.toList ++ '.' :: "partial".toList :=
    String.toList_ofList
  rw [isPlain_iff, whole]
  have long : 8 ≤ (FileName.stem '.' name.toList ++
      '.' :: "partial".toList).length := by
    rw [List.length_append]
    exact Nat.le_add_left _ _
  refine ⟨?_, ?_, ?_, ?_⟩
  · intro empty
    rw [empty] at long
    exact absurd long (by decide)
  · intro isDot
    rw [isDot] at long
    exact absurd long (by decide)
  · intro isDots
    rw [isDots] at long
    exact absurd long (by decide)
  · intro inside
    rcases List.mem_append.mp inside with front | back
    · apply single
      rcases FileName.eq_stem_or '.' name.toList with same | ⟨_, _, same⟩
      · exact same ▸ front
      · exact same ▸ List.mem_append_left _ front
    · exact absurd back (by decide)

/-! ## What is fetched -/

/-- What is fetched has the name of a file that the slot takes, and for which
it is verified. -/
structure Fetched
    (setup : Setup Name)
    (slot : BiosSlot)
    (name : String)
    (bytes : List UInt8)
    (last : String) : Prop where
  named : fileName name = some last
  satisfies : nameSatisfies last slot.accept = true
  checks : fileIsVerified setup.sha1Hex last bytes slot.accept = true
  verified : fileIsVerified setup.sha1Hex name bytes slot.accept = true

omit [DecidableEq Name] in
theorem fetched_of_candidate
    (listed : slot ∈ biosSlots)
    {name : String}
    (satisfies : pathSatisfies name slot.accept = true)
    {bytes : List UInt8}
    (verified : fileIsVerified setup.sha1Hex name bytes slot.accept = true) :
    ∃ last, Fetched setup slot (canonicalName slot name) bytes last := by
  obtain ⟨takes, checks⟩ := verified_canonicalName satisfies verified
  obtain ⟨last, named, taken, alike⟩ := exists_fileName listed takes
  exact ⟨last, named, taken, (alike _ _).symm.trans checks, checks⟩

omit [DecidableEq Name] in
/-- A candidate that is downloaded and verified is fetched. -/
theorem fetch_of_candidate
    {entries : List SourceEntry}
    {candidate : SourceEntry}
    {bytes : List UInt8}
    (listing :
      answers.listing (SystemDir.sourceFolder slot) = .ok entries)
    (picked : pickCandidate entries slot.accept = some candidate)
    (offered : candidate.downloadUrl.isNone = false)
    (content : answers.content slot = .ok bytes)
    (small : bytes.length ≤ maxSourceFileBytes)
    (verified : fileIsVerified setup.sha1Hex candidate.name bytes
      slot.accept = true) :
    fetch setup answers slot =
      .ok (canonicalName slot candidate.name, bytes) := by
  unfold fetch
  simp only [listing, picked, offered, content, verified, if_true,
    if_neg (Nat.not_lt.mpr small), Bool.false_eq_true, if_false]

omit [DecidableEq Name] in
theorem fetched_of_fetch
    (listed : slot ∈ biosSlots)
    {name : String}
    {bytes : List UInt8}
    (fetched : fetch setup answers slot = .ok (name, bytes)) :
    ∃ last, Fetched setup slot name bytes last := by
  unfold fetch at fetched
  split at fetched
  case h_1 => cases fetched
  case h_2 entries listing =>
      split at fetched
      case h_1 => cases fetched
      case h_2 candidate picked =>
          dsimp only at fetched
          split at fetched
          case isTrue => cases fetched
          case isFalse =>
              split at fetched
              case h_1 => cases fetched
              case h_2 content answered =>
                  split at fetched
                  case isTrue => cases fetched
                  case isFalse =>
                      split at fetched
                      case isFalse => cases fetched
                      case isTrue verified =>
                          cases fetched
                          exact fetched_of_candidate listed
                            (pathSatisfies_of_pickCandidate picked) verified

/-! ## What is written -/

/-- Only what is touched changes. -/
theorem lookup_writeFile
    {name : String}
    {bytes : List UInt8}
    {place : Place Name}
    (apart : place ∉
      (writeFile setup answers disk slot name bytes).touched) :
    (writeFile setup answers disk slot name bytes).disk.lookup place =
      disk.lookup place := by
  unfold writeFile at apart ⊢
  dsimp only at apart ⊢
  split
  case h_1 => rfl
  case h_2 opened =>
      rw [opened] at apart
      dsimp only at apart ⊢
      split
      case h_1 wrote =>
          rw [wrote] at apart
          exact AList.lookup_insert_ne fun same =>
            apart (List.mem_singleton.mpr same)
      case h_2 wrote =>
          rw [wrote] at apart
          dsimp only at apart ⊢
          split
          case h_1 renamed =>
              rw [renamed] at apart
              exact AList.lookup_insert_ne fun same =>
                apart (List.mem_singleton.mpr same)
          case h_2 renamed =>
              rw [renamed] at apart
              rw [List.mem_cons, not_or, List.mem_singleton] at apart
              rw [AList.lookup_insert_ne apart.2,
                AList.lookup_erase_ne apart.1,
                AList.lookup_insert_ne apart.1]

/-- What is touched is the target or the file beside it, and the file beside
it was opened. -/
theorem touched_writeFile
    {name : String}
    {bytes : List UInt8}
    {place : Place Name}
    (touched : place ∈
      (writeFile setup answers disk slot name bytes).touched) :
    (answers.calls slot).createDirs = none ∧
      (answers.calls slot).create = none ∧
      (place = besides setup slot name ∨ place = target setup slot name) := by
  unfold writeFile at touched
  dsimp only at touched
  split at touched
  case h_1 => cases touched
  case h_2 opened =>
      obtain ⟨dirs, create⟩ := Option.or_eq_none_iff.mp opened
      refine ⟨dirs, create, ?_⟩
      split at touched
      case h_1 => exact .inl (List.mem_singleton.mp touched)
      case h_2 =>
          split at touched
          case h_1 => exact .inl (List.mem_singleton.mp touched)
          case h_2 =>
              exact (List.mem_cons.mp touched).imp_right
                List.mem_singleton.mp

/-- The file beside the target is touched once it is opened. -/
theorem besides_mem_touched
    (dirs : (answers.calls slot).createDirs = none)
    (create : (answers.calls slot).create = none)
    (name : String)
    (bytes : List UInt8) :
    besides setup slot name ∈
      (writeFile setup answers disk slot name bytes).touched := by
  unfold writeFile
  dsimp only
  rw [dirs, create]
  dsimp only [Option.or]
  split
  case h_1 => exact List.mem_cons_self
  case h_2 => split <;> exact List.mem_cons_self

/-- What is placed is at the target. -/
theorem placed_writeFile
    {name placed : String}
    {bytes content : List UInt8}
    (done : (writeFile setup answers disk slot name bytes).outcome =
      .placed placed content) :
    placed = name ∧ content = bytes ∧
      target setup slot name ∈
        (writeFile setup answers disk slot name bytes).touched ∧
      (writeFile setup answers disk slot name bytes).disk.lookup
        (target setup slot name) = some (some bytes) := by
  unfold writeFile at done ⊢
  dsimp only at done ⊢
  split at done
  case h_1 => cases done
  case h_2 opened =>
      split at done
      case h_1 => cases done
      case h_2 wrote =>
          split at done
          case h_1 => cases done
          case h_2 renamed =>
              cases done
              refine ⟨rfl, rfl, ?_, AList.lookup_insert _⟩
              exact List.mem_cons_of_mem _ List.mem_cons_self

/-! ## Other slots -/

/-- What is done for a slot touches nothing, or what it fetched is written. -/
theorem attempt_cases
    (setup : Setup Name)
    (answers : Answers)
    (disk : Disk Name)
    (slot : BiosSlot) :
    ((attempt setup answers disk slot).touched = [] ∧
        (attempt setup answers disk slot).disk = disk ∧
        ∀ name bytes,
          (attempt setup answers disk slot).outcome ≠ .placed name bytes) ∨
      ¬ Verified setup disk slot ∧
        ∃ name bytes, fetch setup answers slot = .ok (name, bytes) ∧
          attempt setup answers disk slot =
            writeFile setup answers disk slot name bytes := by
  by_cases verified : Verified setup disk slot
  · rw [attempt_of_verified verified]
    exact .inl ⟨rfl, rfl, nofun⟩
  · rw [attempt_of_not_verified verified]
    cases fetch setup answers slot with
    | error failure => exact .inl ⟨rfl, rfl, nofun⟩
    | ok found =>
        obtain ⟨name, bytes⟩ := found
        exact .inr ⟨verified, name, bytes, rfl, rfl⟩

theorem lookup_attempt
    {place : Place Name}
    (apart : place ∉ (attempt setup answers disk slot).touched) :
    (attempt setup answers disk slot).disk.lookup place =
      disk.lookup place := by
  rcases attempt_cases setup answers disk slot with
    ⟨_, same, _⟩ | ⟨_, name, bytes, _, writes⟩
  · rw [same]
  · rw [writes] at apart ⊢
    exact lookup_writeFile apart

/-- A slot that does not stray touches its directory only. -/
theorem direct_of_not_strays
    (stays : ¬ Strays setup answers disk slot)
    {place : Place Name}
    (touched : place ∈ (attempt setup answers disk slot).touched) :
    place.1 = slotDir setup slot := by
  rcases attempt_cases setup answers disk slot with
    ⟨nothing, _, _⟩ | ⟨missing, name, bytes, fetched, writes⟩
  · rw [nothing] at touched
    cases touched
  · rw [writes] at touched
    obtain ⟨dirs, create, which⟩ := touched_writeFile touched
    have inside : targetFolder setup slot name = slotDir setup slot :=
      Classical.byContradiction fun outside =>
        stays ⟨missing, name, bytes, fetched, dirs, create, outside⟩
    rcases which with rfl | rfl
    · exact inside
    · exact inside

/-- A slot that strays touches something outside its directory. -/
theorem not_direct_of_strays
    (strays : Strays setup answers disk slot) :
    ∃ place ∈ (attempt setup answers disk slot).touched,
      place.1 ≠ slotDir setup slot := by
  obtain ⟨missing, name, bytes, fetched, dirs, create, outside⟩ := strays
  refine ⟨besides setup slot name, ?_, outside⟩
  rw [attempt_of_not_verified missing, fetched]
  exact besides_mem_touched dirs create name bytes

/-- What is touched for one slot is taken by no other. -/
theorem not_touched_of_ne
    (listed : slot ∈ biosSlots)
    (another : other ∈ biosSlots)
    (different : slot ≠ other)
    (stays : ¬ Strays setup answers disk slot)
    {name : Name}
    (satisfies :
      nameSatisfies (setup.names.text name) other.accept = true) :
    (slotDir setup other, name) ∉
      (attempt setup answers disk slot).touched := by
  intro touched
  have folders := direct_of_not_strays stays touched
  have dirs := targetDir_of_slotFolder another listed folders
  rcases attempt_cases setup answers disk slot with
    ⟨nothing, _, _⟩ | ⟨missing, source, bytes, fetched, writes⟩
  · rw [nothing] at touched
    cases touched
  · rw [writes] at touched
    obtain ⟨last, found⟩ := fetched_of_fetch listed fetched
    have plain := isPlain_of_fileName found.named
    rcases (touched_writeFile touched).2.2 with beside | here
    · obtain rfl := (Prod.mk.inj beside).2
      have taken := nameSatisfies_partialName
        (refusesPartial_biosSlots other another) last
      rw [found.named, Option.getD_some, setup.names.text_encode _
        (isPlain_partialName plain)] at satisfies
      exact absurd (taken.symm.trans satisfies) nofun
    · obtain rfl := (Prod.mk.inj here).2
      rw [found.named, Option.getD_some,
        setup.names.text_encode _ plain] at satisfies
      exact different (slot_eq_of_targetDir listed another found.satisfies
        satisfies dirs.symm)

/-- What is done for one slot changes nothing for another. -/
theorem same_attempt
    (listed : slot ∈ biosSlots)
    (another : other ∈ biosSlots)
    (different : slot ≠ other)
    (stays : ¬ Strays setup answers disk slot) :
    Same setup other disk (attempt setup answers disk slot).disk := by
  intro name satisfies
  exact (lookup_attempt
    (not_touched_of_ne listed another different stays satisfies)).symm

/-- A slot whose file is placed has a verified file. -/
theorem verified_of_placed
    (listed : slot ∈ biosSlots)
    (stays : ¬ Strays setup answers disk slot)
    {name : String}
    {bytes : List UInt8}
    (placed : (attempt setup answers disk slot).outcome =
      .placed name bytes) :
    fileIsVerified setup.sha1Hex name bytes slot.accept = true ∧
      Verified setup (attempt setup answers disk slot).disk slot := by
  rcases attempt_cases setup answers disk slot with
    ⟨_, _, other⟩ | ⟨_, source, content, fetched, writes⟩
  · exact absurd placed (other name bytes)
  · rw [writes] at placed
    obtain ⟨rfl, rfl, touched, stored⟩ := placed_writeFile placed
    rw [← writes] at touched stored
    have inside := direct_of_not_strays stays touched
    obtain ⟨last, found⟩ := fetched_of_fetch listed fetched
    have shown := setup.names.text_encode last
      (isPlain_of_fileName found.named)
    have place : target setup slot name =
        (slotDir setup slot, setup.names.encode last) := by
      apply Prod.ext inside
      change setup.names.encode ((fileName name).getD "") = _
      rw [found.named]
      rfl
    rw [place] at stored
    refine ⟨found.verified, _, bytes, stored, ?_, ?_⟩
    · rw [shown]
      exact found.satisfies
    · rw [shown]
      exact found.checks

/-- What a slot comes to depends on whether it has a verified file only. -/
theorem outcome_congr
    {next : Disk Name}
    (same : Verified setup disk slot ↔ Verified setup next slot) :
    (attempt setup answers disk slot).outcome =
      (attempt setup answers next slot).outcome := by
  by_cases verified : Verified setup disk slot
  · rw [attempt_of_verified verified, attempt_of_verified (same.mp verified)]
  · rw [attempt_of_not_verified verified,
      attempt_of_not_verified fun later => verified (same.mpr later)]
    cases fetch setup answers slot with
    | error failure => rfl
    | ok found =>
        unfold writeFile
        dsimp only
        split
        case h_1 => rfl
        case h_2 =>
            split
            case h_1 => rfl
            case h_2 => split <;> rfl

/-! ## Syncs -/

/-- The active slots are listed once each. -/
theorem nodup_activeSlots
    (platforms : List RommPlatform) :
    (activeSlots platforms).Nodup := by
  unfold activeSlots
  refine List.foldlRecOn (motive := List.Nodup) _ _ List.nodup_nil ?_
  intro slots once platform _
  refine List.foldlRecOn (motive := List.Nodup) _ _ once ?_
  intro slots once found _
  split
  case isTrue present => exact once
  case isFalse missing =>
      rw [List.contains_iff_mem] at missing
      exact once.append (List.nodup_singleton found)
        (List.disjoint_singleton.mpr missing)

theorem after_append
    (front back : List BiosSlot)
    (disk : Disk Name) :
    after setup answers (front ++ back) disk =
      after setup answers back (after setup answers front disk) :=
  List.foldl_append

/-- What is done for a slot is done after the slots before it. -/
theorem mem_attempts
    {slots : List BiosSlot}
    {entry : BiosSlot × Attempt Name}
    (member : entry ∈ attempts setup answers slots disk) :
    ∃ front back, slots = front ++ entry.1 :: back ∧
      entry.2 = attempt setup answers (after setup answers front disk)
        entry.1 := by
  induction slots generalizing disk with
  | nil => cases member
  | cons slot slots inductionHypothesis =>
      rcases List.mem_cons.mp member with rfl | among
      · exact ⟨[], slots, rfl, rfl⟩
      · obtain ⟨front, back, split, done⟩ := inductionHypothesis among
        refine ⟨slot :: front, back, ?_, done⟩
        rw [split]
        rfl

/-- What a slot takes is not changed by a sync in which no slot strays, when
the slot is not among those of the sync or has a verified file. -/
theorem same_after
    {slots : List BiosSlot}
    (listed : ∀ slot ∈ slots, slot ∈ biosSlots)
    (once : slots.Nodup)
    (stays : ∀ slot ∈ slots, ¬ Strays setup answers disk slot)
    (another : other ∈ biosSlots)
    (free : other ∉ slots ∨ Verified setup disk other) :
    Same setup other disk (after setup answers slots disk) := by
  induction slots generalizing disk with
  | nil => exact Same.refl setup other disk
  | cons slot slots inductionHypothesis =>
      obtain ⟨first, rest⟩ := List.nodup_cons.mp once
      have here := stays slot List.mem_cons_self
      have head := listed slot List.mem_cons_self
      have same : Same setup other disk
          (attempt setup answers disk slot).disk := by
        by_cases equal : slot = other
        · subst equal
          have verified := free.resolve_left
            fun absent => absent List.mem_cons_self
          rw [attempt_of_verified verified]
          exact Same.refl setup slot disk
        · exact same_attempt head another equal here
      refine same.trans (inductionHypothesis
        (fun slot member => listed slot (List.mem_cons_of_mem _ member))
        rest ?_ ?_)
      · rintro later member ⟨missing, leaves⟩
        have different : slot ≠ later := fun equal => first (equal ▸ member)
        have kept := same_attempt head
          (listed later (List.mem_cons_of_mem _ member)) different here
        exact stays later (List.mem_cons_of_mem _ member)
          ⟨fun verified => missing (verified.of_same kept), leaves⟩
      · exact free.imp
          (fun absent member => absent (List.mem_cons_of_mem _ member))
          fun verified => verified.of_same same

/-- When all that is touched is in the directory of its slot, no slot
strays. -/
theorem not_strays_of_direct
    {slots : List BiosSlot}
    (listed : ∀ slot ∈ slots, slot ∈ biosSlots)
    (once : slots.Nodup)
    (direct : ∀ entry ∈ attempts setup answers slots disk,
      ∀ place ∈ entry.2.touched, place.1 = slotDir setup entry.1) :
    ∀ slot ∈ slots, ¬ Strays setup answers disk slot := by
  induction slots generalizing disk with
  | nil => nofun
  | cons slot slots inductionHypothesis =>
      obtain ⟨first, rest⟩ := List.nodup_cons.mp once
      have head := listed slot List.mem_cons_self
      have here : ¬ Strays setup answers disk slot := by
        intro strays
        obtain ⟨place, touched, outside⟩ := not_direct_of_strays strays
        exact outside (direct _ List.mem_cons_self place touched)
      intro later member
      rcases List.mem_cons.mp member with rfl | among
      · exact here
      · rintro ⟨missing, leaves⟩
        have different : slot ≠ later := fun equal => first (equal ▸ among)
        have kept := same_attempt head (listed later member) different here
        exact inductionHypothesis
          (fun slot member => listed slot (List.mem_cons_of_mem _ member))
          rest
          (fun entry member =>
            direct entry (List.mem_cons_of_mem _ member))
          later among
          ⟨fun verified => missing (kept.verified_iff.mpr verified), leaves⟩

/-- A slot of a sync in which none strays: what it takes is as it was when it
is tried, and stays as it is from then on. -/
theorem same_around
    {slots front back : List BiosSlot}
    (listed : ∀ slot ∈ slots, slot ∈ biosSlots)
    (once : slots.Nodup)
    (stays : ∀ slot ∈ slots, ¬ Strays setup answers disk slot)
    (split : slots = front ++ slot :: back) :
    Same setup slot disk (after setup answers front disk) ∧
      ¬ Strays setup answers (after setup answers front disk) slot ∧
      Same setup slot
        (attempt setup answers (after setup answers front disk) slot).disk
        (after setup answers slots disk) := by
  subst split
  have parts := List.nodup_append.mp once
  obtain ⟨apart, later⟩ := List.nodup_cons.mp parts.2.1
  have member : slot ∈ front ++ slot :: back :=
    List.mem_append_right _ List.mem_cons_self
  have inFront : ∀ other ∈ front, other ∈ front ++ slot :: back :=
    fun other among => List.mem_append_left _ among
  have inBack : ∀ other ∈ back, other ∈ front ++ slot :: back :=
    fun other among =>
      List.mem_append_right _ (List.mem_cons_of_mem _ among)
  have before : ∀ other ∈ biosSlots, other ∉ front →
      Same setup other disk (after setup answers front disk) :=
    fun other among absent =>
      same_after (fun slot within => listed slot (inFront slot within))
        parts.1 (fun slot within => stays slot (inFront slot within))
        among (.inl absent)
  have notFront : ∀ other ∈ slot :: back, other ∉ front :=
    fun other among within => parts.2.2 other within other among rfl
  have still : ∀ other ∈ slot :: back,
      ¬ Strays setup answers (after setup answers front disk) other := by
    rintro other among ⟨missing, leaves⟩
    have within : other ∈ front ++ slot :: back :=
      List.mem_append_right _ among
    have kept := before other (listed other within) (notFront other among)
    exact stays other within
      ⟨fun verified => missing (verified.of_same kept), leaves⟩
  refine ⟨before slot (listed slot member)
    (notFront slot List.mem_cons_self), still slot List.mem_cons_self, ?_⟩
  rw [after_append]
  refine same_after (fun other among => listed other (inBack other among))
    later ?_ (listed slot member) (.inl apart)
  rintro other among ⟨missing, leaves⟩
  have different : slot ≠ other := fun equal => apart (equal ▸ among)
  have kept := same_attempt (listed slot member)
    (listed other (inBack other among)) different
    (still slot List.mem_cons_self)
  exact still other (List.mem_cons_of_mem _ among)
    ⟨fun verified => missing (verified.of_same kept), leaves⟩

/-- A sync in which no slot strays does what is asked of it. -/
theorem sound_of_not_strays
    {platforms : List RommPlatform}
    (stays : ∀ slot ∈ activeSlots platforms,
      ¬ Strays setup answers disk slot) :
    Sound setup answers platforms disk := by
  have listed : ∀ slot ∈ activeSlots platforms, slot ∈ biosSlots :=
    fun slot member => mem_biosSlots_of_mem_activeSlots member
  have once := nodup_activeSlots platforms
  constructor
  case direct =>
      intro entry member place touched
      obtain ⟨front, back, split, done⟩ := mem_attempts member
      obtain ⟨_, still, _⟩ := same_around listed once stays split
      rw [done] at touched
      exact direct_of_not_strays still touched
  case checked =>
      intro entry member name bytes placed
      obtain ⟨front, back, split, done⟩ := mem_attempts member
      obtain ⟨_, still, _⟩ := same_around listed once stays split
      have among : entry.1 ∈ activeSlots platforms := by
        rw [split]
        exact List.mem_append_right _ List.mem_cons_self
      rw [done] at placed
      exact (verified_of_placed (listed _ among) still placed).1
  case kept =>
      intro slot another verified
      have same := same_after listed once stays another (.inr verified)
      exact ⟨verified.of_same same, same⟩
  case settled =>
      intro name member
      obtain ⟨entry, tried, reported⟩ := List.mem_filterMap.mp member
      refine ⟨entry, tried, ?_⟩
      obtain ⟨front, back, split, done⟩ := mem_attempts tried
      obtain ⟨_, still, later⟩ := same_around listed once stays split
      have among : entry.1 ∈ activeSlots platforms := by
        rw [split]
        exact List.mem_append_right _ List.mem_cons_self
      cases outcome : entry.2.outcome with
      | skipped =>
          rw [outcome] at reported
          cases reported
      | failed failure =>
          rw [outcome] at reported
          cases reported
      | placed placed bytes =>
          rw [outcome] at reported
          cases reported
          rw [done] at outcome
          have verified := (verified_of_placed (listed _ among) still
            outcome).2.of_same later
          refine ⟨⟨bytes, rfl⟩, verified, ?_⟩
          intro again settles other present equal
          obtain ⟨start, rest, cut, tries⟩ := mem_attempts present
          obtain ⟨same, _, _⟩ := same_around listed once settles cut
          rw [tries, attempt_of_verified
            ((equal ▸ verified : Verified setup _ other.1).of_same same)]
  case alone =>
      intro entry member
      obtain ⟨front, back, split, done⟩ := mem_attempts member
      obtain ⟨same, _, _⟩ := same_around listed once stays split
      rw [done]
      exact (outcome_congr same.verified_iff).symm

/-- A sync does what is asked of it exactly when no slot strays: whatever the
platforms, the files, the listings, the downloads and the errors of the system
calls are. -/
theorem sync_sound_iff
    (setup : Setup Name)
    (answers : Answers)
    (platforms : List RommPlatform)
    (disk : Disk Name) :
    Sound setup answers platforms disk ↔
      ∀ slot ∈ activeSlots platforms, ¬ Strays setup answers disk slot := by
  constructor
  · intro sound
    exact not_strays_of_direct
      (fun slot member => mem_biosSlots_of_mem_activeSlots member)
      (nodup_activeSlots platforms) sound.direct
  · exact sound_of_not_strays

/-- With the same answers no slot strays in the sync after it. -/
theorem not_strays_after
    {platforms : List RommPlatform}
    (stays : ∀ slot ∈ activeSlots platforms,
      ¬ Strays setup answers disk slot) :
    ∀ slot ∈ activeSlots platforms, ¬ Strays setup answers
      (after setup answers (activeSlots platforms) disk) slot := by
  rintro slot member ⟨missing, leaves⟩
  refine stays slot member ⟨fun verified => missing ?_, leaves⟩
  exact ((sound_of_not_strays stays).kept slot
    (mem_biosSlots_of_mem_activeSlots member) verified).1

/-- Names that are texts. -/
def textNames : Names String where
  text name := if isPlain name then name else ""
  encode := id
  text_encode _ plain := if_pos plain

/-- The system directory of a user, with contents hashed to nothing. -/
def textSetup : Setup String where
  sha1Hex _ := ""
  names := textNames
  display slot name := slot.targetDir ++ "/" ++ name
  systemDir := ["retroarch", "system"]

/-- A listed file that is named after a place two folders up. -/
def climbingEntry : SourceEntry where
  name := "../../scph.bin"
  size := 4194304
  downloadUrl := some "https://source/scph.bin"

/-- A source with this file in each of its folders. -/
def climbingAnswers (bytes : List UInt8) : Answers where
  listing _ := .ok [climbingEntry]
  content _ := .ok bytes
  calls _ := {}
  arrange _ entries := entries
  arranged _ _ := .refl _

/-- The slot of the PlayStation 2. -/
def ps2Slot : BiosSlot :=
  ⟨ps2SlottedPlatforms, "Sony/PlayStation 2", "pcsx2/bios", true,
    .pattern "SCPH-*.bin" "bin" 4194304 ["SCPH-"] ["SCPH-10000"]⟩

theorem fetch_climbing
    {bytes : List UInt8}
    (length : bytes.length = 4194304) :
    fetch textSetup (climbingAnswers bytes) ps2Slot =
      .ok ("../../scph.bin", bytes) := by
  have picked : pickCandidate [climbingEntry] ps2Slot.accept =
      some climbingEntry := by
    rfl
  have verified : fileIsVerified textSetup.sha1Hex climbingEntry.name bytes
      ps2Slot.accept = true := by
    change (bytes.length == 4194304) = true
    rw [length]
    rfl
  have small : bytes.length ≤ maxSourceFileBytes := by
    rw [length]
    decide
  exact fetch_of_candidate rfl picked rfl rfl small verified

/-- A file named after a place two folders up is placed there. -/
theorem climbing_sync_not_sound :
    ¬ ∀ (setup : Setup String) (answers : Answers)
        (platforms : List RommPlatform) (disk : Disk String),
        Sound setup answers platforms disk := by
  intro sound
  have length : (List.replicate 4194304 (0 : UInt8)).length = 4194304 :=
    List.length_replicate
  generalize List.replicate 4194304 (0 : UInt8) = bytes at length
  have listed : activeSlots [⟨1, some "ps2", none⟩] = [ps2Slot] := by
    decide
  have strays : Strays textSetup (climbingAnswers bytes) ∅ ps2Slot := by
    refine ⟨?_, "../../scph.bin", bytes, fetch_climbing length, rfl, rfl,
      ?_⟩
    · rintro ⟨name, content, found, _⟩
      cases found
    · decide
  obtain ⟨place, touched, outside⟩ := not_direct_of_strays strays
  have direct := (sound textSetup (climbingAnswers bytes)
    [⟨1, some "ps2", none⟩] ∅).direct
  rw [listed] at direct
  exact outside (direct _ List.mem_cons_self place touched)

end BiosTargets
end Daemon
end Hearthdeck
