import Hearthdeck.Bridge.PadProfiles
import Hearthdeck.Foundation.Machine

/-!
# Seeding the profiles of pads

Every launch seeds the profiles anew.  A run may be cut off, and between two
runs the user saves files, or removes them.

A run goes by what it finds.  What a write that was cut off leaves of a file is
neither the profile nor the profile without its binding, and no later run
touches it, as if the user had written it.  Other than that, runs that were cut
off do no harm.
-/

namespace Hearthdeck
namespace Bridge

open Foundation

/-! ## Runs -/

/-- What happens to the directory. -/
inductive ProfileMove
  /-- The bridge seeds its profiles. -/
  | seeds (stop : Option SeedStop)
  /-- The user saves a file, or removes it. -/
  | saves (name : String) (file : Option ProfileFile)

/-- The directory, and what completed runs return. -/
def seeding
    (bundle : BundledProfiles)
    (start : ProfileDirectory) :
    Machine ProfileDirectory ProfileMove Nat where
  start := start
  step directory
    | .seeds stop =>
        let run := seedRetroarchProfiles bundle stop directory
        (run.1, run.2.toList)
    | .saves name file => (Function.update directory name file, [])

/-- A move that is not the user's, on this file. -/
def ProfileMove.LeavesTo (name : String) (move : ProfileMove) : Prop :=
  ∀ file, move ≠ .saves name file

/-- A file that is neither its profile nor that without the binding. -/
def Strange
    (bundle : BundledProfiles)
    (name : String)
    (file : ProfileFile) : Prop :=
  ∀ profile ∈ bundle.profiles, profile.name = name →
    file ≠ fileOf profile.contents ∧
      file ≠ fileOf (withoutMenuToggleBinding profile.contents)

/-- At first there is no file for a profile, or one of the bridge's, and the
user never touches it. -/
def Unedited
    (start : ProfileDirectory)
    (profile : BundledProfile)
    (moves : List ProfileMove) : Prop :=
  (start profile.name = none ∨
      start profile.name = some (fileOf profile.contents) ∨
      start profile.name =
        some (fileOf (withoutMenuToggleBinding profile.contents))) ∧
    ∀ move ∈ moves, move.LeavesTo profile.name

/-- A run is cut off in the write of a profile, and the bytes that were written
are another text than the profile, with or without the binding. -/
def Tears
    (profile : BundledProfile)
    (directory : ProfileDirectory)
    (move : ProfileMove) : Prop :=
  ∃ written text,
    move = .seeds (some ⟨profile.name, some written⟩) ∧
      (dueText profile (directory profile.name)).isSome ∧
      (withoutMenuToggleBinding profile.contents).toByteArray.extract 0
        written = text.toByteArray ∧
      text ≠ profile.contents ∧
      text ≠ withoutMenuToggleBinding profile.contents

/-- What seeding is to keep to, after some moves. -/
structure Survives
    (bundle : BundledProfiles)
    (start : ProfileDirectory)
    (moves : List ProfileMove) : Prop where
  /-- No run changes what is not the bridge's. -/
  keeps : ∀ earlier later, moves = earlier ++ later →
    ∀ name file, (∀ move ∈ later, move.LeavesTo name) →
      (seeding bundle start).run earlier name = some file →
      Strange bundle name file →
        (seeding bundle start).run moves name = some file
  /-- After a run that completes, what the user never touched is the profile
  without the binding. -/
  settles : ∀ profile ∈ bundle.profiles, Unedited start profile moves →
    ∀ stop directory seeded,
      seedRetroarchProfiles bundle stop ((seeding bundle start).run moves) =
        (directory, some seeded) →
      ∀ text, readToString (directory profile.name) = .ok text →
        text = withoutMenuToggleBinding profile.contents
  /-- A run after one that completes writes nothing. -/
  rests : ∀ stop directory seeded,
    seedRetroarchProfiles bundle stop ((seeding bundle start).run moves) =
      (directory, some seeded) →
    ∀ again, (seedRetroarchProfiles bundle again directory).1 = directory ∧
      ∀ total, (seedRetroarchProfiles bundle again directory).2 = some total →
        total = 0

/-- What the rewriting of a profile is to keep to. -/
structure Unbinds (contents : String) : Prop where
  again : withoutMenuToggleBinding (withoutMenuToggleBinding contents) =
    withoutMenuToggleBinding contents
  lines : (linesOf (withoutMenuToggleBinding contents)).length =
    (linesOf contents).length
  only : List.Forall₂ (fun line result =>
      result = line ∨ BindsMenu line ∧ result = unboundBinding)
    (linesOf contents) (linesOf (withoutMenuToggleBinding contents))

theorem unbinds (contents : String) : Unbinds contents where
  again := withoutMenuToggleBinding_idempotent contents
  lines := (withoutMenuToggleBinding_lines contents).length_eq.symm
  only := withoutMenuToggleBinding_lines contents

/-! ## One file -/

variable {bundle : BundledProfiles} {start : ProfileDirectory}

/-- A run is cut off in the write of a profile only when that is asked. -/
theorem reachOf_eq_cut_iff
    {name : String}
    {profiles : List BundledProfile}
    (member : name ∈ profiles.map (·.name))
    {stop : Option SeedStop}
    {written : Nat} :
    reachOf stop name profiles = .cut written ↔
      stop = some ⟨name, some written⟩ := by
  induction profiles with
  | nil => cases member
  | cons head later inductionHypothesis =>
      rw [reachOf]
      by_cases here : head.name = name
      · subst here
        cases stop with
        | none => simp
        | some stop =>
            obtain ⟨name, reached⟩ := stop
            by_cases same : name = head.name
            · subst same
              cases reached <;> simp [Option.filter, SeedStop.reach]
            · simp [Option.filter, same]
      · have further : name ∈ later.map (·.name) :=
          (List.mem_cons.mp member).resolve_left (Ne.symm here)
        cases stop with
        | none => simpa [here] using inductionHypothesis further
        | some stop =>
            by_cases same : stop.name = head.name
            · have different : stop ≠ ⟨name, some written⟩ := by
                rintro rfl
                exact here same.symm
              simp [Option.filter, same, here, different]
            · simpa [Option.filter, same, here] using
                inductionHypothesis further

/-- How far a move gets in a profile. -/
def ProfileMove.reach
    (bundle : BundledProfiles)
    (name : String) : ProfileMove → Reach
  | .seeds stop => reachOf stop name bundle.profiles
  | .saves _ _ => .untouched

/-- A move that is not the user's visits a file of the bundle. -/
theorem step_apply
    {profile : BundledProfile}
    (member : profile ∈ bundle.profiles)
    {move : ProfileMove}
    (leaves : move.LeavesTo profile.name)
    (directory : ProfileDirectory) :
    ((seeding bundle start).step directory move).1 profile.name =
      (keeperOf profile).visit (directory profile.name)
        (move.reach bundle profile.name) := by
  cases move with
  | seeds stop => exact seedProfiles_apply bundle.distinct member stop _ 0
  | saves name file =>
      have different : profile.name ≠ name := by
        rintro rfl
        exact leaves file rfl
      rw [ProfileMove.reach, Keeper.visit_untouched]
      exact Function.update_of_ne different _ _

/-- Moves that are not the user's visit a file of the bundle one by one. -/
theorem run_apply
    {profile : BundledProfile}
    (member : profile ∈ bundle.profiles)
    {moves : List ProfileMove}
    (leave : ∀ move ∈ moves, move.LeavesTo profile.name) :
    (seeding bundle start).run moves profile.name =
      (keeperOf profile).visits (start profile.name)
        (moves.map (·.reach bundle profile.name)) := by
  induction moves using List.reverseRecOn with
  | nil => rfl
  | append_singleton moves move inductionHypothesis =>
      have before : ∀ move ∈ moves, move.LeavesTo profile.name :=
        fun other among => leave other (List.mem_append_left _ among)
      rw [Machine.run_concat,
        step_apply member (leave move (List.mem_append_right _
          List.mem_cons_self)),
        inductionHypothesis before, List.map_append, Keeper.visits_append]
      rfl

/-- What is due is written. -/
theorem isSome_dueText_iff
    {profile : BundledProfile}
    {file : Option ProfileFile} :
    (dueText profile file).isSome ↔ (keeperOf profile).Due file := by
  rw [dueText_eq]
  split <;> simp [*]

theorem Unedited.kept
    {profile : BundledProfile}
    {moves : List ProfileMove}
    (unedited : Unedited start profile moves) :
    (keeperOf profile).Kept (start profile.name) := by
  rintro file found ⟨other, unwanted⟩
  rcases unedited.1 with missing | shipped | seeded
  · rw [missing] at found
    cases found
  · rw [shipped] at found
    cases found
    exact other rfl
  · rw [seeded] at found
    cases found
    exact unwanted rfl

/-- A file of the bundle is spoilt with a text by the moves that tear it. -/
theorem spoilt_iff_tears
    {profile : BundledProfile}
    (member : profile ∈ bundle.profiles)
    {moves : List ProfileMove}
    (leave : ∀ move ∈ moves, move.LeavesTo profile.name) :
    (∃ text, (keeperOf profile).Spoilt (start profile.name)
        (moves.map (·.reach bundle profile.name)) (fileOf text)) ↔
      ∃ earlier move later, moves = earlier ++ move :: later ∧
        Tears profile ((seeding bundle start).run earlier) move := by
  have named : profile.name ∈ bundle.profiles.map (·.name) :=
    List.mem_map_of_mem member
  constructor
  · rintro ⟨text, earlier, written, later, cut, due, left, foreign⟩
    obtain ⟨before, rest, rfl, rfl, ends⟩ := List.map_eq_append_iff.mp cut
    obtain ⟨move, after, rfl, reached, rfl⟩ := List.map_eq_cons_iff.mp ends
    have inBefore : ∀ move ∈ before, move.LeavesTo profile.name :=
      fun other among => leave other (List.mem_append_left _ among)
    refine ⟨before, move, after, rfl, written, text, ?_, ?_, ?_, ?_, ?_⟩
    · cases move with
      | seeds stop =>
          exact congrArg _ ((reachOf_eq_cut_iff named).mp reached)
      | saves name file => cases reached
    · rw [run_apply member inBefore]
      exact isSome_dueText_iff.mpr due
    · exact ProfileFile.holds.inj left
    · rintro rfl
      exact foreign.1 rfl
    · rintro rfl
      exact foreign.2 rfl
  · rintro ⟨before, move, after, rfl, written, text, rfl, due, left, other,
      unwanted⟩
    have inBefore : ∀ move ∈ before, move.LeavesTo profile.name :=
      fun other among => leave other (List.mem_append_left _ among)
    refine ⟨text, before.map (·.reach bundle profile.name), written,
      after.map (·.reach bundle profile.name), ?_, ?_, ?_, ?_⟩
    · rw [List.map_append, List.map_cons]
      exact congrArg (_ ++ · :: _) ((reachOf_eq_cut_iff named).mpr rfl)
    · rw [← run_apply member inBefore]
      exact isSome_dueText_iff.mp due
    · exact congrArg ProfileFile.holds left
    · exact ⟨fun same => other (fileOf_inj.mp same),
        fun same => unwanted (fileOf_inj.mp same)⟩

/-- A run that completes visits a file of the bundle to the end. -/
theorem seed_completes
    {profile : BundledProfile}
    (member : profile ∈ bundle.profiles)
    {stop : Option SeedStop}
    {before directory : ProfileDirectory}
    {seeded : Nat}
    (completes : seedRetroarchProfiles bundle stop before =
      (directory, some seeded)) :
    directory profile.name =
      (keeperOf profile).visit (before profile.name) .whole := by
  have reached := reachOf_of_completes (List.mem_map_of_mem member)
    (congrArg Prod.snd completes)
  have visited := seedProfiles_apply bundle.distinct member stop before 0
  rw [reached] at visited
  exact (congrFun (congrArg Prod.fst completes) profile.name).symm.trans
    visited

/-! ## What is not the bridge's -/

/-- No move but the user's changes a file that is not the bridge's. -/
theorem step_of_strange
    {name : String}
    {file : ProfileFile}
    (strange : Strange bundle name file)
    {directory : ProfileDirectory}
    (found : directory name = some file)
    {move : ProfileMove}
    (leaves : move.LeavesTo name) :
    ((seeding bundle start).step directory move).1 name = some file := by
  by_cases member : name ∈ bundle.profiles.map (·.name)
  · obtain ⟨profile, among, rfl⟩ := List.mem_map.mp member
    have foreign : (keeperOf profile).Foreign file :=
      strange profile among rfl
    rw [step_apply among leaves, found, foreign.visit]
  · cases move with
    | seeds stop =>
        exact (seedProfiles_of_notMem member stop directory 0).trans found
    | saves other saved =>
        have different : name ≠ other := by
          rintro rfl
          exact leaves saved rfl
        exact (Function.update_of_ne different _ _).trans found

theorem runFrom_of_strange
    {name : String}
    {file : ProfileFile}
    (strange : Strange bundle name file)
    {directory : ProfileDirectory}
    (found : directory name = some file)
    {moves : List ProfileMove}
    (leave : ∀ move ∈ moves, move.LeavesTo name) :
    (seeding bundle start).runFrom directory moves name = some file := by
  induction moves generalizing directory with
  | nil => exact found
  | cons move later inductionHypothesis =>
      obtain ⟨leaves, others⟩ := List.forall_mem_cons.mp leave
      rw [Machine.runFrom_cons]
      exact inductionHypothesis (step_of_strange strange found leaves) others

/-- A run after one that completes writes nothing. -/
theorem seed_after_complete
    {stop : Option SeedStop}
    {before directory : ProfileDirectory}
    {seeded : Nat}
    (completes : seedRetroarchProfiles bundle stop before =
      (directory, some seeded))
    (again : Option SeedStop) :
    (seedRetroarchProfiles bundle again directory).1 = directory ∧
      ∀ total, (seedRetroarchProfiles bundle again directory).2 = some total →
        total = 0 := by
  apply seedProfiles_of_not_due
  intro profile member
  rw [seed_completes member completes]
  exact Keeper.not_due_visit_whole _

/-! ## Seeding survives interruption -/

/-- After a run that completes, a file that the user never touched can be read
as another text exactly when a run tore it. -/
theorem torn_iff_misread
    {profile : BundledProfile}
    (member : profile ∈ bundle.profiles)
    {moves : List ProfileMove}
    (unedited : Unedited start profile moves)
    {stop : Option SeedStop}
    {directory : ProfileDirectory}
    {seeded : Nat}
    (completes : seedRetroarchProfiles bundle stop
      ((seeding bundle start).run moves) = (directory, some seeded)) :
    (∃ text, readToString (directory profile.name) = .ok text ∧
        text ≠ withoutMenuToggleBinding profile.contents) ↔
      ∃ earlier move later, moves = earlier ++ move :: later ∧
        Tears profile ((seeding bundle start).run earlier) move := by
  rw [← spoilt_iff_tears member unedited.2]
  refine exists_congr fun text => ?_
  rw [← unedited.kept.visits_whole_iff, ← run_apply member unedited.2,
    ← seed_completes member completes, readToString_eq_ok_iff]
  exact and_congr_right fun _ => not_congr fileOf_inj.symm

/-- Seeding survives exactly the runs that tear no profile which the user never
touched. -/
theorem seeding_survives_iff
    (bundle : BundledProfiles)
    (start : ProfileDirectory)
    (moves : List ProfileMove) :
    (Survives bundle start moves ∧ ∀ contents, Unbinds contents) ↔
      ∀ profile ∈ bundle.profiles, Unedited start profile moves →
        (seeding bundle start).Along
          (fun directory move => ¬ Tears profile directory move) moves := by
  constructor
  · rintro ⟨survives, _⟩ profile member unedited earlier move later cut tears
    obtain ⟨seeded, completes⟩ := seedProfiles_none_completes bundle.profiles
      ((seeding bundle start).run moves) 0
    have done : seedRetroarchProfiles bundle none
        ((seeding bundle start).run moves) = (_, some seeded) :=
      Prod.ext rfl completes
    obtain ⟨text, reads, other⟩ := (torn_iff_misread member unedited done).mpr
      ⟨earlier, move, later, cut, tears⟩
    exact other (survives.settles profile member unedited _ _ _ done _ reads)
  · intro calm
    refine ⟨⟨?_, ?_, ?_⟩, unbinds⟩
    · rintro earlier later rfl name file leave found strange
      rw [Machine.run, Machine.runFrom_append]
      exact runFrom_of_strange strange found leave
    · intro profile member unedited stop directory seeded done text reads
      by_contra other
      obtain ⟨earlier, move, later, cut, tears⟩ :=
        (torn_iff_misread member unedited done).mp ⟨text, reads, other⟩
      exact calm profile member unedited earlier move later cut tears
    · intro stop directory seeded done again
      exact seed_after_complete done again

/-- A profile without the binding. -/
def xboxPad : BundledProfile where
  name := "Microsoft_X-Box_Series_XS_pad.cfg"
  contents := "input_driver = \"udev\""

/-- A bundle of one profile. -/
def onePad : BundledProfiles where
  profiles := [xboxPad]
  distinct := List.nodup_singleton _

/-- A run is cut off when it has opened the file. -/
def cutOff : List ProfileMove :=
  [.seeds (some ⟨xboxPad.name, some 0⟩)]

/-- A file that was opened and not written stays empty. -/
theorem cut_off_profile_stays_empty :
    ¬ (Survives onePad (fun _ => none) cutOff ∧
      ∀ contents, Unbinds contents) := by
  rintro ⟨survives, _⟩
  have unedited : Unedited (fun _ => none) xboxPad cutOff := by
    refine ⟨.inl rfl, fun move member file same => ?_⟩
    rw [List.mem_singleton.mp member] at same
    cases same
  have tears : Tears xboxPad (fun _ => none)
      (.seeds (some ⟨xboxPad.name, some 0⟩)) := by
    have plain : withoutMenuToggleBinding xboxPad.contents =
        xboxPad.contents := if_neg (by decide)
    refine ⟨0, "", rfl, isSome_dueText_iff.mpr trivial, ?_, by decide, ?_⟩
    · simp
    · rw [plain]
      decide
  obtain ⟨seeded, completes⟩ := seedProfiles_none_completes onePad.profiles
    ((seeding onePad fun _ => none).run cutOff) 0
  have done : seedRetroarchProfiles onePad none
      ((seeding onePad fun _ => none).run cutOff) = (_, some seeded) :=
    Prod.ext rfl completes
  obtain ⟨text, reads, other⟩ :=
    (torn_iff_misread List.mem_cons_self unedited done).mpr
      ⟨[], _, [], rfl, tears⟩
  exact other (survives.settles xboxPad List.mem_cons_self unedited _ _ _
    done _ reads)

end Bridge
end Hearthdeck
