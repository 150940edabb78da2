import Hearthdeck.Bridge.DesktopApps
import Hearthdeck.Foundation.Upkeep

/-!
# Profiles of pads

The bridge ships profiles of pads and writes those that are missing into a
directory that RetroArch reads, with one binding taken out of them.  A file
that is there is the bridge's own if it is a profile as it is shipped, with or
without the binding, and otherwise the user's.  Which files can be read is up
to the system.
-/

namespace Hearthdeck
namespace Bridge

open Foundation
open Frontend (isWhitespace splitOnce splitOnce_eq_some)

/-! ## The binding of the menu -/

/-- `MENU_TOGGLE_KEY`. -/
def menuToggleKey : Text := "input_menu_toggle_btn".toList

/-- The binding that binds nothing. -/
def unboundBinding : Text := menuToggleKey ++ " = \"nul\"".toList

def lineFeed : Char := Char.ofNat 0x0A

/-- The key of a line that binds the menu. -/
def BindsMenu (line : Text) : Prop :=
  (splitOnce '=' line).any fun parts => trim parts.1 == menuToggleKey

instance (line : Text) : Decidable (BindsMenu line) :=
  inferInstanceAs (Decidable (_ = true))

/-- What becomes of a line. -/
def unboundLine (line : Text) : Text :=
  if BindsMenu line then unboundBinding else line

/-- `without_menu_toggle_binding`. -/
def withoutMenuToggleBinding (contents : String) : String :=
  if menuToggleKey <:+: contents.toList then
    .ofList (changePieces lineFeed unboundLine contents.toList)
  else
    contents

theorem isInfix_trim
    (text : Text) :
    trim text <:+: text := by
  have front : text.dropWhile isWhitespace <:+ text :=
    List.dropWhile_suffix _
  have back : ((text.dropWhile isWhitespace).reverse.dropWhile
      isWhitespace).reverse <+: text.dropWhile isWhitespace := by
    rw [← List.reverse_suffix, List.reverse_reverse]
    exact List.dropWhile_suffix _
  exact back.isInfix.trans front.isInfix

/-- The key is in every line that binds the menu. -/
theorem BindsMenu.key_isInfix
    {line : Text}
    (binds : BindsMenu line) :
    menuToggleKey <:+: line := by
  obtain ⟨parts, cut, named⟩ := (Option.any_eq_true _ _).mp binds
  obtain ⟨whole, _⟩ := splitOnce_eq_some cut
  have key : trim parts.1 = menuToggleKey := by simpa using named
  rw [← key, whole]
  exact (isInfix_trim parts.1).trans (List.prefix_append _ _).isInfix

theorem bindsMenu_unboundBinding : BindsMenu unboundBinding := by
  decide

theorem unboundLine_idempotent
    (line : Text) :
    unboundLine (unboundLine line) = unboundLine line := by
  by_cases binds : BindsMenu line
  · rw [unboundLine, unboundLine, if_pos binds,
      if_pos bindsMenu_unboundBinding]
  · rw [unboundLine, unboundLine, if_neg binds, if_neg binds]

theorem lineFeed_notMem_unboundLine
    (line : Text)
    (plain : lineFeed ∉ line) :
    lineFeed ∉ unboundLine line := by
  unfold unboundLine
  split
  · decide
  · exact plain

/-- Looking for the key first makes no difference. -/
theorem withoutMenuToggleBinding_eq
    (contents : String) :
    withoutMenuToggleBinding contents =
      .ofList (changePieces lineFeed unboundLine contents.toList) := by
  unfold withoutMenuToggleBinding
  split
  case isTrue present => rfl
  case isFalse absent =>
      have keeps : ∀ line ∈ pieces lineFeed contents.toList,
          unboundLine line = line := by
        intro line member
        refine if_neg fun binds => absent ?_
        exact binds.key_isInfix.trans (infix_of_mem_pieces member)
      rw [changePieces_eq_self keeps, String.ofList_toList]

/-- The lines of a text. -/
def linesOf (contents : String) : List Text :=
  pieces lineFeed contents.toList

theorem linesOf_withoutMenuToggleBinding
    (contents : String) :
    linesOf (withoutMenuToggleBinding contents) =
      (linesOf contents).map unboundLine := by
  rw [withoutMenuToggleBinding_eq, linesOf, String.toList_ofList]
  exact pieces_changePieces lineFeed_notMem_unboundLine _

theorem withoutMenuToggleBinding_idempotent
    (contents : String) :
    withoutMenuToggleBinding (withoutMenuToggleBinding contents) =
      withoutMenuToggleBinding contents := by
  rw [withoutMenuToggleBinding_eq (withoutMenuToggleBinding contents),
    withoutMenuToggleBinding_eq contents, String.toList_ofList,
    changePieces_idempotent lineFeed_notMem_unboundLine
      unboundLine_idempotent]

/-- Only lines that bind the menu change, and they bind nothing afterwards. -/
theorem withoutMenuToggleBinding_lines
    (contents : String) :
    List.Forall₂ (fun line result =>
        result = line ∨ BindsMenu line ∧ result = unboundBinding)
      (linesOf contents) (linesOf (withoutMenuToggleBinding contents)) := by
  rw [linesOf_withoutMenuToggleBinding, List.forall₂_map_right_iff]
  refine List.forall₂_same.mpr fun line _ => ?_
  by_cases binds : BindsMenu line
  · exact .inr ⟨binds, if_pos binds⟩
  · exact .inl (if_neg binds)

/-- The label of the button is not its binding. -/
example :
    withoutMenuToggleBinding ("input_menu_toggle_btn = \"8\"\n" ++
        "input_menu_toggle_btn_label = \"Guide\"") =
      "input_menu_toggle_btn = \"nul\"\n" ++
        "input_menu_toggle_btn_label = \"Guide\"" := by
  decide +kernel

/-! ## The directory -/

/-- What is found under a name. -/
inductive ProfileFile
  /-- Reading it fails, whatever is in it. -/
  | refused
  | holds (bytes : ByteArray)

-- Not derived, as byte arrays are compared by whichever instance is imported.
instance : DecidableEq ProfileFile
  | .refused, .refused => isTrue rfl
  | .refused, .holds _ => isFalse ProfileFile.noConfusion
  | .holds _, .refused => isFalse ProfileFile.noConfusion
  | .holds bytes, .holds others =>
      decidable_of_iff (bytes.data = others.data)
        (by rw [← ByteArray.ext_iff, ProfileFile.holds.injEq])

/-- The directory of the profiles, with what is found under each name. -/
abbrev ProfileDirectory := String → Option ProfileFile

/-- Why a file is not read. -/
inductive ReadFault
  | notFound
  | other
  deriving DecidableEq, Repr

/-- `read_to_string`. -/
def readToString : Option ProfileFile → Except ReadFault String
  | none => .error .notFound
  | some .refused => .error .other
  | some (.holds bytes) =>
      match String.fromUTF8? bytes with
      | some text => .ok text
      | none => .error .other

/-- The file with a text. -/
def fileOf (text : String) : ProfileFile :=
  .holds text.toByteArray

/-- A bundled profile: the name of its file, and what is in it. -/
structure BundledProfile where
  name : String
  contents : String
  deriving DecidableEq, Repr

/-- `bundled_retroarch_profiles`. -/
structure BundledProfiles where
  profiles : List BundledProfile
  distinct : (profiles.map (·.name)).Nodup

/-- Where a run is cut off: at a profile, before it is written, or in its write
after so many bytes. -/
structure SeedStop where
  name : String
  written : Option Nat
  deriving DecidableEq, Repr

/-- What is written for a profile, if anything. -/
def dueText
    (profile : BundledProfile)
    (file : Option ProfileFile) : Option String :=
  let unbound := withoutMenuToggleBinding profile.contents
  match readToString file with
  | .error .other => none
  | .error .notFound => some unbound
  | .ok existing =>
      let hearthdecks := existing == profile.contents || existing == unbound
      if !hearthdecks || existing == unbound then none else some unbound

/-- The loop of `seed_retroarch_profiles`: the directory, and how many profiles
were written unless the run was cut off. -/
def seedProfiles
    (stop : Option SeedStop) :
    List BundledProfile → ProfileDirectory → Nat →
      ProfileDirectory × Option Nat
  | [], directory, seeded => (directory, some seeded)
  | profile :: later, directory, seeded =>
      match stop.filter (·.name = profile.name),
          dueText profile (directory profile.name) with
      | none, none => seedProfiles stop later directory seeded
      | none, some unbound =>
          seedProfiles stop later
            (Function.update directory profile.name (some (fileOf unbound)))
            (seeded + 1)
      | some ⟨_, some written⟩, some unbound =>
          (Function.update directory profile.name
            (some (.holds (unbound.toByteArray.extract 0 written))), none)
      | some _, _ => (directory, none)

/-- `seed_retroarch_profiles`. -/
def seedRetroarchProfiles
    (bundle : BundledProfiles)
    (stop : Option SeedStop)
    (directory : ProfileDirectory) : ProfileDirectory × Option Nat :=
  seedProfiles stop bundle.profiles directory 0

/-! ## Reading -/

/-- Only a file with a text is read, and as that text. -/
theorem readToString_eq_ok_iff
    {file : Option ProfileFile}
    {text : String} :
    readToString file = .ok text ↔ file = some (fileOf text) := by
  constructor
  · intro reads
    match file with
    | none => cases reads
    | some .refused => cases reads
    | some (.holds bytes) =>
        by_cases valid : bytes.IsValidUTF8
        · have decoded : String.fromUTF8? bytes =
              some (String.fromUTF8 bytes valid) := dif_pos valid
          rw [readToString, decoded] at reads
          cases reads
          rfl
        · have refused : String.fromUTF8? bytes = none := dif_neg valid
          rw [readToString, refused] at reads
          cases reads
  · rintro rfl
    have decoded : String.fromUTF8? text.toByteArray = some text :=
      dif_pos text.isValidUTF8
    rw [fileOf, readToString, decoded]

theorem readToString_eq_notFound_iff
    {file : Option ProfileFile} :
    readToString file = .error .notFound ↔ file = none := by
  constructor
  · intro reads
    match file with
    | none => rfl
    | some .refused => cases reads
    | some (.holds bytes) =>
        rw [readToString] at reads
        split at reads <;> cases reads
  · rintro rfl
    rfl

theorem fileOf_inj
    {left right : String} :
    fileOf left = fileOf right ↔ left = right := by
  rw [fileOf, fileOf, ProfileFile.holds.injEq, String.toByteArray_inj]

/-! ## One file -/

/-- A bundled profile, as a copy that is kept up. -/
def keeperOf (profile : BundledProfile) : Keeper ProfileFile where
  wanted := fileOf (withoutMenuToggleBinding profile.contents)
  former := fileOf profile.contents
  left written := .holds ((withoutMenuToggleBinding
    profile.contents).toByteArray.extract 0 written)

/-- What a run writes is due, and is the profile without the binding. -/
theorem dueText_eq
    (profile : BundledProfile)
    (file : Option ProfileFile) :
    dueText profile file =
      if (keeperOf profile).Due file then
        some (withoutMenuToggleBinding profile.contents)
      else
        none := by
  rw [dueText]
  cases reads : readToString file with
  | ok existing =>
      rw [readToString_eq_ok_iff.mp reads]
      have due : (keeperOf profile).Due (some (fileOf existing)) ↔
          existing = profile.contents ∧
            existing ≠ withoutMenuToggleBinding profile.contents :=
        and_congr fileOf_inj (not_congr fileOf_inj)
      simp only [due]
      by_cases same : existing = withoutMenuToggleBinding profile.contents
      · simp [same]
      · simp [same]
  | error fault =>
      cases fault with
      | notFound =>
          rw [readToString_eq_notFound_iff.mp reads]
          exact (if_pos trivial).symm
      | other =>
          refine (if_neg ?_).symm
          match file with
          | none => cases reads
          | some content =>
              rintro ⟨shipped, _⟩
              rw [shipped] at reads
              have legible : readToString (some (fileOf profile.contents)) =
                  .ok profile.contents := readToString_eq_ok_iff.mpr rfl
              exact absurd (legible.symm.trans reads) (by simp)

/-- How far a run gets in the profile it is cut off at. -/
def SeedStop.reach (stop : SeedStop) : Reach :=
  match stop.written with
  | none => .untouched
  | some written => .cut written

/-- How far a run gets in a profile. -/
def reachOf
    (stop : Option SeedStop)
    (name : String) : List BundledProfile → Reach
  | [] => .untouched
  | profile :: later =>
      match stop.filter (·.name = profile.name) with
      | none => if profile.name = name then .whole else reachOf stop name later
      | some stop => if profile.name = name then stop.reach else .untouched

/-- A run visits its first profile, and goes on unless it is cut off there. -/
theorem seedProfiles_cons
    (stop : Option SeedStop)
    (profile : BundledProfile)
    (later : List BundledProfile)
    (directory : ProfileDirectory)
    (seeded : Nat) :
    seedProfiles stop (profile :: later) directory seeded =
      match stop.filter (·.name = profile.name) with
      | none =>
          seedProfiles stop later
            (Function.update directory profile.name
              ((keeperOf profile).visit (directory profile.name) .whole))
            (seeded +
              if (keeperOf profile).Due (directory profile.name) then 1 else 0)
      | some stop =>
          (Function.update directory profile.name
            ((keeperOf profile).visit (directory profile.name) stop.reach),
            none) := by
  rw [seedProfiles, dueText_eq, Keeper.visit]
  by_cases due : (keeperOf profile).Due (directory profile.name)
  · simp only [if_pos due]
    cases stop.filter (·.name = profile.name) with
    | none => rfl
    | some stop =>
        obtain ⟨name, written⟩ := stop
        cases written with
        | none =>
            simp only [SeedStop.reach, Keeper.visit_untouched,
              Function.update_eq_self]
        | some written =>
            simp only [SeedStop.reach, Keeper.visit_of_due due]
            rfl
  · simp only [if_neg due]
    cases stop.filter (·.name = profile.name) with
    | none => simp
    | some stop => simp [Keeper.visit_of_not_due due]

/-- A run leaves other files alone. -/
theorem seedProfiles_of_notMem
    {name : String}
    {profiles : List BundledProfile}
    (other : name ∉ profiles.map (·.name))
    (stop : Option SeedStop)
    (directory : ProfileDirectory)
    (seeded : Nat) :
    (seedProfiles stop profiles directory seeded).1 name = directory name := by
  induction profiles generalizing directory seeded with
  | nil => rfl
  | cons profile later inductionHypothesis =>
      rw [List.map_cons, List.mem_cons, not_or] at other
      rw [seedProfiles_cons]
      cases stop.filter (·.name = profile.name) with
      | none =>
          dsimp only
          rw [inductionHypothesis other.2, Function.update_of_ne other.1]
      | some stop => exact Function.update_of_ne other.1 _ _

/-- A run visits every file of the bundle, as far as it gets. -/
theorem seedProfiles_apply
    {profile : BundledProfile}
    {profiles : List BundledProfile}
    (distinct : (profiles.map (·.name)).Nodup)
    (member : profile ∈ profiles)
    (stop : Option SeedStop)
    (directory : ProfileDirectory)
    (seeded : Nat) :
    (seedProfiles stop profiles directory seeded).1 profile.name =
      (keeperOf profile).visit (directory profile.name)
        (reachOf stop profile.name profiles) := by
  induction profiles generalizing directory seeded with
  | nil => cases member
  | cons head later inductionHypothesis =>
      rw [List.map_cons, List.nodup_cons] at distinct
      rw [seedProfiles_cons, reachOf]
      rcases List.mem_cons.mp member with rfl | further
      · cases stop.filter (·.name = profile.name) with
        | none =>
            dsimp only
            rw [seedProfiles_of_notMem distinct.1, Function.update_self,
              if_pos rfl]
        | some stop =>
            dsimp only
            rw [Function.update_self, if_pos rfl]
      · have different : profile.name ≠ head.name := by
          intro same
          exact distinct.1 (same ▸ List.mem_map_of_mem further)
        cases stop.filter (·.name = head.name) with
        | none =>
            dsimp only
            rw [inductionHypothesis distinct.2 further,
              Function.update_of_ne different, if_neg (Ne.symm different)]
        | some stop =>
            dsimp only
            rw [Function.update_of_ne different, if_neg (Ne.symm different),
              Keeper.visit_untouched]

/-- A run that is not cut off gets through every profile. -/
theorem reachOf_of_completes
    {name : String}
    {profiles : List BundledProfile}
    (member : name ∈ profiles.map (·.name))
    {stop : Option SeedStop}
    {directory : ProfileDirectory}
    {seeded total : Nat}
    (completes : (seedProfiles stop profiles directory seeded).2 =
      some total) :
    reachOf stop name profiles = .whole := by
  induction profiles generalizing directory seeded with
  | nil => cases member
  | cons head later inductionHypothesis =>
      rw [seedProfiles_cons] at completes
      rw [reachOf]
      cases cut : stop.filter (·.name = head.name) with
      | some stop =>
          rw [cut] at completes
          cases completes
      | none =>
          rw [cut] at completes
          dsimp only at completes ⊢
          split
          case isTrue here => rfl
          case isFalse further =>
              have inLater : name ∈ later.map (·.name) :=
                (List.mem_cons.mp member).resolve_left (Ne.symm further)
              exact inductionHypothesis inLater completes

/-- A run that is not cut off completes. -/
theorem seedProfiles_none_completes
    (profiles : List BundledProfile)
    (directory : ProfileDirectory)
    (seeded : Nat) :
    ∃ total, (seedProfiles none profiles directory seeded).2 = some total := by
  induction profiles generalizing directory seeded with
  | nil => exact ⟨seeded, rfl⟩
  | cons head later inductionHypothesis =>
      rw [seedProfiles_cons]
      exact inductionHypothesis _ _

/-- A run that has nothing to write changes nothing. -/
theorem seedProfiles_of_not_due
    {profiles : List BundledProfile}
    {directory : ProfileDirectory}
    (done : ∀ profile ∈ profiles,
      ¬ (keeperOf profile).Due (directory profile.name))
    (stop : Option SeedStop)
    (seeded : Nat) :
    (seedProfiles stop profiles directory seeded).1 = directory ∧
      ∀ total, (seedProfiles stop profiles directory seeded).2 = some total →
        total = seeded := by
  induction profiles with
  | nil => exact ⟨rfl, fun total same => (Option.some.inj same).symm⟩
  | cons head later inductionHypothesis =>
      obtain ⟨doneHead, doneLater⟩ := List.forall_mem_cons.mp done
      have still : ∀ reach, Function.update directory head.name
          ((keeperOf head).visit (directory head.name) reach) =
            directory := by
        intro reach
        rw [Keeper.visit_of_not_due doneHead, Function.update_eq_self]
      rw [seedProfiles_cons]
      cases stop.filter (·.name = head.name) with
      | none =>
          dsimp only
          rw [still, if_neg doneHead]
          exact inductionHypothesis doneLater
      | some stop =>
          dsimp only
          rw [still]
          exact ⟨rfl, fun total same => by cases same⟩

end Bridge
end Hearthdeck
