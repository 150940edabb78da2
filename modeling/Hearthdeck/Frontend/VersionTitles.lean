import Hearthdeck.Foundation.FileNames
import Hearthdeck.Foundation.Repeats
import Hearthdeck.Frontend.Placement

/-!
# Titles of the files of a game

A console record stands for the files RomM collapsed into it.  The picker
lists them by their titles, its own file first, and a title that was listed
before is listed with the id of its file.  Files of one title are told apart
by that.  A title that already ends in such an id is not looked out for.
-/

namespace Hearthdeck
namespace Frontend

open Foundation Foundation.FileName

/-- `RetroRomVersion`. -/
structure RetroRomVersion where
  id : Int
  title : String
  /-- The file the user chose as the main one of its game. -/
  isMainSibling : Bool
  deriving DecidableEq, Repr

/-- `RetroGame`, with the files RomM collapsed into it. -/
structure RetroRecord extends RetroGame where
  siblingRoms : List RetroRomVersion
  versionLabel : Option String
  deriving DecidableEq, Repr

/-- The title of a file with its id. -/
def numbered (version : RetroRomVersion) : String :=
  version.title ++ " (#" ++ toString version.id ++ ")"

/-- The loop of `retro_version_list` over the versions. -/
def distinguish
    (seen : List String) : List RetroRomVersion → List RetroRomVersion
  | [] => []
  | version :: later =>
      if version.title ∈ seen then
        { version with title := numbered version } :: distinguish seen later
      else
        version :: distinguish (version.title :: seen) later

namespace RetroRecord

/-- The file of the record itself. -/
def own (game : RetroRecord) : RetroRomVersion where
  id := game.id
  title := game.versionLabel.getD game.title
  isMainSibling := true

/-- The files of a record, its own first. -/
def files (game : RetroRecord) : List RetroRomVersion :=
  game.own :: game.siblingRoms

end RetroRecord

/-- `retro_version_list`. -/
def retroVersionList (game : RetroRecord) : List RetroRomVersion :=
  if game.siblingRoms.isEmpty then
    []
  else
    distinguish [] game.files

/-! ## Titles with an id -/

theorem notMem_repr
    {mark : Char}
    (noDigit : mark.isDigit = false)
    (number : Nat) :
    mark ∉ (Nat.repr number).toList := by
  intro member
  rw [Nat.toList_repr] at member
  have isDigit := Nat.isDigit_of_mem_toDigits (by decide) (by decide) member
  rw [noDigit] at isDigit
  cases isDigit

theorem toList_negSucc (number : Nat) :
    (toString (Int.negSucc number)).toList =
      '-' :: (Nat.repr (number + 1)).toList := by
  change ("-" ++ Nat.repr (number + 1)).toList = _
  rw [String.toList_append]
  rfl

theorem hash_notMem_toString
    (id : Int) :
    '#' ∉ (toString id).toList := by
  cases id with
  | ofNat number => exact notMem_repr (by decide) number
  | negSucc number =>
      rw [toList_negSucc, List.mem_cons, not_or]
      exact ⟨by decide, notMem_repr (by decide) (number + 1)⟩

/-- An id is told by its digits and its sign. -/
theorem id_eq_of_toString
    {left right : Int}
    (same : (toString left).toList = (toString right).toList) :
    left = right := by
  have digits : ∀ {first second : Nat},
      (Nat.repr first).toList = (Nat.repr second).toList →
        first = second := by
    intro first second same
    rw [Nat.toList_repr, Nat.toList_repr] at same
    simpa only [Nat.ofDigitChars_ten_toDigits] using
      congrArg (Nat.ofDigitChars 10 · 0) same
  have signed : ∀ first second : Nat,
      (Nat.repr first).toList ≠ '-' :: (Nat.repr second).toList := by
    intro first second same
    exact notMem_repr (by decide) first (same ▸ List.mem_cons_self)
  cases left with
  | ofNat first =>
      cases right with
      | ofNat second => exact congrArg Int.ofNat (digits same)
      | negSucc second =>
          rw [toList_negSucc] at same
          exact absurd same (signed first (second + 1))
  | negSucc first =>
      cases right with
      | ofNat second =>
          rw [toList_negSucc] at same
          exact absurd same.symm (signed second (first + 1))
      | negSucc second =>
          rw [toList_negSucc, toList_negSucc] at same
          exact congrArg Int.negSucc
            (Nat.succ_inj.mp (digits (List.cons.inj same).2))

/-- A title with an id tells both. -/
theorem numbered_inj
    {left right : RetroRomVersion}
    (same : numbered left = numbered right) :
    left.title = right.title ∧ left.id = right.id := by
  have cut : ∀ version : RetroRomVersion,
      splitLast '#' (numbered version).toList =
        some (version.title.toList ++ [' ', '('],
          (toString version.id).toList ++ [')']) := by
    intro version
    have plain : '#' ∉ (toString version.id).toList ++ [')'] := by
      rw [List.mem_append, not_or]
      exact ⟨hash_notMem_toString version.id, by decide⟩
    have chars : (numbered version).toList =
        (version.title.toList ++ [' ', '(']) ++
          '#' :: ((toString version.id).toList ++ [')']) := by
      simp [numbered]
    rw [chars, splitLast_append plain]
  have parts := (cut left).symm.trans ((congrArg _ (congrArg _ same)).trans
    (cut right))
  obtain ⟨titles, ids⟩ := Prod.mk.inj (Option.some.inj parts)
  refine ⟨String.toList_injective (List.append_cancel_right titles), ?_⟩
  exact id_eq_of_toString (List.append_cancel_right ids)

theorem numbered_ne_title
    (version : RetroRomVersion) :
    numbered version ≠ version.title := by
  intro same
  have lengths := congrArg (·.toList.length) same
  simp [numbered] at lengths

/-! ## The list of versions -/

/-- The loop gives every file its title or its title with its id. -/
theorem distinguish_eq
    (seen : List String)
    (versions : List RetroRomVersion) :
    (distinguish seen versions).map (·.title) =
        settle (·.title) numbered seen versions ∧
      (distinguish seen versions).map (fun version =>
        (version.id, version.isMainSibling)) =
        versions.map fun version => (version.id, version.isMainSibling) := by
  induction versions generalizing seen with
  | nil => exact ⟨rfl, rfl⟩
  | cons version later inductionHypothesis =>
      rw [distinguish, settle]
      split
      case isTrue known => simp [inductionHypothesis seen]
      case isFalse new =>
          simp [inductionHypothesis (version.title :: seen)]

/-- A file whose title with its id is the title of a file, and whose title an
earlier file has as well. -/
def Collides (game : RetroRecord) : Prop :=
  ∃ before file after, game.files = before ++ file :: after ∧
    file.title ∈ before.map (·.title) ∧
    numbered file ∈ game.files.map (·.title)

theorem numbered_apart
    {versions : List RetroRomVersion}
    (distinct : (versions.map (·.id)).Nodup) :
    versions.Pairwise fun left right => numbered left ≠ numbered right := by
  have ids := List.pairwise_map.mp distinct
  exact ids.imp fun different same => different (numbered_inj same).2

/-- The titles in the list are distinct exactly when none of them collides. -/
theorem titles_nodup_iff
    {game : RetroRecord}
    (collapsed : game.siblingRoms ≠ [])
    (distinct : (game.files.map (·.id)).Nodup) :
    ((retroVersionList game).map (·.title)).Nodup ↔ ¬ Collides game := by
  have listed : retroVersionList game = distinguish [] game.files := by
    simp [retroVersionList, collapsed]
  rw [listed, (distinguish_eq [] game.files).1,
    nodup_settle_iff (numbered_apart distinct)]
  constructor
  · rintro apart ⟨before, file, after, cut, earlier, titled⟩
    exact apart file
      (mem_repeats_iff.mpr ⟨before, after, cut, .inr earlier⟩) titled
  · intro calm item repeated titled
    obtain ⟨before, after, cut, met⟩ := mem_repeats_iff.mp repeated
    exact calm ⟨before, item, after, cut,
      met.resolve_left List.not_mem_nil, titled⟩

/-- A record with one file has no list.  Any other is listed file by file, its
own first.  Files of one title are listed under different titles, and all
titles are different when no title is that of another file with its id. -/
theorem versions_distinguishable
    (game : RetroRecord)
    (distinct : (game.files.map (·.id)).Nodup) :
    (game.siblingRoms = [] → retroVersionList game = []) ∧
      (game.siblingRoms ≠ [] →
        (retroVersionList game).map (fun version =>
            (version.id, version.isMainSibling)) =
          (game.id, true) :: game.siblingRoms.map (fun version =>
            (version.id, version.isMainSibling)) ∧
        (game.files.zip (retroVersionList game)).Pairwise
          (fun left right => left.1.title = right.1.title →
            left.2.title ≠ right.2.title) ∧
        (¬ Collides game →
          ((retroVersionList game).map (·.title)).Nodup)) := by
  refine ⟨fun alone => by simp [retroVersionList, alone],
    fun collapsed => ?_⟩
  have listed : retroVersionList game = distinguish [] game.files := by
    simp [retroVersionList, collapsed]
  obtain ⟨titles, entries⟩ := distinguish_eq [] game.files
  refine ⟨?_, ?_, (titles_nodup_iff collapsed distinct).mpr⟩
  · rw [listed, entries]
    rfl
  · have apart : (game.files.zip
        (settle (·.title) numbered [] game.files)).Pairwise fun left right =>
          left.1.title = right.1.title → left.2 ≠ right.2 :=
      pairwise_zip_settle (numbered_apart distinct) numbered_ne_title
    rw [← titles, List.zip_map_right, List.pairwise_map] at apart
    rw [listed]
    exact apart

/-- A game of three files with one title. -/
def threeGames : RetroRecord where
  id := 42
  platformId := 7
  title := "Metal Gear Solid"
  genres := []
  regions := []
  siblingRoms := [⟨43, "Game", false⟩, ⟨44, "Game", false⟩]
  versionLabel := some "Game"

/-- They are told apart by their ids. -/
theorem three_games_are_told_apart :
    (retroVersionList threeGames).map (fun version =>
        (version.id, version.isMainSibling)) =
        [(42, true), (43, false), (44, false)] ∧
      ((retroVersionList threeGames).map (·.title)).Nodup := by
  obtain ⟨entries, _, titles⟩ :=
    (versions_distinguishable threeGames (by decide)).2 (by decide)
  refine ⟨entries, titles ?_⟩
  rintro ⟨before, file, after, cut, _, titled⟩
  have named : ∀ title ∈ threeGames.files.map (·.title), title = "Game" := by
    decide
  have among : file ∈ threeGames.files := by
    rw [cut]
    exact List.mem_append_right _ List.mem_cons_self
  exact numbered_ne_title file ((named _ titled).trans
    (named _ (List.mem_map_of_mem among)).symm)

/-- A game of one file. -/
def loneGame : RetroRecord :=
  { threeGames with siblingRoms := [] }

/-- A game with a title that ends in the id of another file. -/
def numberedGame : RetroRecord :=
  { threeGames with
    siblingRoms := [⟨43, "Game", false⟩, ⟨44, "Game (#43)", false⟩] }

/-- The one file of a game is not listed, and two files of another game are
listed under one title. -/
theorem files_stay_alike :
    ((loneGame.files.map (·.id)).Nodup ∧
        (retroVersionList loneGame).map (·.id) ≠
          loneGame.files.map (·.id)) ∧
      (numberedGame.files.map (·.id)).Nodup ∧
      ¬ ((retroVersionList numberedGame).map (·.title)).Nodup := by
  refine ⟨by decide, by decide, ?_⟩
  decide +kernel

end Frontend
end Hearthdeck
