import Hearthdeck.Bridge.DesktopApps
import Mathlib.Data.List.Nodup

/-!
# What is launched is what was discovered

For one name, discovery and a launch each choose the first directory that has
something for it.  They agree on every name for which these choices are the
same file.
-/

namespace Hearthdeck
namespace Bridge

open Foundation UnixPath

/-! ## First choices -/

section Choices

universe u v

variable {Item : Type u} {Result : Type v} {items : List Item}
variable {left right : Item → Option Result}

/-- Two ways to choose agree exactly when they choose the same of the first
item of which either chooses something, provided that they never choose the
same of different items. -/
theorem findSome?_eq_iff
    (apart : ∀ first ∈ items, ∀ second ∈ items, ∀ result,
      left first = some result → right second = some result →
      first = second)
    (once : items.Nodup) :
    items.findSome? left = items.findSome? right ↔
      ∀ item, items.find? (fun item =>
        (left item).isSome || (right item).isSome) = some item →
        left item = right item := by
  induction items with
  | nil => simp
  | cons item later inductionHypothesis =>
      have rest := inductionHypothesis
        (fun first inFirst second inSecond => apart first
          (List.mem_cons_of_mem _ inFirst) second
          (List.mem_cons_of_mem _ inSecond))
        (List.nodup_cons.mp once).2
      have fresh := (List.nodup_cons.mp once).1
      cases chosenLeft : left item with
      | none =>
          cases chosenRight : right item with
          | none =>
              rw [List.findSome?_cons, chosenLeft, List.findSome?_cons,
                chosenRight,
                List.find?_cons_of_neg (by simp [chosenLeft, chosenRight])]
              exact rest
          | some result =>
              rw [List.findSome?_cons, chosenLeft, List.findSome?_cons,
                chosenRight,
                List.find?_cons_of_pos (by simp [chosenRight])]
              refine iff_of_false ?_ ?_
              · intro same
                obtain ⟨other, among, chosen⟩ :=
                  List.exists_of_findSome?_eq_some same
                exact fresh (apart other (List.mem_cons_of_mem _ among) item
                  List.mem_cons_self result chosen chosenRight ▸ among)
              · intro all
                have same := all item rfl
                rw [chosenLeft, chosenRight] at same
                cases same
      | some chosen =>
          rw [List.findSome?_cons, chosenLeft,
            List.find?_cons_of_pos (by simp [chosenLeft]),
            List.findSome?_cons]
          cases chosenRight : right item with
          | none =>
              refine iff_of_false ?_ ?_
              · intro same
                obtain ⟨other, among, chosenOther⟩ :=
                  List.exists_of_findSome?_eq_some same.symm
                exact fresh (apart item List.mem_cons_self other
                  (List.mem_cons_of_mem _ among) chosen chosenLeft
                  chosenOther ▸ among)
              · intro all
                have same := all item rfl
                rw [chosenLeft, chosenRight] at same
                cases same
          | some other =>
              constructor
              · intro same other isOther
                cases isOther
                rw [chosenLeft, chosenRight]
                exact same
              · intro all
                have same := all item rfl
                rw [chosenLeft, chosenRight] at same
                exact same

end Choices

/-! ## Directories -/

theorem pushUnique_nodup
    {directories : List Bytes}
    (once : (directories.map components).Nodup)
    (path : Bytes) :
    ((pushUnique directories path).map components).Nodup := by
  unfold pushUnique
  split
  case isTrue present => exact once
  case isFalse absent =>
      rw [List.map_append, List.nodup_append]
      refine ⟨once, List.nodup_singleton _, ?_⟩
      intro left among right isRight same
      cases List.mem_singleton.mp isRight
      exact absent (same ▸ among)

/-- No directory is searched twice. -/
theorem desktopEntryDirectories_nodup
    (host : Host) :
    ((desktopEntryDirectories host).map components).Nodup := by
  have all : ∀ (paths directories : List Bytes),
      (directories.map components).Nodup →
      ((paths.foldl pushUnique directories).map components).Nodup := by
    intro paths
    induction paths with
    | nil => exact fun directories once => once
    | cons path later inductionHypothesis =>
        exact fun directories once =>
          inductionHypothesis _ (pushUnique_nodup once path)
  exact all _ [] List.nodup_nil

/-! ## Names -/

/-- A path with a slash has a component before what is behind it. -/
theorem components_before
    (front rest : Bytes) :
    ∃ before, before ≠ [] ∧
      components (front ++ slash :: rest) =
        before ++ (pieces slash rest).filterMap component := by
  obtain ⟨piece, others, cut⟩ := List.exists_cons_of_ne_nil
    (pieces_ne_nil slash front)
  have whole : pieces slash (front ++ slash :: rest) =
      pieces slash front ++ pieces slash rest := pieces_append _ _ _
  have firsts : (pieces slash (front ++ slash :: rest)).head? =
      some piece := by
    rw [whole, cut]
    rfl
  refine ⟨UnixPath.front (front ++ slash :: rest) ++
    (pieces slash front).filterMap component, ?_, ?_⟩
  · intro nothing
    obtain ⟨noFront, noPieces⟩ := List.append_eq_nil_iff.mp nothing
    unfold UnixPath.front at noFront
    rw [firsts] at noFront
    split_ifs at noFront with rooted isDot
    rw [cut, List.filterMap_cons] at noPieces
    cases named : component piece with
    | some part => rw [named] at noPieces; cases noPieces
    | none =>
        have empty : piece = [] := by
          unfold component at named
          split_ifs at named with none
          exact none.resolve_right fun same => isDot (congrArg some same)
        rw [empty] at cut
        rcases head?_of_pieces cut with noText | headed
        · rw [noText] at rooted
          exact rooted rfl
        · apply rooted
          rw [List.head?_append, headed]
          rfl
  · rw [components, whole, List.filterMap_append, List.append_assoc]

/-- Only a plain name makes a file of a joined path, when it is bare. -/
theorem plain_of_isFile
    {fileSystem : FileSystem}
    {directory name : Bytes}
    (bare : isBareFileName name = true)
    (isFile : fileSystem.isFile (join directory name) = true) :
    Plain name := by
  simp only [isBareFileName, Bool.and_eq_true, decide_eq_true_eq, ne_eq,
    beq_iff_eq] at bare
  obtain ⟨⟨⟨solid, notDot⟩, notDots⟩, single⟩ := bare
  by_cases inside : slash ∈ name
  · obtain ⟨front, rest, rfl⟩ := List.append_of_mem inside
    obtain ⟨before, joined⟩ := join_ends directory (front ++ slash :: rest)
    obtain ⟨last, isLast, plain⟩ := fileSystem.file _ isFile
    rw [joined, ← List.append_assoc, pieces_append, List.getLast?_append]
      at isLast
    have among : last ∈ pieces slash rest := by
      apply List.mem_of_getLast?
      rw [List.getLast?_eq_some_getLast (pieces_ne_nil slash rest)] at isLast ⊢
      exact isLast
    have named : Component.normal last ∈
        (pieces slash rest).filterMap component :=
      List.mem_filterMap.mpr ⟨last, among, component_of_plain plain⟩
    obtain ⟨parts, something, whole⟩ := components_before front rest
    have first := List.length_pos_iff.mpr something
    have second := List.length_pos_of_mem named
    rw [whole, List.length_append] at single
    omega
  · exact ⟨solid, inside, notDot, notDots⟩

theorem fileName_join
    {name : Bytes}
    (plain : Plain name)
    (directory : Bytes) :
    fileName (join directory name) = some name := by
  unfold fileName
  rw [components_join_plain plain, List.getLast?_concat]

/-- Joined paths are the same only for one name in one directory. -/
theorem join_injective
    {first second left right : Bytes}
    (plainLeft : Plain left)
    (plainRight : Plain right)
    (same : join first left = join second right) :
    components first = components second ∧ left = right := by
  have parts := congrArg components same
  rw [components_join_plain plainLeft, components_join_plain plainRight]
    at parts
  obtain ⟨before, last⟩ := List.append_inj' parts rfl
  exact ⟨before, Component.normal.inj (List.cons.inj last).1⟩

section Agreeing

variable (fileSystem : FileSystem) (host : Host) (id : Str)

/-! ## What is listed -/

/-- The name that a directory lists an application under. -/
def listedAs (directory : Bytes) : Option Bytes :=
  (fileSystem.names directory).find? fun name =>
    decide (FileName.extension dot name = some (ascii "desktop")) &&
      (parseDesktopEntry fileSystem host (join directory name)).toBool &&
      decide (Str.lossy name = id)

theorem bind_eq_ok
    {Error First Second : Type}
    {first : Except Error First}
    {next : First → Except Error Second}
    {result : Second}
    (ok : (first >>= next) = .ok result) :
    ∃ between, first = .ok between ∧ next between = .ok result := by
  cases first with
  | error error => cases ok
  | ok between => exact ⟨between, rfl, ok⟩

theorem applicationId_of_parse
    {path : Bytes}
    {application : DiscoveredApplication}
    (parsed : parseDesktopEntry fileSystem host path = .ok application) :
    ∃ file, fileName path = some file ∧
      application.applicationId = .lossy file := by
  unfold parseDesktopEntry at parsed
  obtain ⟨content, _, parsed⟩ := bind_eq_ok parsed
  obtain ⟨_, _, parsed⟩ := bind_eq_ok parsed
  obtain ⟨_, _, parsed⟩ := bind_eq_ok parsed
  split at parsed
  case h_1 => cases parsed
  case h_2 name _ =>
      split at parsed
      case h_1 => cases parsed
      case h_2 file named =>
          cases parsed
          exact ⟨file, named, rfl⟩

/-- A file of a directory is listed under its name. -/
theorem path_candidate
    (directory : Bytes)
    {name : Bytes}
    (plain : Plain name) :
    ((candidate fileSystem host (join directory name)).filter
        fun found => decide (found.application.applicationId = id)).map
          (·.path) =
      if decide (FileName.extension dot name = some (ascii "desktop")) &&
          (parseDesktopEntry fileSystem host (join directory name)).toBool &&
          decide (Str.lossy name = id) then
        some (join directory name)
      else
        none := by
  have named := fileName_join plain directory
  unfold candidate UnixPath.extension
  rw [named, Option.bind_some]
  by_cases isDesktop : FileName.extension dot name = some (ascii "desktop")
  · rw [if_pos isDesktop, decide_eq_true isDesktop, Bool.true_and]
    cases parsed : parseDesktopEntry fileSystem host (join directory name) with
    | error error => rfl
    | ok application =>
        obtain ⟨file, isFile, isId⟩ :=
          applicationId_of_parse fileSystem host parsed
        have same : file = name := Option.some.inj (isFile.symm.trans named)
        rw [Option.filter_some, isId, same]
        change Option.map _ (if decide (Str.lossy name = id) then _ else _) =
          if decide (Str.lossy name = id) then _ else _
        split <;> rfl
  · rw [if_neg isDesktop, decide_eq_false isDesktop]
    rfl

/-- What a directory adds to the list for an id. -/
def entryIn (directory : Bytes) : Option Found :=
  (fileSystem.names directory).findSome? fun name =>
    (candidate fileSystem host (join directory name)).filter fun found =>
      decide (found.application.applicationId = id)

/-- The entry of a directory was parsed from the name it is listed under. -/
theorem path_entryIn
    (directory : Bytes) :
    (entryIn fileSystem host id directory).map (·.path) =
      (listedAs fileSystem host id directory).map (join directory) := by
  unfold entryIn listedAs
  have plain := fileSystem.plain directory
  generalize fileSystem.names directory = names at plain ⊢
  induction names with
  | nil => rfl
  | cons name later inductionHypothesis =>
      have rest := inductionHypothesis fun other among =>
        plain other (List.mem_cons_of_mem _ among)
      have first := path_candidate fileSystem host id directory
        (plain name List.mem_cons_self)
      rw [List.findSome?_cons, List.find?_cons]
      split at first
      case isTrue isListed =>
          rw [isListed]
          obtain ⟨found, isFound, isPath⟩ := Option.map_eq_some_iff.mp first
          rw [isFound]
          exact congrArg some isPath
      case isFalse notListed =>
          rw [Bool.eq_false_iff.mpr notListed]
          rw [Option.map_eq_none_iff.mp first]
          exact rest

/-- The entries of one directory do not replace earlier ones. -/
theorem lookup_orInsert
    (entries : Table Str Found)
    (found : Found) :
    (orInsert entries found).lookup id =
      (entries.lookup id).or ((some found).filter fun found =>
        decide (found.application.applicationId = id)) := by
  unfold orInsert
  rw [Option.filter_some]
  split
  case isTrue present =>
      by_cases same : found.application.applicationId = id
      · rw [same] at present
        obtain ⟨value, isValue⟩ := Option.isSome_iff_exists.mp
          (AList.lookup_isSome.mpr present)
        rw [isValue]
        rfl
      · rw [decide_eq_false same, if_neg Bool.false_ne_true, Option.or_none]
  case isFalse absent =>
      rw [Table.lookup_insert_eq_ite]
      by_cases same : found.application.applicationId = id
      · rw [if_pos same.symm, decide_eq_true same, if_pos rfl, ← same,
          AList.lookup_eq_none.mpr absent]
        rfl
      · rw [if_neg (Ne.symm same), decide_eq_false same,
          if_neg Bool.false_ne_true, Option.or_none]

theorem lookup_discoverIn
    (entries : Table Str Found)
    (directory : Bytes) :
    (discoverIn fileSystem host entries directory).lookup id =
      (entries.lookup id).or (entryIn fileSystem host id directory) := by
  unfold discoverIn entryIn
  generalize fileSystem.names directory = names
  induction names generalizing entries with
  | nil => simp
  | cons name later inductionHypothesis =>
      rw [List.foldl_cons, inductionHypothesis, List.findSome?_cons]
      cases candidate fileSystem host (join directory name) with
      | none => rfl
      | some found =>
          dsimp only
          rw [lookup_orInsert, Option.or_assoc]
          cases (some found).filter fun found =>
              decide (found.application.applicationId = id) with
          | none => rfl
          | some kept => rfl

theorem lookup_discover
    (directories : List Bytes)
    (entries : Table Str Found) :
    (directories.foldl (discoverIn fileSystem host) entries).lookup id =
      (entries.lookup id).or
        (directories.findSome? (entryIn fileSystem host id)) := by
  induction directories generalizing entries with
  | nil => simp
  | cons directory later inductionHypothesis =>
      rw [List.foldl_cons, inductionHypothesis, lookup_discoverIn,
        Option.or_assoc, List.findSome?_cons]
      cases entryIn fileSystem host id directory with
      | none => rfl
      | some found => rfl

/-! ## What is launched -/

/-- There is a file to launch in a directory. -/
def launches (directory : Bytes) : Bool :=
  isBareFileName id.bytes &&
    (fileSystem.isFile (join directory id.bytes) &&
      (parseDesktopEntry fileSystem host
        (join directory id.bytes)).toBool)

/-- What a directory has to launch. -/
def launchIn (directory : Bytes) : Option Bytes :=
  if launches fileSystem host id directory then
    some (join directory id.bytes)
  else
    none

theorem desktopEntryPath_eq_ok_iff
    (path : Bytes) :
    desktopEntryPath fileSystem host desktopApps id = .ok path ↔
      (desktopEntryDirectories host).findSome?
        (launchIn fileSystem host id) = some path := by
  unfold desktopEntryPath launchIn launches
  rw [if_neg (fun different => different rfl)]
  by_cases bare : isBareFileName id.bytes = true
  · rw [if_pos bare]
    simp only [bare, Bool.true_and]
    induction desktopEntryDirectories host with
    | nil => simp
    | cons directory later inductionHypothesis =>
        rw [List.map_cons, List.find?_cons, List.findSome?_cons]
        cases (fileSystem.isFile (join directory id.bytes) &&
          (parseDesktopEntry fileSystem host
            (join directory id.bytes)).toBool) with
        | true => simp
        | false => exact inductionHypothesis
  · rw [if_neg bare]
    simp only [Bool.eq_false_iff.mpr bare, Bool.false_and,
      Bool.false_eq_true, if_false]
    rw [List.findSome?_eq_none_iff.mpr fun _ _ => rfl]
    exact iff_of_false (fun ok => by cases ok) (fun some => by cases some)

/-- What is listed for an id has it. -/
theorem id_of_entry
    {directories : List Bytes}
    {found : Found}
    (entry : directories.findSome? (entryIn fileSystem host id) =
      some found) :
    found.application.applicationId = id := by
  obtain ⟨directory, _, inDirectory⟩ :=
    List.exists_of_findSome?_eq_some entry
  obtain ⟨name, _, isFound⟩ := List.exists_of_findSome?_eq_some inDirectory
  exact of_decide_eq_true (Option.filter_eq_some_iff.mp isFound).2

/-- What an id is listed as, by the path it was parsed from. -/
theorem mem_discoverApplications_iff
    (path : Bytes) :
    (∃ entries, discoverApplications fileSystem host desktopApps =
        .ok entries ∧ ∃ found ∈ entries,
          found.application.applicationId = id ∧ found.path = path) ↔
      (desktopEntryDirectories host).findSome? (fun directory =>
        (listedAs fileSystem host id directory).map (join directory)) =
          some path := by
  have lookups := fun other : Str => lookup_discover fileSystem host other
    (desktopEntryDirectories host) ∅
  have paths : (desktopEntryDirectories host).findSome? (fun directory =>
      (listedAs fileSystem host id directory).map (join directory)) =
        ((desktopEntryDirectories host).findSome?
          (entryIn fileSystem host id)).map (·.path) := by
    rw [List.map_findSome?]
    exact congrArg (List.findSome? · _)
      (funext fun directory =>
        (path_entryIn fileSystem host id directory).symm)
  rw [paths, Option.map_eq_some_iff]
  unfold discoverApplications
  rw [if_pos rfl]
  constructor
  · rintro ⟨entries, isList, found, among, isId, isPath⟩
    cases isList
    rw [List.mem_mergeSort] at among
    obtain ⟨⟨key, value⟩, inEntries, rfl⟩ := List.mem_map.mp among
    have atKey := AList.mem_lookup_iff.mpr inEntries
    rw [Option.mem_def, lookups] at atKey
    have isKey := id_of_entry fileSystem host key atKey
    rw [← isKey, isId] at atKey
    exact ⟨value, atKey, isPath⟩
  · rintro ⟨found, atId, isPath⟩
    refine ⟨_, rfl, found, ?_, id_of_entry fileSystem host id atId, isPath⟩
    have inEntries := AList.mem_lookup_iff.mp
      (Option.mem_def.mpr ((lookups id).trans atId))
    rw [List.mem_mergeSort]
    exact List.mem_map.mpr ⟨_, inEntries, rfl⟩

/-- The directories from which an id would be launched, or has an entry. -/
def concerns (directory : Bytes) : Bool :=
  launches fileSystem host id directory ||
    (listedAs fileSystem host id directory).isSome

/-- A file to launch has a plain name. -/
theorem plain_of_launchIn
    {directory path : Bytes}
    (chosen : launchIn fileSystem host id directory = some path) :
    Plain id.bytes ∧ path = join directory id.bytes := by
  unfold launchIn at chosen
  split at chosen
  case isFalse nothing => cases chosen
  case isTrue there =>
      cases chosen
      obtain ⟨bare, file⟩ := Bool.and_eq_true_iff.mp there
      exact ⟨plain_of_isFile bare (Bool.and_eq_true_iff.mp file).1, rfl⟩

/-- What a launch opens is a file of one of the directories. -/
theorem child_of_launch
    {path : Bytes}
    (opens : desktopEntryPath fileSystem host desktopApps id = .ok path) :
    ∃ directory ∈ desktopEntryDirectories host, ∃ name, Plain name ∧
      components path = components directory ++ [.normal name] := by
  rw [desktopEntryPath_eq_ok_iff] at opens
  obtain ⟨directory, among, chosen⟩ := List.exists_of_findSome?_eq_some opens
  obtain ⟨plain, rfl⟩ := plain_of_launchIn fileSystem host id chosen
  exact ⟨directory, among, id.bytes, plain,
    components_join_plain plain directory⟩

theorem plain_of_listedAs
    {directory name : Bytes}
    (isListed : listedAs fileSystem host id directory = some name) :
    Plain name :=
  fileSystem.plain directory name (List.mem_of_find?_eq_some isListed)

/-- A directory launches what it lists exactly when it has the file of that
name for both. -/
theorem launchIn_eq_iff
    {directory : Bytes}
    (concerned : concerns fileSystem host id directory = true) :
    launchIn fileSystem host id directory =
        (listedAs fileSystem host id directory).map (join directory) ↔
      launches fileSystem host id directory = true ∧
        listedAs fileSystem host id directory = some id.bytes := by
  constructor
  · intro same
    cases isListed : listedAs fileSystem host id directory with
    | none =>
        rw [concerns, isListed, Option.isSome_none, Bool.or_false] at concerned
        rw [launchIn, if_pos concerned, isListed] at same
        cases same
    | some name =>
        rw [isListed, Option.map_some] at same
        obtain ⟨plain, joined⟩ := plain_of_launchIn fileSystem host id same
        have names := (join_injective
          (plain_of_listedAs fileSystem host id isListed) plain joined).2
        refine ⟨?_, congrArg some names⟩
        unfold launchIn at same
        split at same
        case isTrue there => exact there
        case isFalse nothing => cases same
  · rintro ⟨there, isListed⟩
    rw [launchIn, if_pos there, isListed]
    rfl

/-- An id is launched as what it is listed as, or is neither launched nor
listed, exactly when the first directory with anything for it has a file of
that name to launch and lists this file for it.  What is launched is always a
file of one of the directories. -/
theorem launched_is_listed_iff :
    ((∀ path,
        desktopEntryPath fileSystem host desktopApps id = .ok path ↔
          ∃ entries, discoverApplications fileSystem host desktopApps =
            .ok entries ∧ ∃ found ∈ entries,
              found.application.applicationId = id ∧ found.path = path) ↔
      ∀ directory, (desktopEntryDirectories host).find?
        (concerns fileSystem host id) = some directory →
          launches fileSystem host id directory = true ∧
            listedAs fileSystem host id directory = some id.bytes) ∧
    ∀ path, desktopEntryPath fileSystem host desktopApps id = .ok path →
      ∃ directory ∈ desktopEntryDirectories host, ∃ name, Plain name ∧
        components path = components directory ++ [.normal name] := by
  refine ⟨?_, fun path => child_of_launch fileSystem host id⟩
  have once := desktopEntryDirectories_nodup host
  have concerned : (fun directory =>
      (launchIn fileSystem host id directory).isSome ||
        ((listedAs fileSystem host id directory).map
          (join directory)).isSome) = concerns fileSystem host id := by
    funext directory
    rw [concerns, launchIn, Option.isSome_map]
    split
    case isTrue there => rw [there]; rfl
    case isFalse nothing => rw [Bool.eq_false_iff.mpr nothing]; rfl
  simp only [desktopEntryPath_eq_ok_iff, mem_discoverApplications_iff]
  rw [← Option.ext_iff, findSome?_eq_iff ?_ once.of_map, concerned]
  · refine forall_congr' fun directory => ?_
    constructor
    · intro same isFirst
      exact (launchIn_eq_iff fileSystem host id
        (List.find?_some isFirst)).mp (same isFirst)
    · intro both isFirst
      exact (launchIn_eq_iff fileSystem host id
        (List.find?_some isFirst)).mpr (both isFirst)
  · intro first inFirst second inSecond path chosen isEntry
    obtain ⟨plain, isPath⟩ := plain_of_launchIn fileSystem host id chosen
    obtain ⟨name, isListed, joined⟩ := Option.map_eq_some_iff.mp isEntry
    have parts := (join_injective plain
      (plain_of_listedAs fileSystem host id isListed)
      (isPath.symm.trans joined.symm)).1
    exact List.inj_on_of_nodup_map once inFirst inSecond parts

end Agreeing

/-- A session without variables. -/
def bareHost : Host where
  dataHome := none
  home := none
  dataDirs := none
  currentDesktops := []
  executableExists := fun _ => true

/-- The name of a desktop entry that was put aside. -/
def backupName : Bytes := ascii "firefox.desktop.bak"

def backupDirectory : Bytes := ascii "/usr/share/applications"

/-- A file system with this entry only. -/
def backupFiles : FileSystem where
  isFile path := path == join backupDirectory backupName
  read path :=
    if path = join backupDirectory backupName then
      .ok ("[Desktop Entry]\nType=Application\nName=Firefox\n" ++
        "Exec=firefox\n").toList
    else
      .error "No such file or directory"
  names directory := if directory = backupDirectory then [backupName] else []
  plain directory name member := by
    split at member
    · rw [List.mem_singleton.mp member]
      decide
    · cases member
  file path isFile := by
    rw [eq_of_beq isFile]
    exact ⟨backupName, by decide, by decide⟩

/-- A file that is not listed is launched. -/
theorem backup_is_launched :
    desktopEntryPath backupFiles bareHost desktopApps
        ⟨backupName, Utf8.wellFormed_of_ascii (by decide)⟩ =
      .ok (join backupDirectory backupName) ∧
    ¬ ∃ entries, discoverApplications backupFiles bareHost desktopApps =
      .ok entries ∧ ∃ found ∈ entries,
        found.application.applicationId =
            ⟨backupName, Utf8.wellFormed_of_ascii (by decide)⟩ ∧
          found.path = join backupDirectory backupName := by
  refine ⟨?_, ?_⟩
  · rw [desktopEntryPath_eq_ok_iff]
    decide +kernel
  · rw [mem_discoverApplications_iff]
    decide +kernel

end Bridge
end Hearthdeck
