import Hearthdeck.Bridge.Sessions
import Hearthdeck.Foundation.KeySort
import Hearthdeck.Foundation.Pieces
import Hearthdeck.Foundation.UnixPaths
import Hearthdeck.Frontend.Library
import Hearthdeck.Frontend.RommForm

/-!
# Processes and their units

A launch runs as a unit of systemd, with the name of the unit in its
environment.  Its processes may leave the unit for scopes of the desktop; the
bridge finds them again by the entry in their environment, which children
inherit, and by the path of their control group.

A process shows its environment and its path as text.  What the bridge reads in
them is what they were written from.
-/

namespace Hearthdeck
namespace Bridge
namespace Supervision

open Foundation
open Frontend (isWhitespace stripped trimmed)

/-! ## What a process shows -/

/-- `HEARTHDECK_UNIT_NAME=…`. -/
def marker (unit : String) : Bytes :=
  ("HEARTHDECK_UNIT_NAME=" ++ unit).toByteArray.data.toList

/-- A name of a control group. -/
def Named (name : String) : Prop :=
  name ≠ "" ∧
    ∀ character ∈ name.toList,
      character ≠ '/' ∧ isWhitespace character = false

-- By trying the characters of the name, not every character there is.
instance (name : String) : Decidable (Named name) :=
  @instDecidableAnd _ _ inferInstance (List.decidableBAll _ _)

/-- A process: the entries of its environment, and the slices on the way to
its unit. -/
structure Process where
  pid : Nat
  entries : List Bytes
  slices : List String
  unit : String
  plain : ∀ entry ∈ entries, 0 ∉ entry
  named : ∀ name ∈ slices ++ [unit], Named name
  deriving DecidableEq

namespace Process

/-- The file `environ`: every entry ends in a zero byte. -/
def environ (process : Process) : Bytes :=
  process.entries.flatMap fun entry => entry ++ [0]

/-- The path of the control group. -/
def path (process : Process) : List Char :=
  (process.slices ++ [process.unit]).flatMap fun name => '/' :: name.toList

/-- The file `cgroup`. -/
def cgroup (process : Process) : String :=
  .ofList ("0::".toList ++ process.path ++ ['\n'])

/-- The process was started with the marker of a unit. -/
def Carries (process : Process) (unit : String) : Prop :=
  marker unit ∈ process.entries

instance (process : Process) (unit : String) :
    Decidable (process.Carries unit) :=
  inferInstanceAs (Decidable (_ ∈ _))

/-- The process is in a scope of the desktop's applications. -/
def InScope (process : Process) : Prop :=
  "app.slice" ∈ process.slices ∧ ".scope".toList <:+ process.unit.toList

instance (process : Process) : Decidable process.InScope :=
  inferInstanceAs (Decidable (_ ∧ _))

end Process

/-- `environment_contains_entry`. -/
def environmentContainsEntry (environment entry : Bytes) : Bool :=
  (pieces 0 environment).any fun value => value == entry

/-- `rsplit('/').next()`. -/
def currentUnit (path : String) : String :=
  .ofList ((pieces '/' path.toList).getLastD [])

/-- `escaped_unit_from_cgroup`. -/
def escapedUnitFromCgroup (cgroup unit : String) : Option String :=
  (stripped "0::" (trimmed cgroup)).bind fun path =>
    if currentUnit path ≠ unit ∧
        ".scope".toList <:+ (currentUnit path).toList ∧
        "/app.slice/".toList <:+: path.toList then
      some (currentUnit path)
    else
      none

/-! ## The environment -/

theorem bytesOf_eq_nil_iff (text : String) :
    text.toByteArray.data.toList = [] ↔ text = "" := by
  rw [Array.toList_eq_nil_iff, ← String.toByteArray_eq_empty_iff]
  exact ⟨fun empty => ByteArray.ext empty, fun empty => by rw [empty]; rfl⟩

theorem bytesOf_injective :
    Function.Injective fun text : String => text.toByteArray.data.toList :=
  fun _ _ same =>
    String.toByteArray_inj.mp (ByteArray.ext (Array.toList_inj.mp same))

theorem marker_ne_nil (unit : String) : marker unit ≠ [] := by
  unfold marker
  rw [Ne, bytesOf_eq_nil_iff, String.append_eq_empty_iff]
  rintro ⟨empty, _⟩
  exact absurd empty (by decide)

theorem marker_injective : Function.Injective marker := by
  intro unit other same
  exact String.append_right_inj _ |>.mp (bytesOf_injective same)

/-- The marker is found where it is an entry, not where it is a part of one. -/
theorem environmentContainsEntry_marker
    (process : Process)
    (unit : String) :
    environmentContainsEntry process.environ (marker unit) = true ↔
      process.Carries unit := by
  unfold environmentContainsEntry Process.environ Process.Carries
  rw [pieces_terminated process.plain]
  simp [marker_ne_nil]

/-! ## The control group -/

theorem slash_notMem
    {process : Process}
    {name : String}
    (member : name ∈ process.slices ++ [process.unit]) :
    '/' ∉ name.toList :=
  fun inside => ((process.named name member).2 '/' inside).1 rfl

/-- A path is cut into its names, behind the slash it starts with. -/
theorem pieces_path
    {names : List String}
    (plain : ∀ name ∈ names, '/' ∉ name.toList) :
    pieces '/' (names.flatMap fun name => '/' :: name.toList) =
      [] :: names.map String.toList := by
  induction names using List.reverseRecOn with
  | nil => rfl
  | append_singleton names name inductionHypothesis =>
      have earlier := inductionHypothesis fun other member =>
        plain other (List.mem_append_left _ member)
      have last := plain name (by simp)
      rw [List.flatMap_append, List.flatMap_singleton, pieces_append, earlier,
        pieces_of_notMem last]
      simp

/-- A name stands between two slashes of a path when it is one of the names
before the last. -/
theorem between_slashes
    {names : List String}
    {last name : String}
    (plain : ∀ other ∈ names ++ [last], '/' ∉ other.toList)
    (single : '/' ∉ name.toList) :
    '/' :: (name.toList ++ ['/']) <:+:
        (names ++ [last]).flatMap (fun other => '/' :: other.toList) ↔
      name ∈ names := by
  constructor
  · rintro ⟨front, back, joined⟩
    have split : front ++ '/' :: (name.toList ++ '/' :: back) =
        (names ++ [last]).flatMap fun other => '/' :: other.toList := by
      rw [← joined]
      simp
    have cut := congrArg (pieces '/') split
    rw [pieces_append, pieces_append, pieces_of_notMem single,
      pieces_path plain] at cut
    obtain ⟨first, later, found⟩ :=
      List.exists_cons_of_ne_nil (pieces_ne_nil '/' front)
    rw [found, List.cons_append] at cut
    have rest := (List.cons.inj cut).2
    obtain ⟨others, final, ends⟩ := (List.eq_nil_or_concat _).resolve_left
      (pieces_ne_nil '/' back)
    rw [ends, List.concat_eq_append, List.map_append, List.map_singleton,
      ← List.append_assoc, ← List.append_assoc] at rest
    have front := (List.append_inj' rest rfl).1
    have member : name.toList ∈ names.map String.toList := by
      rw [← front]
      simp
    obtain ⟨other, listed, same⟩ := List.mem_map.mp member
    exact String.toList_injective same ▸ listed
  · intro member
    obtain ⟨before, after, rfl⟩ := List.append_of_mem member
    cases after with
    | nil =>
        refine ⟨before.flatMap fun other => '/' :: other.toList,
          last.toList, ?_⟩
        simp
    | cons next after =>
        refine ⟨before.flatMap fun other => '/' :: other.toList,
          next.toList ++ (after ++ [last]).flatMap
            fun other => '/' :: other.toList, ?_⟩
        simp

theorem currentUnit_path (process : Process) :
    currentUnit (.ofList process.path) = process.unit := by
  unfold currentUnit Process.path
  rw [String.toList_ofList, pieces_path fun name => slash_notMem,
    List.map_append, List.map_singleton, ← List.cons_append,
    List.getLastD_concat, String.ofList_toList]

theorem appSlice_path (process : Process) :
    "/app.slice/".toList <:+: (String.ofList process.path).toList ↔
      "app.slice" ∈ process.slices := by
  have plain : ∀ name ∈ process.slices ++ [process.unit],
      '/' ∉ name.toList := fun _ => slash_notMem
  have between := between_slashes plain
    (show '/' ∉ "app.slice".toList by decide)
  have path : (String.ofList process.path).toList = process.path :=
    String.toList_ofList
  rw [path]
  exact between

/-- The file of a control group is its path behind a head, and a newline. -/
theorem stripped_cgroup (process : Process) :
    stripped "0::" (trimmed process.cgroup) = some (.ofList process.path) := by
  obtain ⟨filled, solid⟩ := process.named process.unit (by simp)
  obtain ⟨init, last, ends⟩ := (List.eq_nil_or_concat _).resolve_left
    (mt String.toList_eq_nil_iff.mp filled)
  have lastSolid : isWhitespace last = false :=
    (solid last (by rw [ends]; simp)).2
  obtain ⟨front, path⟩ : ∃ front, process.path = front ++ [last] := by
    unfold Process.path
    rw [List.flatMap_append, List.flatMap_singleton, ends]
    rw [List.concat_eq_append, ← List.cons_append, ← List.append_assoc]
    exact ⟨_, rfl⟩
  have trim : trimmed process.cgroup =
      .ofList ("0::".toList ++ process.path) := by
    unfold trimmed Process.cgroup
    rw [String.toList_ofList, path]
    congr 1
    simp [List.dropWhile, lastSolid,
      show isWhitespace '0' = false by decide,
      show isWhitespace '\n' = true by decide]
  rw [trim]
  unfold stripped
  simp

/-- What is read in the file of a control group: the scope of the desktop that
the process has moved to. -/
theorem escapedUnitFromCgroup_eq_some_iff
    (process : Process)
    (unit scope : String) :
    escapedUnitFromCgroup process.cgroup unit = some scope ↔
      process.InScope ∧ process.unit = scope ∧ scope ≠ unit := by
  unfold escapedUnitFromCgroup
  rw [stripped_cgroup, Option.bind_some, Option.ite_none_right_eq_some,
    currentUnit_path, appSlice_path]
  constructor
  · rintro ⟨⟨other, suffix, inSlice⟩, same⟩
    cases same
    exact ⟨⟨inSlice, suffix⟩, rfl, other⟩
  · rintro ⟨⟨inSlice, suffix⟩, rfl, other⟩
    exact ⟨⟨other, suffix, inSlice⟩, rfl⟩

end Supervision
end Bridge
end Hearthdeck
