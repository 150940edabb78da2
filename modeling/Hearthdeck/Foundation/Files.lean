import Hearthdeck.Foundation.Table
import Mathlib.Logic.Function.Basic

/-!
# Files and their names

A name stands for a file, and no two names for one: there are no links.  A
file that is written is written by whoever opened it, whatever name it has by
then.  Opening truncates the file of a name, or makes one.  Renaming lets a
name stand for the file of another, whatever it stood for before.
-/

namespace Hearthdeck
namespace Foundation

universe u v

/-- Files with their contents, and the names that stand for them. -/
structure Files (Name : Type u) [DecidableEq Name] (Byte : Type v) where
  names : Table Name Nat
  contents : Nat → List Byte
  /-- The next file that is made. -/
  next : Nat
  known : ∀ name file, names.lookup name = some file → file < next
  single : ∀ name other file,
    names.lookup name = some file → names.lookup other = some file →
      name = other

namespace Files

variable {Name : Type u} [DecidableEq Name] {Byte : Type v}

/-- No files. -/
def empty : Files Name Byte where
  names := ∅
  contents := fun _ => []
  next := 0
  known := nofun
  single := nofun

/-- What the file of a name holds. -/
def read (files : Files Name Byte) (name : Name) : Option (List Byte) :=
  (files.names.lookup name).map files.contents

/-- A file is given other contents. -/
def store
    (files : Files Name Byte)
    (file : Nat)
    (bytes : List Byte) : Files Name Byte :=
  { files with contents := Function.update files.contents file bytes }

/-- A name that stood for nothing stands for a new file. -/
def add
    (files : Files Name Byte)
    (name : Name)
    (bytes : List Byte) : Files Name Byte where
  names := files.names.insert name files.next
  contents := Function.update files.contents files.next bytes
  next := files.next + 1
  known := by
    intro other file found
    rw [Table.lookup_insert_eq_ite] at found
    split at found
    case isTrue same =>
        cases found
        exact Nat.lt_succ_self _
    case isFalse different =>
        exact Nat.lt_succ_of_lt (files.known other file found)
  single := by
    intro left right file foundLeft foundRight
    rw [Table.lookup_insert_eq_ite] at foundLeft foundRight
    split at foundLeft
    case isTrue isLeft =>
        split at foundRight
        case isTrue isRight => rw [isLeft, isRight]
        case isFalse other =>
            cases foundLeft
            exact absurd (files.known _ _ foundRight) (Nat.lt_irrefl _)
    case isFalse other =>
        split at foundRight
        case isTrue isRight =>
            cases foundRight
            exact absurd (files.known _ _ foundLeft) (Nat.lt_irrefl _)
        case isFalse another =>
            exact files.single _ _ _ foundLeft foundRight

/-- Open a name for writing from the start: the file, which is empty. -/
def create
    (files : Files Name Byte)
    (name : Name) : Files Name Byte × Nat :=
  match files.names.lookup name with
  | some file => (files.store file [], file)
  | none => (files.add name [], files.next)

/-- Bytes at an offset of others, with a filling between them. -/
def patch
    (filling : Byte)
    (old : List Byte)
    (offset : Nat)
    (bytes : List Byte) : List Byte :=
  old.take offset ++ List.replicate (offset - old.length) filling ++ bytes ++
    old.drop (offset + bytes.length)

/-- Write into an open file. -/
def write
    (files : Files Name Byte)
    (filling : Byte)
    (file offset : Nat)
    (bytes : List Byte) : Files Name Byte :=
  files.store file (patch filling (files.contents file) offset bytes)

/-- A name stands for what another one stood for. -/
def move
    (files : Files Name Byte)
    (source target : Name)
    (file : Nat)
    (found : files.names.lookup source = some file) :
    Files Name Byte :=
  { files with
    names := (files.names.erase source).insert target file
    known := by
      intro other found' lookup
      rw [Table.lookup_insert_eq_ite] at lookup
      split at lookup
      case isTrue same =>
          cases lookup
          exact files.known source file found
      case isFalse different =>
          rw [Table.lookup_erase_eq_ite] at lookup
          split at lookup
          case isTrue gone => cases lookup
          case isFalse stays => exact files.known _ _ lookup
    single := by
      have apart : ∀ {other}, other ≠ target →
          ((files.names.erase source).insert target file).lookup other =
            some file → False := by
        intro other different lookup
        rw [Table.lookup_insert_eq_ite, if_neg different,
          Table.lookup_erase_eq_ite] at lookup
        split at lookup
        case isTrue gone => cases lookup
        case isFalse stays => exact stays (files.single _ _ _ lookup found)
      intro left right other foundLeft foundRight
      by_cases isLeft : left = target
      · by_cases isRight : right = target
        · rw [isLeft, isRight]
        · rw [isLeft, AList.lookup_insert] at foundLeft
          cases foundLeft
          exact (apart isRight foundRight).elim
      · by_cases isRight : right = target
        · rw [isRight, AList.lookup_insert] at foundRight
          cases foundRight
          exact (apart isLeft foundLeft).elim
        · rw [Table.lookup_insert_eq_ite, if_neg isLeft,
            Table.lookup_erase_eq_ite] at foundLeft
          rw [Table.lookup_insert_eq_ite, if_neg isRight,
            Table.lookup_erase_eq_ite] at foundRight
          split at foundLeft
          case isTrue gone => cases foundLeft
          case isFalse stays =>
              split at foundRight
              case isTrue gone => cases foundRight
              case isFalse remains =>
                  exact files.single _ _ _ foundLeft foundRight }

/-- Rename, if the name stands for a file. -/
def rename
    (files : Files Name Byte)
    (source target : Name) : Option (Files Name Byte) :=
  match found : files.names.lookup source with
  | none => none
  | some file => some (files.move source target file found)

/-! ## What is read -/

variable {files : Files Name Byte} {name other : Name} {file : Nat}

theorem read_eq_some
    (found : files.names.lookup name = some file) :
    files.read name = some (files.contents file) := by
  unfold read
  rw [found]
  rfl

/-- Only the name of a file sees that it is written. -/
theorem read_store
    (found : files.names.lookup name = some file)
    (different : other ≠ name)
    (bytes : List Byte) :
    (files.store file bytes).read other = files.read other := by
  unfold read store
  dsimp only
  cases lookup : files.names.lookup other with
  | none => rfl
  | some second =>
      have apart : second ≠ file := by
        rintro rfl
        exact different (files.single _ _ _ lookup found)
      simp only [Option.map_some, Function.update_of_ne apart]

theorem contents_store
    (bytes : List Byte) :
    (files.store file bytes).contents file = bytes := by
  change Function.update files.contents file bytes file = bytes
  exact Function.update_self _ _ _

/-- Opening a name changes what is read under no other one. -/
theorem read_create
    (files : Files Name Byte)
    (different : other ≠ name) :
    (files.create name).1.read other = files.read other := by
  unfold create
  split
  case h_1 file found => exact read_store found different []
  case h_2 missing =>
      unfold read add
      dsimp only
      rw [Table.lookup_insert_eq_ite, if_neg different]
      cases lookup : files.names.lookup other with
      | none => rfl
      | some second =>
          have apart := Nat.ne_of_lt (files.known _ _ lookup)
          simp only [Option.map_some, Function.update_of_ne apart]

/-- Opening a name leaves the files of the others to them. -/
theorem lookup_create_of_ne
    (files : Files Name Byte)
    (different : other ≠ name) :
    (files.create name).1.names.lookup other = files.names.lookup other := by
  unfold create
  split
  case h_1 file found => rfl
  case h_2 missing =>
      change (files.names.insert name files.next).lookup other = _
      rw [Table.lookup_insert_eq_ite, if_neg different]

/-- An opened name stands for the file that was opened, which is empty. -/
theorem lookup_create
    (files : Files Name Byte)
    (name : Name) :
    (files.create name).1.names.lookup name = some (files.create name).2 ∧
      (files.create name).1.contents (files.create name).2 = [] := by
  unfold create
  split
  case h_1 file found => exact ⟨found, contents_store []⟩
  case h_2 missing =>
      exact ⟨AList.lookup_insert _, Function.update_self _ _ _⟩

/-- Bytes behind others are added to them. -/
theorem patch_length
    (filling : Byte)
    (old bytes : List Byte) :
    patch filling old old.length bytes = old ++ bytes := by
  unfold patch
  rw [List.take_length, Nat.sub_self, List.replicate_zero, List.append_nil,
    List.drop_eq_nil_of_le (Nat.le_add_right _ _), List.append_nil]

/-- What is read after a rename. -/
theorem read_rename
    {target : Name}
    {renamed : Files Name Byte}
    (renames : files.rename name target = some renamed)
    (found : files.names.lookup name = some file) :
    renamed.names = (files.names.erase name).insert target file ∧
      renamed.contents = files.contents := by
  unfold rename at renames
  split at renames
  case h_1 missing =>
      rw [missing] at found
      cases found
  case h_2 second stood =>
      rw [stood] at found
      cases found
      cases renames
      exact ⟨rfl, rfl⟩

end Files
end Foundation
end Hearthdeck
