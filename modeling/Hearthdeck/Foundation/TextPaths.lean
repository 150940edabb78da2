import Hearthdeck.Foundation.Pieces

/-!
# Paths that are text

The parts of a path are the pieces between its slashes, less the empty ones
and the dots, which lead nowhere.  Where there are no links, a path leads from
a folder to another part by part, two dots leading to the parent.  A folder is
the names of the folders on the way to it.
-/

namespace Hearthdeck
namespace Foundation
namespace TextPath

/-- A part that leads to the parent. -/
def dots : List Char := ['.', '.']

/-- A name that is one part of any path. -/
def isPlain (name : String) : Bool :=
  decide (name.toList ≠ [] ∧ name.toList ≠ ['.'] ∧ name.toList ≠ dots ∧
    '/' ∉ name.toList)

/-- A piece that leads somewhere. -/
def leads (piece : List Char) : Bool :=
  decide (piece ≠ [] ∧ piece ≠ ['.'])

/-- The parts of a path. -/
def parts (path : String) : List (List Char) :=
  (pieces '/' path.toList).filter leads

/-- `Path::is_absolute`. -/
def isAbsolute (path : String) : Bool :=
  path.toList.head? == some '/'

/-- `Path::file_name`. -/
def fileName (path : String) : Option String :=
  match (parts path).getLast? with
  | some part => if part = dots then none else some (String.ofList part)
  | none => none

/-- `std::path::Component`. -/
inductive Component
  | rootDir
  | curDir
  | parentDir
  | normal (name : String)
  deriving DecidableEq

/-- The component that only stands at the front. -/
def front (path : String) : List Component :=
  if isAbsolute path then
    [.rootDir]
  else if (pieces '/' path.toList).head? = some ['.'] then
    [.curDir]
  else
    []

/-- `Path::components`. -/
def components (path : String) : List Component :=
  front path ++ (parts path).map fun part =>
    if part = dots then .parentDir else .normal (String.ofList part)

/-- `Path::join`. -/
def join (base name : String) : String :=
  if isAbsolute name then
    name
  else if base.toList = [] ∨ base.toList.getLast? = some '/' then
    base ++ name
  else
    base ++ "/" ++ name

/-- The path ends in its last part, with nothing behind it. -/
def isBare (path : String) : Bool :=
  (pieces '/' path.toList).getLast? == (parts path).getLast?

variable {Name : Type} {encode : String → Name}

/-- Where a part leads from a folder. -/
def turn
    (encode : String → Name)
    (folder : List Name)
    (part : List Char) : List Name :=
  if part = dots then
    folder.dropLast
  else
    folder ++ [encode (String.ofList part)]

/-- Where parts lead from a folder. -/
def walk
    (encode : String → Name)
    (folder : List Name)
    (parts : List (List Char)) : List Name :=
  parts.foldl (turn encode) folder

theorem isPlain_iff
    {name : String} :
    isPlain name = true ↔
      name.toList ≠ [] ∧ name.toList ≠ ['.'] ∧ name.toList ≠ dots ∧
        '/' ∉ name.toList :=
  decide_eq_true_iff

/-- A plain name is its only part. -/
theorem parts_of_isPlain
    {name : String}
    (plain : isPlain name = true) :
    parts name = [name.toList] := by
  obtain ⟨solid, notDot, _, single⟩ := isPlain_iff.mp plain
  rw [parts, pieces_of_notMem single, List.filter_cons_of_pos]
  · rfl
  · exact decide_eq_true ⟨solid, notDot⟩

/-- A plain name is its own file name. -/
theorem fileName_of_isPlain
    {name : String}
    (plain : isPlain name = true) :
    fileName name = some name := by
  have notDots := (isPlain_iff.mp plain).2.2.1
  rw [fileName, parts_of_isPlain plain]
  change (if name.toList = dots then none else _) = _
  rw [if_neg notDots]
  exact congrArg some String.ofList_toList

/-- File names are plain. -/
theorem isPlain_of_fileName
    {path name : String}
    (named : fileName path = some name) :
    isPlain name = true := by
  unfold fileName at named
  split at named
  case h_2 => cases named
  case h_1 part last =>
      split at named
      case isTrue => cases named
      case isFalse notDots =>
          cases named
          obtain ⟨member, goes⟩ :=
            List.mem_filter.mp (List.mem_of_getLast? last)
          obtain ⟨solid, notDot⟩ := of_decide_eq_true goes
          rw [isPlain_iff, String.toList_ofList]
          exact ⟨solid, notDot, notDots, notMem_of_mem_pieces member⟩

theorem isAbsolute_of_isPlain
    {name : String}
    (plain : isPlain name = true) :
    isAbsolute name = false := by
  have single := (isPlain_iff.mp plain).2.2.2
  apply beq_eq_false_iff_ne.mpr
  intro absolute
  exact single (List.mem_of_head? absolute)

/-- The parts of a joined path come behind those it is joined to. -/
theorem parts_join
    {name : String}
    (relative : isAbsolute name = false)
    (base : String) :
    parts (join base name) = parts base ++ parts name := by
  have slashed (before : String) : parts (before ++ "/" ++ name) =
      parts before ++ parts name := by
    have text : (before ++ "/" ++ name).toList =
        before.toList ++ '/' :: name.toList := by
      simp
    rw [parts, text, pieces_append, List.filter_append]
    rfl
  unfold join
  rw [if_neg (by rw [relative]; exact Bool.false_ne_true)]
  split
  case isFalse => exact slashed base
  case isTrue ends =>
      rcases ends with empty | last
      · have none : base = "" := String.toList_injective empty
        subst none
        rw [String.empty_append]
        rfl
      · obtain ⟨before, split⟩ := List.getLast?_eq_some_iff.mp last
        have cut : base = String.ofList before ++ "/" := by
          apply String.toList_injective
          rw [String.toList_append, String.toList_ofList, split]
          rfl
        have bare : parts base = parts (String.ofList before) := by
          rw [parts, split, parts, String.toList_ofList]
          rw [pieces_append, List.filter_append]
          exact List.append_nil _
        rw [bare, cut]
        exact slashed _

/-- A path that a relative one is joined to stays absolute, or not. -/
theorem isAbsolute_join
    {name : String}
    (relative : isAbsolute name = false)
    (base : String) :
    isAbsolute (join base name) = isAbsolute base := by
  unfold join
  rw [if_neg (by rw [relative]; exact Bool.false_ne_true)]
  by_cases empty : base.toList = []
  · have none : base = "" := String.toList_injective empty
    subst none
    rw [if_pos (.inl empty), String.empty_append, relative]
    rfl
  · obtain ⟨head, later, text⟩ := List.exists_cons_of_ne_nil empty
    split
    case isTrue => simp [isAbsolute, text]
    case isFalse => simp [isAbsolute, text]

/-- A joined plain name is the file name. -/
theorem fileName_join
    {name : String}
    (plain : isPlain name = true)
    (base : String) :
    fileName (join base name) = some name := by
  have notDots := (isPlain_iff.mp plain).2.2.1
  rw [fileName, parts_join (isAbsolute_of_isPlain plain),
    parts_of_isPlain plain, List.getLast?_concat]
  change (if name.toList = dots then none else _) = _
  rw [if_neg notDots]
  exact congrArg some String.ofList_toList

/-- Parts that are no dots lead down. -/
theorem walk_of_forall_ne_dots
    {parts : List (List Char)}
    (down : ∀ part ∈ parts, part ≠ dots)
    (folder : List Name) :
    walk encode folder parts =
      folder ++ parts.map fun part => encode (String.ofList part) := by
  induction parts generalizing folder with
  | nil => simp [walk]
  | cons part parts inductionHypothesis =>
      have head : turn encode folder part =
          folder ++ [encode (String.ofList part)] :=
        if_neg (down part List.mem_cons_self)
      change walk encode (turn encode folder part) parts = _
      rw [head, inductionHypothesis
        (fun other member => down other (List.mem_cons_of_mem _ member))]
      simp

end TextPath
end Foundation
end Hearthdeck
