import Hearthdeck.Foundation.FileNames
import Hearthdeck.Foundation.Pieces

/-!
# Unix paths

A path is a list of bytes.  What it names are its components: empty pieces and
dots among them do not count, except a dot at the front of a relative path.
Two paths are the same when their components are.
-/

namespace Hearthdeck
namespace Foundation

/-- The bytes of a path or a name in one. -/
abbrev Bytes := List UInt8

/-- The bytes of a text of ASCII characters. -/
def ascii (text : String) : Bytes :=
  text.toList.map fun character => character.toNat.toUInt8

theorem ascii_append
    (left right : String) :
    ascii (left ++ right) = ascii left ++ ascii right := by
  unfold ascii
  rw [String.toList_append, List.map_append]

namespace UnixPath

/-- What stands between the components of a path. -/
def slash : UInt8 := 0x2F

/-- What stands before an extension. -/
def dot : UInt8 := 0x2E

/-- `std::path::Component`. -/
inductive Component
  | rootDir
  | curDir
  | parentDir
  | normal (name : Bytes)
  deriving DecidableEq

/-- The component of a piece behind the first slash. -/
def component (piece : Bytes) : Option Component :=
  if piece = [] ∨ piece = [dot] then
    none
  else if piece = [dot, dot] then
    some .parentDir
  else
    some (.normal piece)

/-- The component that only stands at the front. -/
def front (path : Bytes) : List Component :=
  if path.head? = some slash then
    [.rootDir]
  else if (pieces slash path).head? = some [dot] then
    [.curDir]
  else
    []

/-- `Path::components`. -/
def components (path : Bytes) : List Component :=
  front path ++ (pieces slash path).filterMap component

/-- `Path::is_absolute`. -/
def isAbsolute (path : Bytes) : Bool :=
  path.head? == some slash

/-- `Path::join`. -/
def join (base name : Bytes) : Bytes :=
  if isAbsolute name then
    name
  else if base = [] ∨ base.getLast? = some slash then
    base ++ name
  else
    base ++ slash :: name

/-- `Path::starts_with`. -/
def startsWith (path base : Bytes) : Bool :=
  (components base).isPrefixOf (components path)

/-- `Path::file_name`. -/
def fileName (path : Bytes) : Option Bytes :=
  match (components path).getLast? with
  | some (.normal name) => some name
  | _ => none

/-- `Path::file_stem`. -/
def fileStem (path : Bytes) : Option Bytes :=
  (fileName path).map (FileName.stem dot)

/-- `Path::extension`. -/
def extension (path : Bytes) : Option Bytes :=
  (fileName path).bind (FileName.extension dot)

/-- A name that is one component, whatever it is joined to. -/
structure Plain (name : Bytes) : Prop where
  solid : name ≠ []
  single : slash ∉ name
  notDot : name ≠ [dot]
  notDots : name ≠ [dot, dot]

instance (name : Bytes) : Decidable (Plain name) :=
  decidable_of_iff
    (name ≠ [] ∧ slash ∉ name ∧ name ≠ [dot] ∧ name ≠ [dot, dot])
    ⟨fun all => ⟨all.1, all.2.1, all.2.2.1, all.2.2.2⟩,
      fun plain => ⟨plain.1, plain.2, plain.3, plain.4⟩⟩

theorem component_of_plain
    {name : Bytes}
    (plain : Plain name) :
    component name = some (.normal name) := by
  unfold component
  rw [if_neg (not_or.mpr ⟨plain.solid, plain.notDot⟩),
    if_neg plain.notDots]

/-- A normal component is a plain name. -/
theorem plain_of_component
    {piece name : Bytes}
    (single : slash ∉ piece)
    (named : component piece = some (.normal name)) :
    piece = name ∧ Plain name := by
  unfold component at named
  split at named
  case isTrue nothing => cases named
  case isFalse something =>
      split at named
      case isTrue dots => cases named
      case isFalse notDots =>
          cases named
          exact ⟨rfl, fun empty => something (.inl empty), single,
            fun isDot => something (.inr isDot), notDots⟩

/-- Names without a slash that are not empty differ in their components. -/
theorem component_injective
    {left right : Bytes}
    (solidLeft : left ≠ [])
    (solidRight : right ≠ [])
    (same : component left = component right) :
    left = right := by
  unfold component at same
  split at same
  case isTrue leftNone =>
      split at same
      case isTrue rightNone =>
          exact (leftNone.resolve_left solidLeft).trans
            (rightNone.resolve_left solidRight).symm
      case isFalse other => split at same <;> cases same
  case isFalse leftSome =>
      split at same
      case isTrue leftDots =>
          split at same
          case isTrue rightNone => cases same
          case isFalse other =>
              split at same
              case isTrue rightDots => exact leftDots.trans rightDots.symm
              case isFalse plain => cases same
      case isFalse leftPlain =>
          split at same
          case isTrue rightNone => cases same
          case isFalse other =>
              split at same
              case isTrue rightDots => cases same
              case isFalse plain => cases same; rfl

private theorem filterMap_single
    (select : Bytes → Option Component)
    (piece : Bytes) :
    [piece].filterMap select = (select piece).toList := by
  rw [List.filterMap_cons]
  cases select piece with
  | none => rfl
  | some chosen => rfl

/-- The pieces of a path that a name is joined to come first. -/
theorem components_slash
    {base : Bytes}
    (solid : base ≠ [])
    {name : Bytes}
    (single : slash ∉ name) :
    components (base ++ slash :: name) =
      components base ++ (component name).toList := by
  have heads : (base ++ slash :: name).head? = base.head? := by
    cases base with
    | nil => exact absurd rfl solid
    | cons head later => rfl
  have firsts : (pieces slash base ++ pieces slash name).head? =
      (pieces slash base).head? := by
    cases found : pieces slash base with
    | nil => exact absurd found (pieces_ne_nil slash base)
    | cons first rest => rfl
  unfold components front
  rw [heads, pieces_append, firsts, List.filterMap_append,
    pieces_of_notMem single, List.append_assoc, filterMap_single]

theorem isAbsolute_of_single
    {name : Bytes}
    (single : slash ∉ name) :
    isAbsolute name = false := by
  cases name with
  | nil => rfl
  | cons head later =>
      apply beq_eq_false_iff_ne.mpr
      intro same
      exact single (Option.some.inj same ▸ List.mem_cons_self)

/-- A name that is joined adds its component. -/
theorem components_join
    {name : Bytes}
    (single : slash ∉ name)
    {base : Bytes}
    (based : base ≠ [] ∨ name ≠ [dot]) :
    components (join base name) =
      components base ++ (component name).toList := by
  have relative := isAbsolute_of_single single
  unfold join
  rw [if_neg (by rw [relative]; exact Bool.false_ne_true)]
  split
  case isFalse apart =>
      exact components_slash (fun empty => apart (.inl empty)) single
  case isTrue together =>
      by_cases empty : base = []
      · subst empty
        have notDot := based.resolve_left (fun solid => solid rfl)
        have heads : name.head? ≠ some slash := by
          intro absolute
          unfold isAbsolute at relative
          rw [absolute] at relative
          cases relative
        have alone : components [] = [] := by decide
        rw [List.nil_append, alone, List.nil_append, components, front,
          if_neg heads, pieces_of_notMem single, List.head?_cons,
          if_neg (fun same => notDot (Option.some.inj same)),
          List.nil_append, filterMap_single]
      · have ends := together.resolve_left empty
        obtain ⟨before, rfl⟩ :=
          List.getLast?_eq_some_iff.mp ends
        have bare : components (before ++ [slash]) =
            components (before ++ slash :: []) := rfl
        rw [bare, List.append_assoc, List.singleton_append]
        cases before with
        | nil =>
            have root : components ([] ++ [slash]) = [.rootDir] := by decide
            rw [root, List.nil_append, components, front, List.head?_cons,
              if_pos rfl, pieces, if_pos rfl, pieces_of_notMem single,
              List.filterMap_cons_none (by rfl),
              filterMap_single]
        | cons head later =>
            rw [components_slash (List.cons_ne_nil _ _) single,
              components_slash (List.cons_ne_nil _ _) List.not_mem_nil]
            have nothing : component [] = none := rfl
            rw [nothing, Option.toList_none, List.append_nil]

/-- A joined path ends like what is joined to it. -/
theorem join_ends
    (base name : Bytes) :
    ∃ before, join base name = before ++ name := by
  unfold join
  split
  · exact ⟨[], rfl⟩
  · split
    · exact ⟨base, rfl⟩
    · exact ⟨base ++ [slash], by simp⟩

theorem mem_join
    {base name : Bytes}
    {byte : UInt8}
    (member : byte ∈ join base name) :
    byte ∈ base ∨ byte = slash ∨ byte ∈ name := by
  unfold join at member
  split at member
  · exact .inr (.inr member)
  · split at member
    · exact (List.mem_append.mp member).imp_right .inr
    · exact (List.mem_append.mp member).imp_right List.mem_cons.mp

/-- A name stands behind a slash, where the folder does not end with one. -/
theorem join_folder
    {folder name : Bytes}
    (ends : ∃ last, folder.getLast? = some last ∧ last ≠ slash)
    (single : slash ∉ name)
    (base : Bytes) :
    join (join base folder) name = join base folder ++ slash :: name := by
  obtain ⟨last, isLast, notSlash⟩ := ends
  obtain ⟨before, whole⟩ := join_ends base folder
  have lasts : (join base folder).getLast? = some last := by
    rw [whole, List.getLast?_append, isLast]
    rfl
  have apart : ¬ (join base folder = [] ∨
      (join base folder).getLast? = some slash) := by
    rintro (empty | slashed)
    · rw [empty] at lasts
      cases lasts
    · rw [slashed] at lasts
      exact notSlash (Option.some.inj lasts).symm
  rw [join, isAbsolute_of_single single, if_neg Bool.false_ne_true,
    if_neg apart]

/-- A joined path with a plain name is a child. -/
theorem components_join_plain
    {name : Bytes}
    (plain : Plain name)
    (base : Bytes) :
    components (join base name) = components base ++ [.normal name] := by
  rw [components_join plain.single (.inr plain.notDot),
    component_of_plain plain]
  rfl

/-- The file name of a path is a plain name. -/
theorem plain_of_fileName
    {path name : Bytes}
    (named : fileName path = some name) :
    Plain name := by
  unfold fileName at named
  split at named
  case h_2 => cases named
  case h_1 last found =>
      cases named
      have member := List.mem_of_getLast? found
      unfold components at member
      rcases List.mem_append.mp member with inFront | inside
      · unfold front at inFront
        split at inFront
        · cases List.mem_singleton.mp inFront
        · split at inFront
          · cases List.mem_singleton.mp inFront
          · cases inFront
      · obtain ⟨piece, among, isName⟩ := List.mem_filterMap.mp inside
        exact (plain_of_component (notMem_of_mem_pieces among) isName).2

/-- The stem of a file name has no slash and is not empty. -/
theorem stem_of_fileStem
    {path stem : Bytes}
    (stemmed : fileStem path = some stem) :
    stem ≠ [] ∧ slash ∉ stem := by
  obtain ⟨name, named, rfl⟩ := Option.map_eq_some_iff.mp stemmed
  have plain := plain_of_fileName named
  refine ⟨FileName.stem_ne_nil plain.solid dot, ?_⟩
  intro inside
  rcases FileName.eq_stem_or dot name with whole | ⟨after, _, split⟩
  · rw [← whole] at inside
    exact plain.single inside
  · apply plain.single
    rw [split]
    exact List.mem_append_left _ inside

end UnixPath
end Foundation
end Hearthdeck
