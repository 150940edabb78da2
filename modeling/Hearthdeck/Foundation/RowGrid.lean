import Mathlib.Data.List.Nodup
import Mathlib.Logic.Relation

/-!
# Rows of controls

Controls stand in rows of different lengths.  A step sideways stays in the row,
and a step up or down goes to the same column of the next row or to the last
control of a shorter one.  A step off an edge leads nowhere.

Where no control stands twice and no row is empty, every control can be
reached from every other one.
-/

namespace Hearthdeck
namespace Foundation
namespace RowGrid

universe u

variable {Control : Type u}

/-- A step. -/
inductive Move
  | left
  | right
  | up
  | down
  deriving DecidableEq, Repr

/-- The control in a column of a row, or the last one of a shorter row. -/
def nearest (row : List Control) (column : Nat) : Option Control :=
  row[min column (row.length - 1)]?

/-- Where a step from a place leads. -/
def stepFrom
    (rows : List (List Control))
    (row : List Control)
    (rowIndex column : Nat) : Move → Option Control
  | .left => if column = 0 then none else row[column - 1]?
  | .right => row[column + 1]?
  | .up =>
      if rowIndex = 0 then none
      else rows[rowIndex - 1]?.bind fun row => nearest row column
  | .down => rows[rowIndex + 1]?.bind fun row => nearest row column

/-- The control stands in this place. -/
structure StandsAt
    (rows : List (List Control))
    (rowIndex column : Nat)
    (row : List Control)
    (control : Control) : Prop where
  atRow : rows[rowIndex]? = some row
  atColumn : row[column]? = some control

/-- No control stands twice, and no row is empty. -/
structure Sound (rows : List (List Control)) : Prop where
  once : rows.flatten.Nodup
  solid : ∀ row ∈ rows, row ≠ []

variable
  {rows : List (List Control)}
  {rowIndex column : Nat}
  {row : List Control}
  {control : Control}

theorem exists_standsAt
    (present : control ∈ rows.flatten) :
    ∃ rowIndex column row, StandsAt rows rowIndex column row control := by
  obtain ⟨row, inRows, inRow⟩ := List.mem_flatten.mp present
  obtain ⟨rowIndex, atRow⟩ := List.mem_iff_getElem?.mp inRows
  obtain ⟨column, atColumn⟩ := List.mem_iff_getElem?.mp inRow
  exact ⟨rowIndex, column, row, atRow, atColumn⟩

/-- A row has a first control. -/
theorem exists_first
    (sound : Sound rows)
    {index : Nat}
    (inside : index < rows.length) :
    ∃ row first, StandsAt rows index 0 row first := by
  have member : rows[index] ∈ rows := List.getElem_mem inside
  have solid := sound.solid _ member
  refine ⟨rows[index], rows[index].head solid,
    List.getElem?_eq_getElem inside, ?_⟩
  rw [← List.head?_eq_getElem?, List.head?_eq_some_head]

/-! ## Steps -/

variable [DecidableEq Control]

/-- Where a step from a control leads. -/
def step
    (rows : List (List Control))
    (control : Control)
    (move : Move) : Option Control :=
  (rows.findIdx? fun row => row.contains control).bind fun rowIndex =>
    rows[rowIndex]?.bind fun row =>
      (row.findIdx? fun other => other == control).bind fun column =>
        stepFrom rows row rowIndex column move

/-- Steps lead from one control to the other. -/
def Leads (rows : List (List Control)) : Control → Control → Prop :=
  Relation.ReflTransGen fun control target =>
    ∃ move, step rows control move = some target

/-- In a sound grid a step goes by the place of the control. -/
theorem step_eq
    (sound : Sound rows)
    (stands : StandsAt rows rowIndex column row control)
    (move : Move) :
    step rows control move = stepFrom rows row rowIndex column move := by
  obtain ⟨eachOnce, apart⟩ := List.nodup_flatten.mp sound.once
  obtain ⟨inRows, atRow⟩ := List.getElem?_eq_some_iff.mp stands.atRow
  obtain ⟨inRow, atColumn⟩ := List.getElem?_eq_some_iff.mp stands.atColumn
  have member : control ∈ row := List.mem_of_getElem? stands.atColumn
  have findsRow :
      (rows.findIdx? fun row => row.contains control) = some rowIndex := by
    rw [List.findIdx?_eq_some_iff_getElem]
    refine ⟨inRows, by simpa [atRow] using member, ?_⟩
    intro earlier before present
    have disjoint := List.pairwise_iff_getElem.mp apart earlier rowIndex
      (Nat.lt_trans before inRows) inRows before
    rw [atRow] at disjoint
    exact disjoint (by simpa using present) member
  have findsColumn :
      (row.findIdx? fun other => other == control) = some column := by
    rw [List.findIdx?_eq_some_iff_getElem]
    refine ⟨inRow, by simpa using atColumn, ?_⟩
    intro earlier before same
    have once := eachOnce row (List.mem_of_getElem? stands.atRow)
    have equal : row[earlier] = row[column] :=
      (eq_of_beq same).trans atColumn.symm
    exact absurd ((List.Nodup.getElem_inj_iff once).mp equal)
      (Nat.ne_of_lt before)
  rw [step, findsRow, Option.bind_some, stands.atRow, Option.bind_some,
    findsColumn, Option.bind_some]

/-! ## Every control is reached -/

section Reaching

variable (sound : Sound rows)

include sound

/-- One step leads to a place. -/
theorem leads_of_stepFrom
    (move : Move)
    (stands : StandsAt rows rowIndex column row control)
    {target : Control}
    (goes : stepFrom rows row rowIndex column move = some target) :
    Leads rows control target :=
  Relation.ReflTransGen.single
    ⟨move, (step_eq sound stands move).trans goes⟩

/-- Steps to the left lead to the first control of the row, and steps to the
right lead back. -/
theorem leads_along_row
    {first : Control}
    (starts : StandsAt rows rowIndex 0 row first)
    (stands : StandsAt rows rowIndex column row control) :
    Leads rows control first ∧ Leads rows first control := by
  induction column generalizing control with
  | zero =>
      obtain rfl := Option.some.inj (stands.atColumn.symm.trans starts.atColumn)
      exact ⟨Relation.ReflTransGen.refl, Relation.ReflTransGen.refl⟩
  | succ column inductionHypothesis =>
      have inside : column < row.length :=
        Nat.lt_of_succ_lt (List.getElem?_eq_some_iff.mp stands.atColumn).1
      have beside : StandsAt rows rowIndex column row row[column] :=
        ⟨stands.atRow, List.getElem?_eq_getElem inside⟩
      obtain ⟨back, forth⟩ := inductionHypothesis beside
      have left : Leads rows control row[column] :=
        leads_of_stepFrom sound .left stands beside.atColumn
      have right : Leads rows row[column] control :=
        leads_of_stepFrom sound .right beside stands.atColumn
      exact ⟨left.trans back, forth.trans right⟩

/-- Steps up lead from the first control of a row to that of the first row, and
steps down lead back. -/
theorem leads_along_edge
    {corner first : Control}
    {top row : List Control}
    (starts : StandsAt rows 0 0 top corner)
    (stands : StandsAt rows rowIndex 0 row first) :
    Leads rows first corner ∧ Leads rows corner first := by
  induction rowIndex generalizing first row with
  | zero =>
      obtain rfl := Option.some.inj (stands.atRow.symm.trans starts.atRow)
      obtain rfl := Option.some.inj (stands.atColumn.symm.trans starts.atColumn)
      exact ⟨Relation.ReflTransGen.refl, Relation.ReflTransGen.refl⟩
  | succ rowIndex inductionHypothesis =>
      have inside : rowIndex < rows.length :=
        Nat.lt_of_succ_lt (List.getElem?_eq_some_iff.mp stands.atRow).1
      obtain ⟨above, cornerAbove, standsAbove⟩ := exists_first sound inside
      obtain ⟨back, forth⟩ := inductionHypothesis standsAbove
      have up : Leads rows first cornerAbove := by
        refine leads_of_stepFrom sound .up stands ?_
        rw [stepFrom, if_neg (Nat.succ_ne_zero _), Nat.add_sub_cancel,
          standsAbove.atRow, Option.bind_some, nearest, Nat.zero_min]
        exact standsAbove.atColumn
      have down : Leads rows cornerAbove first := by
        refine leads_of_stepFrom sound .down standsAbove ?_
        rw [stepFrom, stands.atRow, Option.bind_some, nearest, Nat.zero_min]
        exact stands.atColumn
      exact ⟨up.trans back, forth.trans down⟩

/-- Every control can be reached from every other one. -/
theorem leads_of_mem
    {control target : Control}
    (starts : control ∈ rows.flatten)
    (ends : target ∈ rows.flatten) :
    Leads rows control target := by
  have some : 0 < rows.length := by
    rw [List.length_pos_iff]
    rintro rfl
    cases starts
  obtain ⟨top, corner, standsCorner⟩ := exists_first sound some
  have meet : ∀ control ∈ rows.flatten,
      Leads rows control corner ∧ Leads rows corner control := by
    intro control present
    obtain ⟨rowIndex, column, row, stands⟩ := exists_standsAt present
    have inside := (List.getElem?_eq_some_iff.mp stands.atRow).1
    obtain ⟨other, first, standsFirst⟩ := exists_first sound inside
    obtain rfl := Option.some.inj (standsFirst.atRow.symm.trans stands.atRow)
    obtain ⟨toFirst, fromFirst⟩ := leads_along_row sound standsFirst stands
    obtain ⟨toCorner, fromCorner⟩ :=
      leads_along_edge sound standsCorner standsFirst
    exact ⟨toFirst.trans toCorner, fromCorner.trans fromFirst⟩
  exact (meet _ starts).1.trans (meet _ ends).2

end Reaching

/-- A step leads to a control of the grid. -/
theorem mem_of_step
    {target : Control}
    {move : Move}
    (goes : step rows control move = some target) :
    target ∈ rows.flatten := by
  unfold step at goes
  obtain ⟨rowIndex, _, goes⟩ := Option.bind_eq_some_iff.mp goes
  obtain ⟨row, atRow, goes⟩ := Option.bind_eq_some_iff.mp goes
  obtain ⟨column, _, goes⟩ := Option.bind_eq_some_iff.mp goes
  have among : ∀ {other : List Control} {index : Nat},
      other ∈ rows → other[index]? = some target → target ∈ rows.flatten :=
    fun inRows atColumn =>
      List.mem_flatten.mpr ⟨_, inRows, List.mem_of_getElem? atColumn⟩
  have inRows := List.mem_of_getElem? atRow
  cases move with
  | left =>
      rw [stepFrom, Option.ite_none_left_eq_some] at goes
      exact among inRows goes.2
  | right => exact among inRows goes
  | up =>
      rw [stepFrom, Option.ite_none_left_eq_some] at goes
      obtain ⟨above, atAbove, goes⟩ := Option.bind_eq_some_iff.mp goes.2
      exact among (List.mem_of_getElem? atAbove) goes
  | down =>
      obtain ⟨below, atBelow, goes⟩ := Option.bind_eq_some_iff.mp goes
      exact among (List.mem_of_getElem? atBelow) goes

end RowGrid
end Foundation
end Hearthdeck
