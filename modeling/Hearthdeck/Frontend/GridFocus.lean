import Hearthdeck.Foundation.Walks
import Hearthdeck.Frontend.App
import Mathlib.Data.Nat.Dist

/-!
# The cursor of the grid

The tiles of the grid are laid out in rows of equally many columns, the last
row as long as it gets.  The cursor is on a tile and remembers the column it
came down, which a short last row does not make it forget.

The number of a tile is the number of an entry of a list in memory, and so is
the number of a tile one row further down, short of one row; neither overflows.

The shell's own step is one of the grid unless a drawer with facets is open
(`step_eq_tile_iff`), and a layout that keeps its tiles keeps the cursor
(`clamp_of_inGrid`).
-/

namespace Hearthdeck
namespace Frontend
namespace Grid

open Foundation

/-- `step_tile`. -/
def stepTile
    (tile column : Nat)
    (direction : Direction)
    (tiles columns : Nat) : Option (Nat × Nat) :=
  if tiles = 0 then
    none
  else
    let columns := max columns 1
    let last := tiles - 1
    let tile := min tile last
    let column := min column (columns - 1)
    let row := tile / columns
    let rows := (tiles + columns - 1) / columns
    let inColumn := tile % columns
    match direction with
    | .left =>
        if 0 < inColumn then some (tile - 1, inColumn - 1) else none
    | .right =>
        if inColumn + 1 < columns ∧ tile < last then
          some (tile + 1, inColumn + 1)
        else
          none
    | .up =>
        if 0 < row then
          some (min ((row - 1) * columns + column) (row * columns - 1), column)
        else
          none
    | .down =>
        if row + 1 < rows then
          some (min ((row + 1) * columns + column) last, column)
        else
          none

/-- What the library has on screen, with the columns of its grid. -/
structure GridLayout extends Layout where
  columns : Nat

/-- `Outcome`. -/
inductive Outcome
  | tile (tile column : Nat)
  | filterRow (row : Nat)
  | filterValue (row : Nat) (delta : Int)
  | stayed
  deriving DecidableEq, Repr

/-- `step`. -/
def step
    (cursors : Cursors)
    (direction : Direction)
    (layout : GridLayout) : Outcome :=
  if layout.drawerOpen ∧ 0 < layout.facets then
    let row := min cursors.filterRow (layout.facets - 1)
    match direction with
    | .up => .filterRow ((row + layout.facets - 1) % layout.facets)
    | .down => .filterRow ((row + 1) % layout.facets)
    | .left => .filterValue row (-1)
    | .right => .filterValue row 1
  else
    match stepTile cursors.tile cursors.column direction layout.tiles
        layout.columns with
    | some (tile, column) => .tile tile column
    | none => .stayed

/-- The pad on a grid, from its first tile on; a step that is refused leaves it
where it is. -/
def walk (tiles columns : Nat) : Machine (Nat × Nat) Direction Empty where
  start := (0, 0)
  step here direction :=
    ((stepTile here.1 here.2 direction tiles columns).getD here, [])

/-! ## Rows and columns -/

variable {tiles columns row tile : Nat} {here next : Nat × Nat}

/-- How many columns the grid is laid out in. -/
def width (columns : Nat) : Nat := max columns 1

/-- How many rows its tiles take. -/
def height (tiles columns : Nat) : Nat :=
  (tiles + width columns - 1) / width columns

theorem width_pos : 0 < width columns :=
  Nat.lt_of_lt_of_le Nat.zero_lt_one (Nat.le_max_right columns 1)

theorem lt_height_iff
    (some : 0 < tiles) :
    row < height tiles columns ↔ row * width columns < tiles := by
  have positive := @width_pos columns
  rw [height, Nat.lt_iff_add_one_le, Nat.le_div_iff_mul_le positive,
    Nat.succ_mul]
  omega

/-- The row of a tile, from where the row starts. -/
theorem row_eq
    (starts : row * width columns ≤ tile)
    (ends : tile < row * width columns + width columns) :
    tile / width columns = row := by
  refine Nat.div_eq_of_lt_le starts ?_
  rw [Nat.succ_mul]
  exact ends

theorem row_add_column (tile columns : Nat) :
    tile / width columns * width columns + tile % width columns = tile :=
  Nat.div_add_mod' tile (width columns)

/-- A cursor on a tile of the grid: the tile of its row in the column it
remembers, or the last tile of all where the row is too short. -/
structure InGrid (tiles columns : Nat) (here : Nat × Nat) : Prop where
  tile : here.1 < tiles
  column : here.2 < width columns
  eq_min : here.1 =
    min (here.1 / width columns * width columns + here.2) (tiles - 1)

theorem inGrid_start
    (some : 0 < tiles) :
    InGrid tiles columns (0, 0) :=
  ⟨some, width_pos, by simp⟩

/-- A cursor on the tile of a row in a column, as far as there is one. -/
theorem inGrid_of_row
    {column : Nat}
    (starts : row * width columns < tiles)
    (isColumn : column < width columns) :
    InGrid tiles columns
        (min (row * width columns + column) (tiles - 1), column) ∧
      min (row * width columns + column) (tiles - 1) / width columns = row := by
  have isRow : min (row * width columns + column) (tiles - 1) /
      width columns = row :=
    row_eq (by omega) (by omega)
  exact ⟨⟨by dsimp only; omega, isColumn, by dsimp only; rw [isRow]⟩, isRow⟩

/-! ## What a step does -/

/-- The edge of the grid a direction leads off. -/
def AtEdge (tiles columns tile : Nat) : Direction → Prop
  | .left => tile % width columns = 0
  | .right => tile % width columns + 1 = width columns ∨ tile + 1 = tiles
  | .up => tile / width columns = 0
  | .down => tile / width columns + 1 = height tiles columns

/-- Where a step in a direction leads from a tile. -/
def Leads (columns : Nat) (here next : Nat × Nat) : Direction → Prop
  | .left => next.1 + 1 = here.1
  | .right => next.1 = here.1 + 1
  | .up => next.1 / width columns + 1 = here.1 / width columns
  | .down => next.1 / width columns = here.1 / width columns + 1

theorem stepTile_of_inGrid
    (inGrid : InGrid tiles columns here)
    (direction : Direction) :
    stepTile here.1 here.2 direction tiles columns =
      match direction with
      | .left =>
          if 0 < here.1 % width columns then
            some (here.1 - 1, here.1 % width columns - 1)
          else
            none
      | .right =>
          if here.1 % width columns + 1 < width columns ∧
              here.1 < tiles - 1 then
            some (here.1 + 1, here.1 % width columns + 1)
          else
            none
      | .up =>
          if 0 < here.1 / width columns then
            some (min ((here.1 / width columns - 1) * width columns + here.2)
              (here.1 / width columns * width columns - 1), here.2)
          else
            none
      | .down =>
          if here.1 / width columns + 1 < height tiles columns then
            some (min ((here.1 / width columns + 1) * width columns + here.2)
              (tiles - 1), here.2)
          else
            none := by
  have inside := inGrid.tile
  have isColumn := inGrid.column
  have sameTile : min here.1 (tiles - 1) = here.1 := by omega
  have sameColumn : min here.2 (max columns 1 - 1) = here.2 := by
    rw [width] at isColumn
    omega
  rw [stepTile, if_neg (by omega)]
  simp only [sameTile, sameColumn]
  rfl

/-- A step that is taken stays in the grid and leads where it should. -/
theorem InGrid.step
    (inGrid : InGrid tiles columns here)
    {direction : Direction}
    (taken : stepTile here.1 here.2 direction tiles columns = some next) :
    InGrid tiles columns next ∧ Leads columns here next direction ∧
      ((direction = .up ∨ direction = .down) → next.2 = here.2) := by
  have inside := inGrid.tile
  have isColumn := inGrid.column
  have split := row_add_column here.1 columns
  have small := Nat.mod_lt here.1 (@width_pos columns)
  rw [stepTile_of_inGrid inGrid] at taken
  cases direction with
  | left =>
      dsimp only at taken
      split at taken
      case isTrue behind =>
          cases taken
          have sameRow : (here.1 - 1) / width columns =
              here.1 / width columns :=
            row_eq (by omega) (by omega)
          refine ⟨⟨by dsimp only; omega, by dsimp only; omega, ?_⟩, ?_, by simp⟩
          · dsimp only
            rw [sameRow]
            omega
          · simp only [Leads]
            omega
      case isFalse => cases taken
  | right =>
      dsimp only at taken
      split at taken
      case isTrue ahead =>
          cases taken
          have sameRow : (here.1 + 1) / width columns =
              here.1 / width columns :=
            row_eq (by omega) (by omega)
          refine ⟨⟨by dsimp only; omega, by dsimp only; omega, ?_⟩, rfl,
            by simp⟩
          dsimp only
          rw [sameRow]
          omega
      case isFalse => cases taken
  | up =>
      dsimp only at taken
      split at taken
      case isTrue above =>
          obtain ⟨before, isRow⟩ := Nat.exists_eq_succ_of_ne_zero above.ne'
          rw [isRow, Nat.succ_sub_one, Nat.succ_mul] at taken
          rw [isRow, Nat.succ_mul] at split
          have isTile : min (before * width columns + here.2)
              (before * width columns + width columns - 1) =
              min (before * width columns + here.2) (tiles - 1) := by
            omega
          rw [isTile] at taken
          cases taken
          obtain ⟨stays, landsIn⟩ := @inGrid_of_row tiles columns before here.2
            (by omega) isColumn
          refine ⟨stays, ?_, fun _ => rfl⟩
          simp only [Leads]
          omega
      case isFalse => cases taken
  | down =>
      dsimp only at taken
      split at taken
      case isTrue below =>
          cases taken
          obtain ⟨stays, landsIn⟩ := inGrid_of_row
            ((lt_height_iff (by omega)).mp below) isColumn
          exact ⟨stays, landsIn, fun _ => rfl⟩
      case isFalse => cases taken

theorem ite_some_eq_none_iff
    {condition : Prop}
    [Decidable condition] :
    (if condition then some next else none) = none ↔ ¬ condition := by
  split <;> simp [*]

/-- A step is refused exactly at the edge it leads off. -/
theorem InGrid.refused_iff
    (inGrid : InGrid tiles columns here)
    (direction : Direction) :
    stepTile here.1 here.2 direction tiles columns = none ↔
      AtEdge tiles columns here.1 direction := by
  have inside := inGrid.tile
  have small := Nat.mod_lt here.1 (@width_pos columns)
  have isRow : here.1 / width columns < height tiles columns :=
    (lt_height_iff (by omega)).mpr
      (Nat.lt_of_le_of_lt (Nat.div_mul_le_self _ _) inside)
  rw [stepTile_of_inGrid inGrid]
  cases direction <;>
    · dsimp only [AtEdge]
      rw [ite_some_eq_none_iff]
      generalize here.1 / width columns = row at isRow ⊢
      omega

/-- A run keeps the cursor in the grid. -/
theorem InGrid.walk
    (inGrid : InGrid tiles columns here)
    (direction : Direction) :
    InGrid tiles columns
      (((Grid.walk tiles columns).step here direction).1) := by
  change InGrid tiles columns
    ((stepTile here.1 here.2 direction tiles columns).getD here)
  cases taken : stepTile here.1 here.2 direction tiles columns with
  | some next => exact (inGrid.step taken).1
  | none => exact inGrid

theorem inGrid_run
    (some : 0 < tiles)
    (directions : List Direction) :
    InGrid tiles columns ((walk tiles columns).run directions) :=
  (walk tiles columns).run_induction (InGrid tiles columns)
    (inGrid_start some) (fun _ direction inGrid => inGrid.walk direction)
    directions

/-! ## There and back -/

/-- Two cursors of one row that remember one column are on one tile. -/
theorem InGrid.ext
    (left : InGrid tiles columns here)
    (right : InGrid tiles columns next)
    (sameRow : here.1 / width columns = next.1 / width columns)
    (sameColumn : here.2 = next.2) :
    here = next := by
  have isLeft := left.eq_min
  have isRight := right.eq_min
  rw [sameRow, sameColumn] at isLeft
  exact Prod.ext (isLeft.trans isRight.symm) sameColumn

theorem step_walk
    {direction : Direction}
    (taken : stepTile here.1 here.2 direction tiles columns = some next) :
    ((walk tiles columns).step here direction).1 = next := by
  change (stepTile here.1 here.2 direction tiles columns).getD here = next
  rw [taken]
  rfl

theorem up_down
    (inGrid : InGrid tiles columns here)
    (accepted : stepTile here.1 here.2 .down tiles columns ≠ none) :
    ((walk tiles columns).step ((walk tiles columns).step here .down).1 .up).1 =
      here := by
  obtain ⟨there, taken⟩ := Option.ne_none_iff_exists'.mp accepted
  obtain ⟨inGridThere, isBelow, sameColumn⟩ := inGrid.step taken
  rw [step_walk taken]
  cases back : stepTile there.1 there.2 .up tiles columns with
  | none =>
      have onTop : there.1 / width columns = 0 :=
        (inGridThere.refused_iff .up).mp back
      exact absurd (isBelow.symm.trans onTop) (Nat.succ_ne_zero _)
  | some home =>
      obtain ⟨inGridHome, isAbove, keptColumn⟩ := inGridThere.step back
      rw [step_walk back]
      simp only [Leads] at isBelow isAbove
      exact inGridHome.ext inGrid (by omega)
        ((keptColumn (.inl rfl)).trans (sameColumn (.inr rfl)))

theorem down_up
    (inGrid : InGrid tiles columns here)
    (accepted : stepTile here.1 here.2 .up tiles columns ≠ none) :
    ((walk tiles columns).step ((walk tiles columns).step here .up).1 .down).1 =
      here := by
  obtain ⟨there, taken⟩ := Option.ne_none_iff_exists'.mp accepted
  obtain ⟨inGridThere, isAbove, sameColumn⟩ := inGrid.step taken
  rw [step_walk taken]
  cases back : stepTile there.1 there.2 .down tiles columns with
  | none =>
      have atBottom : there.1 / width columns + 1 = height tiles columns :=
        (inGridThere.refused_iff .down).mp back
      have isRow : here.1 / width columns < height tiles columns :=
        (lt_height_iff (Nat.zero_lt_of_lt inGrid.tile)).mpr
          (Nat.lt_of_le_of_lt (Nat.div_mul_le_self _ _) inGrid.tile)
      simp only [Leads] at isAbove
      omega
  | some home =>
      obtain ⟨inGridHome, isBelow, keptColumn⟩ := inGridThere.step back
      rw [step_walk back]
      simp only [Leads] at isBelow isAbove
      exact inGridHome.ext inGrid (by omega)
        ((keptColumn (.inr rfl)).trans (sameColumn (.inl rfl)))

/-! ## Every tile is reached -/

/-- A step off no edge comes nearer to what lies in its direction. -/
theorem exists_step
    (inGrid : InGrid tiles columns here)
    {direction : Direction}
    (inside : ¬ AtEdge tiles columns here.1 direction) :
    ∃ next, ((walk tiles columns).step here direction).1 = next ∧
      InGrid tiles columns next ∧ Leads columns here next direction := by
  rw [← inGrid.refused_iff direction] at inside
  obtain ⟨next, taken⟩ := Option.ne_none_iff_exists'.mp inside
  obtain ⟨inGridNext, leads, _⟩ := inGrid.step taken
  exact ⟨next, step_walk taken, inGridNext, leads⟩

theorem exists_reaches_row
    (inGrid : InGrid tiles columns here)
    (isTile : tile < tiles) :
    ∃ target, (walk tiles columns).Reaches here target ∧
      InGrid tiles columns target ∧
        target.1 / width columns = tile / width columns := by
  have isRow : tile / width columns < height tiles columns :=
    (lt_height_iff (by omega)).mpr
      (Nat.lt_of_le_of_lt (Nat.div_mul_le_self _ _) isTile)
  refine Machine.exists_reaches_of_nearer (InGrid tiles columns)
    (fun here => Nat.dist (here.1 / width columns) (tile / width columns))
    (fun here inGrid away => ?_) inGrid
  rcases Nat.lt_or_gt_of_ne away with above | below
  · obtain ⟨next, isNext, inGridNext, leads⟩ :=
      @exists_step _ _ _ inGrid .down (by simp only [AtEdge]; omega)
    refine ⟨.down, isNext ▸ inGridNext, ?_⟩
    rw [isNext]
    simp only [Leads] at leads
    simp only [Nat.dist]
    omega
  · obtain ⟨next, isNext, inGridNext, leads⟩ :=
      @exists_step _ _ _ inGrid .up (Nat.ne_zero_of_lt below)
    refine ⟨.up, isNext ▸ inGridNext, ?_⟩
    rw [isNext]
    simp only [Leads] at leads
    simp only [Nat.dist]
    omega

theorem exists_reaches_tile
    (inGrid : InGrid tiles columns here)
    (isTile : tile < tiles)
    (sameRow : here.1 / width columns = tile / width columns) :
    ∃ target, (walk tiles columns).Reaches here target ∧
      (InGrid tiles columns target ∧
        target.1 / width columns = tile / width columns) ∧
      target.1 = tile := by
  have splitTile := row_add_column tile columns
  have smallTile := Nat.mod_lt tile (@width_pos columns)
  refine Machine.exists_reaches_of_nearer
    (fun here => InGrid tiles columns here ∧
      here.1 / width columns = tile / width columns)
    (fun here => Nat.dist here.1 tile) (fun here kept away => ?_)
    ⟨inGrid, sameRow⟩
  obtain ⟨inGrid, sameRow⟩ := kept
  have split := row_add_column here.1 columns
  have small := Nat.mod_lt here.1 (@width_pos columns)
  rw [sameRow] at split
  rcases Nat.lt_or_gt_of_ne away with before | after
  · obtain ⟨next, isNext, inGridNext, leads⟩ :=
      @exists_step _ _ _ inGrid .right (by simp only [AtEdge]; omega)
    simp only [Leads] at leads
    refine ⟨.right, ?_⟩
    rw [isNext]
    refine ⟨⟨inGridNext, row_eq (by omega) (by omega)⟩, ?_⟩
    simp only [Nat.dist]
    omega
  · obtain ⟨next, isNext, inGridNext, leads⟩ :=
      @exists_step _ _ _ inGrid .left (by simp only [AtEdge]; omega)
    simp only [Leads] at leads
    refine ⟨.left, ?_⟩
    rw [isNext]
    refine ⟨⟨inGridNext, row_eq (by omega) (by omega)⟩, ?_⟩
    simp only [Nat.dist]
    omega

/-! ## The walk -/

/-- Every run from the first tile stays in the grid, on the tile of its row in
the column it remembers or on the last tile of all.  A step leads one row or
one tile further and is refused exactly at the edge it leads off; as many
steps up as steps down were taken lead back, and the other way round; and
every tile is reached.  A grid without tiles refuses every step. -/
theorem walk_stays_in_grid
    (tiles columns : Nat)
    (directions : List Direction) :
    let pad := walk tiles columns
    let here := pad.run directions
    (tiles = 0 → here = (0, 0) ∧ ∀ direction,
      stepTile here.1 here.2 direction tiles columns = none) ∧
    (0 < tiles →
      here.1 < tiles ∧
      here.1 =
        min (here.1 / width columns * width columns + here.2) (tiles - 1) ∧
      (∀ direction next,
        stepTile here.1 here.2 direction tiles columns = some next →
        Leads columns here next direction) ∧
      (∀ direction,
        stepTile here.1 here.2 direction tiles columns = none ↔
          AtEdge tiles columns here.1 direction) ∧
      (∀ count,
        (∀ done < count,
          let there := pad.runFrom here (List.replicate done .down)
          stepTile there.1 there.2 .down tiles columns ≠ none) →
        pad.runFrom here
          (List.replicate count .down ++ List.replicate count .up) = here) ∧
      (∀ count,
        (∀ done < count,
          let there := pad.runFrom here (List.replicate done .up)
          stepTile there.1 there.2 .up tiles columns ≠ none) →
        pad.runFrom here
          (List.replicate count .up ++ List.replicate count .down) = here) ∧
      ∀ tile < tiles, ∃ target, pad.Reaches here target ∧
        target.1 = tile) := by
  intro pad here
  refine ⟨fun none => ?_, fun some => ?_⟩
  · subst none
    have refuses : ∀ position : Nat × Nat, ∀ direction,
        stepTile position.1 position.2 direction 0 columns = none :=
      fun position direction => if_pos rfl
    refine ⟨(walk 0 columns).run_induction (· = (0, 0)) rfl
      (fun position direction isStart => ?_) directions, refuses here⟩
    change (stepTile position.1 position.2 direction 0 columns).getD position =
      (0, 0)
    rw [refuses]
    exact isStart
  · have inGrid : InGrid tiles columns here := inGrid_run some directions
    refine ⟨inGrid.tile, inGrid.eq_min,
      fun direction next taken => (inGrid.step taken).2.1,
      inGrid.refused_iff, fun count accepted => ?_, fun count accepted => ?_,
      fun tile isTile => ?_⟩
    · exact Machine.runFrom_there_and_back (InGrid tiles columns)
        (fun here => stepTile here.1 here.2 .down tiles columns ≠ none)
        (fun _ kept => kept.walk .down) (fun _ => up_down) count inGrid accepted
    · exact Machine.runFrom_there_and_back (InGrid tiles columns)
        (fun here => stepTile here.1 here.2 .up tiles columns ≠ none)
        (fun _ kept => kept.walk .up) (fun _ => down_up) count inGrid accepted
    · obtain ⟨onRow, toRow, inGridThere, sameRow⟩ :=
        exists_reaches_row inGrid isTile
      obtain ⟨target, toTile, _, isTarget⟩ :=
        exists_reaches_tile inGridThere isTile sameRow
      exact ⟨target, toRow.trans toTile, isTarget⟩

/-! ## The shell's step -/

/-- A step goes to the grid exactly when no drawer with facets is open. -/
theorem step_eq_tile_iff
    (cursors : Cursors)
    (direction : Direction)
    (layout : GridLayout)
    (tile column : Nat) :
    step cursors direction layout = .tile tile column ↔
      (layout.drawerOpen = false ∨ layout.facets = 0) ∧
        stepTile cursors.tile cursors.column direction layout.tiles
          layout.columns = some (tile, column) := by
  unfold step
  split
  case isTrue inDrawer =>
      obtain ⟨isOpen, some⟩ := inDrawer
      refine iff_of_false (by cases direction <;> exact nofun) ?_
      rintro ⟨closed | none, _⟩
      · simp [isOpen] at closed
      · omega
  case isFalse inGrid =>
      have free : layout.drawerOpen = false ∨ layout.facets = 0 := by
        by_contra owned
        rw [not_or, Bool.not_eq_false] at owned
        exact inGrid ⟨owned.1, by omega⟩
      split
      case h_1 there column' taken => simp [free, taken]
      case h_2 refused => simp [refused]

/-- A layout that keeps its tiles keeps the cursor of the grid. -/
theorem clamp_of_inGrid
    {cursors : Cursors}
    {layout : GridLayout}
    (inGrid : InGrid layout.tiles layout.columns
      (cursors.tile, cursors.column)) :
    (cursors.clamp layout.toLayout).tile = cursors.tile ∧
      (cursors.clamp layout.toLayout).column = cursors.column := by
  have inside := inGrid.tile
  refine ⟨?_, rfl⟩
  simp only [Cursors.clamp]
  omega

end Grid
end Frontend
end Hearthdeck
