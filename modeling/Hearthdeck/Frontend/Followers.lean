import Hearthdeck.Foundation.Following
import Mathlib.Algebra.BigOperators.Group.List.Basic
import Mathlib.Algebra.Order.Floor.Semiring
import Mathlib.Data.Rat.Floor
import Mathlib.Tactic.FieldSimp
import Mathlib.Tactic.Positivity

/-!
# The four followers

The grid of the library, the rails of the dashboard, its page and the strip of
tabs each follow what the pad is on.  Offsets and sizes are exact rational
numbers here, where the shell rounds them.

All four keep a target that fits in view.  A target that does not fit is
pinned to one edge by the page alone; the others flip between two offsets.
-/

namespace Hearthdeck
namespace Frontend

open Foundation.Following

/-- `GRID_OVERSCAN_ROWS`. -/
def gridOverscanRows : Nat := 2

/-- `f32::EPSILON`. -/
def epsilon : ℚ := 1 / 2 ^ 23

/-- `Metrics`. -/
structure Metrics where
  columns : Nat
  tileWidth : ℚ
  tileHeight : ℚ
  gap : ℚ
  rowHeight : ℚ

namespace Metrics

/-- `rows`. -/
def rows (metrics : Metrics) (entries : Nat) : Nat :=
  (entries + metrics.columns - 1) / metrics.columns

/-- `content_height`. -/
def contentHeight (metrics : Metrics) (entries : Nat) : ℚ :=
  metrics.rows entries * metrics.rowHeight

/-- `row_window`. -/
def rowWindow
    (metrics : Metrics)
    (entries : Nat)
    (offset viewportHeight : ℚ) : Nat × Nat :=
  let totalRows := metrics.rows entries
  if totalRows = 0 then
    (0, 0)
  else
    let rowHeight := max metrics.rowHeight 1
    let furthest := max (metrics.contentHeight entries - viewportHeight) 0
    let first := ⌊clamped furthest offset / rowHeight⌋₊
    let visible := ⌈max viewportHeight 0 / rowHeight⌉₊
    let stop := min (first + max visible 1 + gridOverscanRows) totalRows
    (min (first - gridOverscanRows) stop, stop)

/-- `scroll_to_row`. -/
def scrollToRow
    (metrics : Metrics)
    (entries row : Nat)
    (offset viewportHeight : ℚ) : Option ℚ :=
  let totalRows := metrics.rows entries
  let rowHeight := max metrics.rowHeight 1
  if totalRows ≤ 1 then
    none
  else
    let visible := max viewportHeight 0 / rowHeight
    if (totalRows : ℚ) ≤ visible then
      none
    else
      let top := max offset 0 / rowHeight
      if top ≤ row ∧ (row : ℚ) + 1 ≤ top + visible then
        none
      else
        let target :=
          if top + visible < (row : ℚ) + 1 then
            max ((row : ℚ) + 1 - visible) 0
          else
            row
        let furthest := max (metrics.contentHeight entries - viewportHeight) 0
        some (clamped furthest (target * rowHeight))

end Metrics

/-- `rail_scroll_target`. -/
def railScrollTarget
    (index count : Nat)
    (offset viewport card gap : ℚ) : Option ℚ :=
  let pitch := card + gap
  let start := index * pitch
  let stop := start + card
  let content := count * pitch - gap
  if start < offset then
    some (clamped (max (content - viewport) 0) start)
  else if offset + viewport < stop then
    some (clamped (max (content - viewport) 0) (stop - viewport))
  else
    none

/-- `tab_scroll_target`; the gap is the theme's. -/
def tabScrollTarget
    (gap : ℚ)
    (widths : List ℚ)
    (index : Nat)
    (offset viewport : ℚ) : Option ℚ := do
  let start := (widths.take index).sum + index * gap
  let stop := start + (← widths[index]?)
  let content := widths.sum + (widths.length - 1 : Nat) * gap
  if start < offset then
    some (clamped (max (content - viewport) 0) start)
  else if offset + viewport < stop then
    some (clamped (max (content - viewport) 0) (stop - viewport))
  else
    none

/-- `rail_top`. -/
def railTop (railHeights : List ℚ) (index : Nat) (gap : ℚ) : ℚ :=
  (railHeights.take index).sum + index * gap

/-- The offset `page_scroll_target` would follow a rail to. -/
def pageTarget (height top offset viewport : ℚ) : Option ℚ :=
  if viewport < height then
    some top
  else if top < offset ∨ offset + viewport < top then
    some top
  else if offset + viewport < top + height then
    some (top + height - viewport)
  else
    none

/-- `page_scroll_target`. -/
def pageScrollTarget
    (railHeights : List ℚ)
    (index : Nat)
    (gap offset viewport content : ℚ) : Option ℚ := do
  let height ← railHeights[index]?
  let target ← pageTarget height (railTop railHeights index gap) offset viewport
  let target := clamped (max (content - viewport) 0) target
  if epsilon < |target - offset| then some target else none

/-- `page_extent`, from the heights of the rails, the blank below the last and
the padding of the page. -/
def pageExtent (railHeights : List ℚ) (gap tail padding : ℚ) : ℚ :=
  railHeights.sum + railHeights.length * gap + tail + padding

/-! ## Stacks -/

variable {sizes : List ℚ} {gap size viewport content offset : ℚ} {index : Nat}

/-- An item of a stack starts where all before it and the gaps end, and ends
where the stack ends or before. -/
theorem stack_bounds
    (positive : ∀ size ∈ sizes, 0 < size)
    (nonneg : 0 ≤ gap)
    (isItem : sizes[index]? = some size) :
    0 ≤ (sizes.take index).sum + index * gap ∧
      (sizes.take index).sum + index * gap + size ≤
        sizes.sum + (sizes.length - 1 : Nat) * gap := by
  obtain ⟨inside, isHere⟩ := List.getElem?_eq_some_iff.mp isItem
  have before : 0 ≤ (sizes.take index).sum :=
    List.sum_nonneg fun item member =>
      (positive item (List.mem_of_mem_take member)).le
  have after : 0 ≤ (sizes.drop (index + 1)).sum :=
    List.sum_nonneg fun item member =>
      (positive item (List.mem_of_mem_drop member)).le
  have whole : sizes.sum =
      (sizes.take index).sum + size + (sizes.drop (index + 1)).sum := by
    rw [← isHere, ← List.sum_take_succ sizes index inside,
      List.sum_take_add_sum_drop]
  have gaps : (index : ℚ) * gap ≤ (sizes.length - 1 : Nat) * gap := by
    have atMost : index ≤ sizes.length - 1 := by omega
    exact mul_le_mul_of_nonneg_right (by exact_mod_cast atMost) nonneg
  have atLeast : 0 ≤ (index : ℚ) * gap := by positivity
  exact ⟨by linarith, by linarith⟩

/-- The rails of the page end before its content does. -/
theorem stack_le_pageExtent
    {tail padding : ℚ}
    (nonneg : 0 ≤ gap)
    (tailNonneg : 0 ≤ tail)
    (paddingNonneg : 0 ≤ padding) :
    sizes.sum + (sizes.length - 1 : Nat) * gap ≤
      pageExtent sizes gap tail padding := by
  have gaps : ((sizes.length - 1 : Nat) : ℚ) * gap ≤ sizes.length * gap :=
    mul_le_mul_of_nonneg_right (by exact_mod_cast Nat.sub_le _ _) nonneg
  rw [pageExtent]
  linarith

/-! ## The rails and the tabs -/

theorem railScrollTarget_eq_follow
    (count : Nat)
    (card : ℚ) :
    railScrollTarget index count offset viewport card gap =
      follow (count * (card + gap) - gap) viewport (index * (card + gap))
        (index * (card + gap) + card) offset := by
  rw [railScrollTarget, follow, pinned]
  split_ifs <;> rfl

theorem tabScrollTarget_eq_follow
    (isTab : sizes[index]? = some size) :
    tabScrollTarget gap sizes index offset viewport =
      follow (sizes.sum + (sizes.length - 1 : Nat) * gap) viewport
        ((sizes.take index).sum + index * gap)
        ((sizes.take index).sum + index * gap + size) offset := by
  rw [tabScrollTarget, isTab, follow, pinned]
  dsimp only [Option.bind_eq_bind, Option.bind_some]
  split_ifs <;> rfl

theorem rail_bounds
    {count : Nat}
    {card : ℚ}
    (positive : 0 < card)
    (nonneg : 0 ≤ gap)
    (isCard : index < count) :
    0 ≤ (index : ℚ) * (card + gap) ∧
      (index : ℚ) * (card + gap) + card ≤ count * (card + gap) - gap := by
  have atMost : (index : ℚ) + 1 ≤ count := by exact_mod_cast isCard
  have pitch : 0 ≤ card + gap := by linarith
  have scaled := mul_le_mul_of_nonneg_right atMost pitch
  exact ⟨by positivity, by linarith⟩

/-! ## The page -/

variable {height top : ℚ}

theorem pageTarget_eq_none_iff
    (fits : height ≤ viewport)
    (positive : 0 < height) :
    pageTarget height top offset viewport = none ↔
      InView 0 viewport top (top + height) offset := by
  rw [pageTarget, if_neg (not_lt.mpr fits)]
  split_ifs with outside below
  · refine iff_of_false nofun fun inView => ?_
    have first := inView.start
    have last := inView.stop
    rcases outside with above | beyond <;> linarith
  · refine iff_of_false nofun fun inView => ?_
    have last := inView.stop
    linarith
  · rw [not_or, not_lt, not_lt] at outside
    exact iff_of_true rfl ⟨by linarith, by linarith⟩

/-- Where the page is sent the rail is in view, if it fits. -/
theorem inView_of_pageTarget
    {target : ℚ}
    (fits : height ≤ viewport)
    (sent : pageTarget height top offset viewport = some target) :
    InView 0 viewport top (top + height) target := by
  rw [pageTarget, if_neg (not_lt.mpr fits)] at sent
  split_ifs at sent
  · cases sent
    exact inView_start (by linarith)
  · cases sent
    exact inView_stop (by linarith)

theorem pageScrollTarget_eq
    (isRail : sizes[index]? = some height) :
    pageScrollTarget sizes index gap offset viewport content =
      (pageTarget height (railTop sizes index gap) offset viewport).bind
        fun target =>
          if epsilon <
              |clamped (furthest content viewport) target - offset| then
            some (clamped (furthest content viewport) target)
          else
            none := by
  rw [pageScrollTarget, isRail]
  rfl

theorem pageScrollTarget_eq_some
    {target : ℚ}
    (isRail : sizes[index]? = some height)
    (moves : pageScrollTarget sizes index gap offset viewport content =
      some target) :
    ∃ sent, pageTarget height (railTop sizes index gap) offset viewport =
        some sent ∧
      target = clamped (furthest content viewport) sent := by
  rw [pageScrollTarget_eq isRail] at moves
  obtain ⟨sent, isSent, goes⟩ := Option.bind_eq_some_iff.mp moves
  split at goes
  case isTrue =>
      cases goes
      exact ⟨sent, isSent, rfl⟩
  case isFalse => cases goes

theorem epsilon_nonneg : 0 ≤ epsilon := by
  rw [epsilon]
  positivity

/-- The page rests where it would be sent to anyway. -/
theorem pageScrollTarget_eq_none
    (isRail : sizes[index]? = some height)
    (same : ∀ sent, pageTarget height (railTop sizes index gap) offset
      viewport = some sent →
      clamped (furthest content viewport) sent = offset) :
    pageScrollTarget sizes index gap offset viewport content = none := by
  rw [pageScrollTarget_eq isRail]
  cases isSent : pageTarget height (railTop sizes index gap) offset
      viewport with
  | none => rfl
  | some sent =>
      rw [Option.bind_some, same sent isSent, sub_self, abs_zero]
      exact if_neg (not_lt.mpr epsilon_nonneg)

/-- The page settles whatever fits. -/
theorem settles_pageScrollTarget
    (isRail : sizes[index]? = some height)
    (positive : 0 < height)
    (nonneg : 0 ≤ railTop sizes index gap) :
    Settles fun offset =>
      pageScrollTarget sizes index gap offset viewport content := by
  intro offset target moves
  obtain ⟨sent, isSent, rfl⟩ := pageScrollTarget_eq_some isRail moves
  refine pageScrollTarget_eq_none isRail fun again isAgain => ?_
  by_cases fits : height ≤ viewport
  · have inView := inView_of_pageTarget fits isSent
    by_cases atMost : sent ≤ furthest content viewport
    · -- the rail is in view where the page was sent, so it is not sent again
      have rests : InView 0 viewport (railTop sizes index gap)
          (railTop sizes index gap + height)
          (clamped (furthest content viewport) sent) := by
        have last := inView.stop
        exact inView.clamped (by linarith) (by linarith)
      rw [(pageTarget_eq_none_iff fits positive).mpr rests] at isAgain
      cases isAgain
    · -- the page is at its end, and is sent past it again
      have atEnd : clamped (furthest content viewport) sent =
          furthest content viewport :=
        clamped_of_ge furthest_nonneg (not_le.mp atMost).le
      rw [atEnd] at isAgain ⊢
      refine clamped_of_ge furthest_nonneg ?_
      have first := inView.start
      rw [pageTarget, if_neg (not_lt.mpr fits)] at isAgain
      split_ifs at isAgain
      · cases isAgain
        linarith
      · cases isAgain
        linarith
  · have isTop : ∀ offset, pageTarget height (railTop sizes index gap) offset
        viewport = some (railTop sizes index gap) :=
      fun offset => if_pos (not_le.mp fits)
    rw [isTop] at isSent isAgain
    cases isSent
    cases isAgain
    rfl

/-- The page keeps a rail that fits in view. -/
theorem keeps_pageScrollTarget
    (isRail : sizes[index]? = some height)
    (positive : 0 < height)
    (nonneg : 0 ≤ railTop sizes index gap)
    (ends : railTop sizes index gap + height ≤ content)
    (fits : height ≤ viewport) :
    Keeps
      (fun offset =>
        pageScrollTarget sizes index gap offset viewport content)
      epsilon content viewport (railTop sizes index gap)
      (railTop sizes index gap + height) := by
  refine ⟨fun offset target moves => ?_, fun offset target moves => ?_,
    settles_pageScrollTarget isRail positive nonneg, fun offset rests => ?_⟩
  · obtain ⟨sent, _, rfl⟩ := pageScrollTarget_eq_some isRail moves
    exact ⟨clamped_nonneg, clamped_le furthest_nonneg⟩
  · obtain ⟨sent, isSent, rfl⟩ := pageScrollTarget_eq_some isRail moves
    exact (inView_of_pageTarget fits isSent).clamped_furthest nonneg ends
  · rw [pageScrollTarget_eq isRail] at rests
    cases isSent : pageTarget height (railTop sizes index gap) offset
        viewport with
    | none =>
        have inView := (pageTarget_eq_none_iff fits positive).mp isSent
        exact (inView.clamped_furthest nonneg ends).mono epsilon_nonneg
    | some sent =>
        rw [isSent, Option.bind_some] at rests
        split at rests
        case isTrue => cases rests
        case isFalse near =>
            have inView := (inView_of_pageTarget fits isSent).clamped_furthest
              nonneg ends
            have nearer : |clamped (furthest content viewport) offset -
                clamped (furthest content viewport) sent| ≤ epsilon :=
              (abs_clamped_sub_le clamped_nonneg
                (clamped_le furthest_nonneg)).trans
                ((abs_sub_comm _ _).le.trans (not_lt.mp near))
            rw [abs_le] at nearer
            have first := inView.start
            have last := inView.stop
            exact ⟨by linarith, by linarith⟩

/-! ## The grid -/

namespace Metrics

variable {metrics : Metrics} {entries row : Nat} {viewportHeight : ℚ}

/-- The height a row is laid out at. -/
def pitch (metrics : Metrics) : ℚ := max metrics.rowHeight 1

theorem pitch_pos : 0 < metrics.pitch :=
  lt_of_lt_of_le one_pos (le_max_right _ _)

/-- A row, all rows or the row the pad is on is in view, so the grid rests. -/
theorem scrollToRow_eq_none_iff :
    metrics.scrollToRow entries row offset viewportHeight = none ↔
      metrics.rows entries ≤ 1 ∨
        metrics.rows entries * metrics.pitch ≤ max viewportHeight 0 ∨
        InView 0 (max viewportHeight 0) (row * metrics.pitch)
          ((row + 1) * metrics.pitch) (max offset 0) := by
  have positive := @pitch_pos metrics
  have isAll : (metrics.rows entries : ℚ) ≤
        max viewportHeight 0 / metrics.pitch ↔
      metrics.rows entries * metrics.pitch ≤ max viewportHeight 0 :=
    le_div_iff₀ positive
  have isInside : (max offset 0 / metrics.pitch ≤ row ∧
        (row : ℚ) + 1 ≤ max offset 0 / metrics.pitch +
          max viewportHeight 0 / metrics.pitch) ↔
      InView 0 (max viewportHeight 0) (row * metrics.pitch)
        ((row + 1) * metrics.pitch) (max offset 0) := by
    rw [← add_div, div_le_iff₀ positive, le_div_iff₀ positive]
    exact ⟨fun inside => ⟨by linarith [inside.1], by linarith [inside.2]⟩,
      fun inView => ⟨by linarith [inView.start], by linarith [inView.stop]⟩⟩
  rw [← isAll, ← isInside, scrollToRow]
  dsimp only
  split_ifs with few all inside
  · exact iff_of_true rfl (.inl few)
  · exact iff_of_true rfl (.inr (.inl all))
  · exact iff_of_true rfl (.inr (.inr inside))
  · refine iff_of_false nofun ?_
    rintro (isFew | isAll | inView)
    · exact few isFew
    · exact all isAll
    · exact inside inView

/-- Where the grid is sent: the bottom of the row to the bottom of the
viewport, or its top to the top. -/
theorem scrollToRow_eq_some
    {target : ℚ}
    (moves : metrics.scrollToRow entries row offset viewportHeight =
      some target) :
    ∃ sent,
      (sent = max ((row + 1) * metrics.pitch - max viewportHeight 0) 0 ∧
          max offset 0 + max viewportHeight 0 < (row + 1) * metrics.pitch ∨
        sent = row * metrics.pitch ∧
          (row + 1) * metrics.pitch ≤ max offset 0 + max viewportHeight 0) ∧
      target =
        clamped (furthest (metrics.contentHeight entries) viewportHeight)
          sent := by
  have positive := @pitch_pos metrics
  rw [scrollToRow] at moves
  dsimp only at moves
  split_ifs at moves with few all inside below
  · cases moves
    change max offset 0 / metrics.pitch + max viewportHeight 0 / metrics.pitch <
      _ at below
    rw [← add_div, div_lt_iff₀ positive] at below
    refine ⟨_, .inl ⟨rfl, below⟩, ?_⟩
    change clamped _ (max (_ - _ / metrics.pitch) 0 * metrics.pitch) = _
    rw [max_mul_of_nonneg _ _ positive.le, sub_mul, zero_mul,
      div_mul_cancel₀ _ positive.ne']
    rfl
  · cases moves
    change ¬ max offset 0 / metrics.pitch +
      max viewportHeight 0 / metrics.pitch < _ at below
    rw [← add_div, div_lt_iff₀ positive, not_lt] at below
    exact ⟨_, .inr ⟨rfl, below⟩, rfl⟩

/-- Where the grid is sent the row is in view, if it fits. -/
theorem inView_of_sent
    {sent : ℚ}
    (fits : metrics.pitch ≤ viewportHeight)
    (isSent :
      sent = max ((row + 1) * metrics.pitch - max viewportHeight 0) 0 ∨
        sent = row * metrics.pitch) :
    InView 0 viewportHeight (row * metrics.pitch) ((row + 1) * metrics.pitch)
      sent := by
  have positive := @pitch_pos metrics
  have starts : 0 ≤ (row : ℚ) * metrics.pitch := by positivity
  have size : ((row : ℚ) + 1) * metrics.pitch =
      row * metrics.pitch + metrics.pitch := by ring
  rw [max_eq_left (positive.le.trans fits)] at isSent
  rcases isSent with rfl | rfl
  · rcases le_total ((row + 1) * metrics.pitch - viewportHeight) 0 with
      above | below
    · rw [max_eq_right above]
      exact ⟨by linarith, by linarith⟩
    · rw [max_eq_left below]
      exact inView_stop (by linarith)
  · exact inView_start (by linarith)

/-- The grid settles exactly when it never moves, or a row fits and ends
before the furthest the grid scrolls. -/
theorem settles_scrollToRow_iff :
    Settles (fun offset =>
        metrics.scrollToRow entries row offset viewportHeight) ↔
      metrics.rows entries ≤ 1 ∨
        metrics.rows entries * metrics.pitch ≤ max viewportHeight 0 ∨
        metrics.pitch ≤ viewportHeight ∧
          (row + 1) * metrics.pitch ≤
            furthest (metrics.contentHeight entries) viewportHeight +
              viewportHeight := by
  have positive := @pitch_pos metrics
  have size : ((row : ℚ) + 1) * metrics.pitch =
      row * metrics.pitch + metrics.pitch := by ring
  have starts : 0 ≤ (row : ℚ) * metrics.pitch := by positivity
  constructor
  · intro settles
    by_contra moves
    rw [not_or, not_or, not_le, not_le] at moves
    obtain ⟨many, large, unfit⟩ := moves
    by_cases fits : metrics.pitch ≤ viewportHeight
    · -- at the end of the list the row is still not in view
      have ends := not_le.mp fun ends => unfit ⟨fits, ends⟩
      have isHeight : max viewportHeight 0 = viewportHeight :=
        max_eq_left (positive.le.trans fits)
      have isEnd : max (furthest (metrics.contentHeight entries)
          viewportHeight) 0 =
            furthest (metrics.contentHeight entries) viewportHeight :=
        max_eq_left furthest_nonneg
      cases moved : metrics.scrollToRow entries row
          (furthest (metrics.contentHeight entries) viewportHeight)
          viewportHeight with
      | none =>
          rcases scrollToRow_eq_none_iff.mp moved with few | all | inView
          · omega
          · linarith
          · have last := inView.stop
            rw [isHeight, isEnd] at last
            linarith
      | some target =>
          obtain ⟨sent, edge, rfl⟩ := scrollToRow_eq_some moved
          rw [isHeight, isEnd] at edge
          rcases edge with ⟨rfl, _⟩ | ⟨_, inside⟩
          · have past : (row + 1) * metrics.pitch - viewportHeight ≤
                max ((row + 1) * metrics.pitch - viewportHeight) 0 :=
              le_max_left _ _
            rw [clamped_of_ge furthest_nonneg (by linarith)] at moved
            have rests := settles _ _ moved
            dsimp only at rests
            rw [moved] at rests
            cases rests
          · linarith
    · refine not_settles_of_not_fits
        (fun offset rests => (?_ : (row + 1) * metrics.pitch -
          row * metrics.pitch ≤ max viewportHeight 0)) ?_ settles
      · rcases scrollToRow_eq_none_iff.mp rests with few | all | inView
        · omega
        · linarith
        · have first := inView.start
          have last := inView.stop
          linarith
      · rw [size, add_sub_cancel_left]
        exact max_lt (not_le.mp fits) positive
  · rintro (few | all | ⟨fits, ends⟩) offset target moves
    · exact scrollToRow_eq_none_iff.mpr (.inl few)
    · exact scrollToRow_eq_none_iff.mpr (.inr (.inl all))
    · obtain ⟨sent, edge, rfl⟩ := scrollToRow_eq_some moves
      have inView := inView_of_sent fits (edge.imp And.left And.left)
      refine scrollToRow_eq_none_iff.mpr (.inr (.inr ?_))
      rw [max_eq_left (positive.le.trans fits), max_eq_left clamped_nonneg]
      exact inView.clamped (by linarith) (by linarith)

theorem contentHeight_eq
    (tall : 1 ≤ metrics.rowHeight) :
    metrics.contentHeight entries = metrics.rows entries * metrics.pitch := by
  rw [contentHeight, pitch, max_eq_left tall]

/-- A row of the grid ends before the grid does. -/
theorem row_bounds
    (tall : 1 ≤ metrics.rowHeight)
    (isRow : row < metrics.rows entries) :
    0 ≤ (row : ℚ) * metrics.pitch ∧
      ((row : ℚ) + 1) * metrics.pitch ≤ metrics.contentHeight entries := by
  have positive := @pitch_pos metrics
  have atMost : (row : ℚ) + 1 ≤ metrics.rows entries := by
    exact_mod_cast isRow
  rw [contentHeight_eq tall]
  exact ⟨by positivity, mul_le_mul_of_nonneg_right atMost positive.le⟩

/-- The grid keeps a row that fits in view. -/
theorem keeps_scrollToRow
    (tall : 1 ≤ metrics.rowHeight)
    (isRow : row < metrics.rows entries)
    (fits : metrics.pitch ≤ viewportHeight) :
    Keeps
      (fun offset => metrics.scrollToRow entries row offset viewportHeight) 0
      (metrics.contentHeight entries) viewportHeight (row * metrics.pitch)
      ((row + 1) * metrics.pitch) := by
  have positive := @pitch_pos metrics
  have isHeight : max viewportHeight 0 = viewportHeight :=
    max_eq_left (positive.le.trans fits)
  obtain ⟨starts, ends⟩ := @row_bounds metrics entries row tall isRow
  have least := @content_le_furthest_add _ _ _
    (metrics.contentHeight entries) viewportHeight _
  refine ⟨fun offset target moves => ?_, fun offset target moves => ?_,
    settles_scrollToRow_iff.mpr (.inr (.inr ⟨fits, by linarith⟩)),
    fun offset rests => ?_⟩
  · obtain ⟨sent, _, rfl⟩ := scrollToRow_eq_some moves
    exact ⟨clamped_nonneg, clamped_le furthest_nonneg⟩
  · obtain ⟨sent, edge, rfl⟩ := scrollToRow_eq_some moves
    exact (inView_of_sent fits (edge.imp And.left And.left)).clamped_furthest
      starts ends
  · -- a grid without room to scroll is at its start
    have atStart : metrics.rows entries * metrics.pitch ≤ viewportHeight →
        InView 0 viewportHeight (row * metrics.pitch)
          ((row + 1) * metrics.pitch)
          (clamped (furthest (metrics.contentHeight entries) viewportHeight)
            offset) := by
      intro all
      have noRoom : furthest (metrics.contentHeight entries)
          viewportHeight = 0 := by
        rw [furthest, contentHeight_eq tall]
        exact max_eq_right (by linarith)
      have isStart : clamped 0 offset = 0 :=
        le_antisymm (clamped_le le_rfl) clamped_nonneg
      rw [contentHeight_eq tall] at ends
      rw [noRoom, isStart]
      exact ⟨by linarith, by linarith⟩
    rcases scrollToRow_eq_none_iff.mp rests with few | all | inView
    · have single : (metrics.rows entries : ℚ) ≤ 1 := by exact_mod_cast few
      have scaled := mul_le_mul_of_nonneg_right single positive.le
      exact atStart (by linarith)
    · exact atStart (isHeight ▸ all)
    · rw [isHeight] at inView
      have shown := inView.clamped_furthest starts ends
      rw [clamped_max] at shown
      exact shown

/-- A row that is in the viewport, or touches it, is built. -/
theorem mem_rowWindow
    (isRow : row < metrics.rows entries)
    (nonneg : 0 ≤ viewportHeight)
    (above : row * metrics.pitch ≤
      clamped (furthest (metrics.contentHeight entries) viewportHeight) offset +
        viewportHeight)
    (below : clamped (furthest (metrics.contentHeight entries) viewportHeight)
      offset ≤ (row + 1) * metrics.pitch) :
    (metrics.rowWindow entries offset viewportHeight).1 ≤ row ∧
      row < (metrics.rowWindow entries offset viewportHeight).2 := by
  have positive := @pitch_pos metrics
  rw [rowWindow]
  dsimp only
  rw [if_neg (by omega)]
  change min (⌊clamped (furthest _ _) offset / metrics.pitch⌋₊ - _) _ ≤ row ∧
    row < min (⌊clamped (furthest _ _) offset / metrics.pitch⌋₊ +
      max ⌈max viewportHeight 0 / metrics.pitch⌉₊ 1 + _) _
  generalize isOffset : clamped (furthest (metrics.contentHeight entries)
    viewportHeight) offset = here at above below ⊢
  have hereNonneg : 0 ≤ here := isOffset ▸ clamped_nonneg
  rw [max_eq_left nonneg]
  have first : ⌊here / metrics.pitch⌋₊ ≤ row + 1 := by
    refine Nat.floor_le_of_le ?_
    rw [div_le_iff₀ positive]
    exact_mod_cast below
  have last : row < ⌊here / metrics.pitch⌋₊ + 1 +
      ⌈viewportHeight / metrics.pitch⌉₊ := by
    have floor := Nat.lt_floor_add_one (here / metrics.pitch)
    have ceil := Nat.le_ceil (viewportHeight / metrics.pitch)
    have reached : (row : ℚ) ≤
        here / metrics.pitch + viewportHeight / metrics.pitch := by
      rw [← add_div, le_div_iff₀ positive]
      exact above
    have bounded : (row : ℚ) < ((⌊here / metrics.pitch⌋₊ + 1 +
        ⌈viewportHeight / metrics.pitch⌉₊ : Nat) : ℚ) := by
      push_cast
      linarith
    exact_mod_cast bounded
  rw [gridOverscanRows]
  exact ⟨by omega, by omega⟩

end Metrics

/-! ## All four -/

/-- Every follower keeps a target that fits in view: where it moves, it moves
to an offset the viewport can slide to, with the target in view, and rests
there; where it does not move the target is in view already, for the page but
for the last bit of a rounded number.  The grid builds the row it followed and
every row in the viewport.  That the rails end before the content of the page
does is so of its extent (`stack_le_pageExtent`). -/
theorem followers_keep_in_view :
    (∀ (metrics : Metrics) (entries row : Nat) (viewport : ℚ),
      1 ≤ metrics.rowHeight → row < metrics.rows entries →
      metrics.rowHeight ≤ viewport →
      Keeps (fun offset => metrics.scrollToRow entries row offset viewport) 0
          (metrics.contentHeight entries) viewport (row * metrics.rowHeight)
          ((row + 1) * metrics.rowHeight) ∧
        ∀ offset,
          let shown :=
            (metrics.scrollToRow entries row offset viewport).getD offset
          let window := metrics.rowWindow entries shown viewport
          let top :=
            clamped (furthest (metrics.contentHeight entries) viewport) shown
          (window.1 ≤ row ∧ row < window.2) ∧
            ∀ other < metrics.rows entries,
              other * metrics.rowHeight ≤ top + viewport →
              top ≤ (other + 1) * metrics.rowHeight →
              window.1 ≤ other ∧ other < window.2) ∧
    (∀ (index count : Nat) (viewport card gap : ℚ),
      0 < card → 0 ≤ gap → index < count → card ≤ viewport →
      Keeps
        (fun offset => railScrollTarget index count offset viewport card gap) 0
        (count * (card + gap) - gap) viewport (index * (card + gap))
        (index * (card + gap) + card)) ∧
    (∀ (gap : ℚ) (widths : List ℚ) (index : Nat) (width viewport : ℚ),
      (∀ width ∈ widths, 0 < width) → 0 ≤ gap → widths[index]? = some width →
      width ≤ viewport →
      Keeps (fun offset => tabScrollTarget gap widths index offset viewport) 0
        (widths.sum + (widths.length - 1 : Nat) * gap) viewport
        ((widths.take index).sum + index * gap)
        ((widths.take index).sum + index * gap + width)) ∧
    ∀ (heights : List ℚ) (index : Nat) (gap height viewport content : ℚ),
      (∀ height ∈ heights, 0 < height) → 0 ≤ gap →
      heights[index]? = some height →
      heights.sum + (heights.length - 1 : Nat) * gap ≤ content →
      height ≤ viewport →
      Keeps
        (fun offset =>
          pageScrollTarget heights index gap offset viewport content)
        epsilon content viewport (railTop heights index gap)
        (railTop heights index gap + height) := by
  refine ⟨fun metrics entries row viewport tall isRow fits => ?_,
    fun index count viewport card gap positive nonneg isCard fits => ?_,
    fun gap widths index width viewport positive nonneg isTab fits => ?_,
    fun heights index gap height viewport content positive nonneg isRail inside
      fits => ?_⟩
  · have isPitch : metrics.pitch = metrics.rowHeight := max_eq_left tall
    have isPositive := @Metrics.pitch_pos metrics
    rw [← isPitch] at fits ⊢
    have keeps := Metrics.keeps_scrollToRow tall isRow fits
    refine ⟨keeps, fun offset => ⟨?_, fun other isOther above below =>
      Metrics.mem_rowWindow isOther (isPositive.le.trans fits) above below⟩⟩
    have shown : InView 0 viewport (row * metrics.pitch)
        ((row + 1) * metrics.pitch)
        (clamped (furthest (metrics.contentHeight entries) viewport)
          ((metrics.scrollToRow entries row offset viewport).getD offset)) := by
      cases moves : metrics.scrollToRow entries row offset viewport with
      | none => exact keeps.stays offset moves
      | some target =>
          obtain ⟨nonneg, atMost⟩ := keeps.inRange offset target moves
          rw [Option.getD_some, clamped_of_mem nonneg atMost]
          exact keeps.inView offset target moves
    have first := shown.start
    have last := shown.stop
    exact Metrics.mem_rowWindow isRow (isPositive.le.trans fits) (by linarith)
      (by linarith)
  · obtain ⟨starts, stops⟩ := rail_bounds positive nonneg isCard
    simp only [railScrollTarget_eq_follow]
    exact keeps_follow starts stops (by linarith)
  · obtain ⟨starts, stops⟩ := stack_bounds positive nonneg isTab
    simp only [tabScrollTarget_eq_follow isTab]
    exact keeps_follow starts stops (by linarith)
  · obtain ⟨starts, stops⟩ := stack_bounds positive nonneg isRail
    exact keeps_pageScrollTarget isRail
      (positive height (List.mem_of_getElem? isRail)) starts
      (stops.trans inside) fits

/-- A grid of five columns, with rows of three hundred. -/
def fiveColumns : Metrics where
  columns := 5
  tileWidth := 180
  tileHeight := 280
  gap := 20
  rowHeight := 300

/-- The last of ten rows, cards, tabs and rails in a viewport of a thousand. -/
theorem followers_keep_in_view_last_card :
    (Keeps (fun offset => fiveColumns.scrollToRow 50 9 offset 1000) 0
        (fiveColumns.contentHeight 50) 1000
        ((9 : Nat) * fiveColumns.rowHeight)
        (((9 : Nat) + 1) * fiveColumns.rowHeight) ∧
      ∀ offset,
        let window := fiveColumns.rowWindow 50
          ((fiveColumns.scrollToRow 50 9 offset 1000).getD offset) 1000
        window.1 ≤ 9 ∧ 9 < window.2) ∧
    Keeps (fun offset => railScrollTarget 9 10 offset 1000 100 10) 0
      ((10 : Nat) * (100 + 10) - 10) 1000 ((9 : Nat) * (100 + 10))
      ((9 : Nat) * (100 + 10) + 100) ∧
    Keeps (fun offset =>
        tabScrollTarget 10 (List.replicate 10 100) 9 offset 1000) 0
      ((List.replicate 10 (100 : ℚ)).sum + (10 - 1 : Nat) * 10) 1000
      (((List.replicate 10 (100 : ℚ)).take 9).sum + (9 : Nat) * 10)
      (((List.replicate 10 (100 : ℚ)).take 9).sum + (9 : Nat) * 10 + 100) ∧
    Keeps (fun offset =>
        pageScrollTarget (List.replicate 10 400) 9 10 offset 1000
          (pageExtent (List.replicate 10 400) 10 50 50))
      epsilon (pageExtent (List.replicate 10 400) 10 50 50) 1000
      (railTop (List.replicate 10 400) 9 10)
      (railTop (List.replicate 10 400) 9 10 + 400) := by
  obtain ⟨grid, rail, tab, page⟩ := followers_keep_in_view
  have rows : 9 < fiveColumns.rows 50 := by decide
  have positive : ∀ {count : Nat} {size : ℚ}, 0 < size →
      ∀ other ∈ List.replicate count size, 0 < other := by
    intro count size positive other member
    rw [List.eq_of_mem_replicate member]
    exact positive
  obtain ⟨keeps, window⟩ := grid fiveColumns 50 9 1000
    (by norm_num [fiveColumns]) rows (by norm_num [fiveColumns])
  refine ⟨⟨keeps, fun offset => (window offset).1⟩, ?_, ?_, ?_⟩
  · exact rail 9 10 1000 100 10 (by norm_num) (by norm_num) (by norm_num)
      (by norm_num)
  · exact tab 10 (List.replicate 10 100) 9 100 1000 (positive (by norm_num))
      (by norm_num) rfl (by norm_num)
  · exact page (List.replicate 10 400) 9 10 400 1000 _
      (positive (by norm_num)) (by norm_num) rfl
      (stack_le_pageExtent (by norm_num) (by norm_num) (by norm_num))
      (by norm_num)

/-- Following settles for every target of the page, and of a rail or the tabs
exactly when the target fits.  The grid settles when it never moves, and else
exactly when a row fits and ends before the furthest the grid scrolls. -/
theorem followers_settle_iff
    (viewport gap : ℚ)
    (nonneg : 0 ≤ gap) :
    (∀ (metrics : Metrics) (entries row : Nat),
      Settles (fun offset => metrics.scrollToRow entries row offset viewport) ↔
        metrics.rows entries ≤ 1 ∨
          metrics.rows entries * max metrics.rowHeight 1 ≤ max viewport 0 ∨
          max metrics.rowHeight 1 ≤ viewport ∧
            (row + 1) * max metrics.rowHeight 1 ≤
              furthest (metrics.contentHeight entries) viewport + viewport) ∧
    (∀ (index count : Nat) (card : ℚ),
      0 < card → index < count →
      (Settles (fun offset =>
          railScrollTarget index count offset viewport card gap) ↔
        card ≤ viewport)) ∧
    (∀ (widths : List ℚ) (index : Nat) (width : ℚ),
      (∀ width ∈ widths, 0 < width) → widths[index]? = some width →
      (Settles (fun offset =>
          tabScrollTarget gap widths index offset viewport) ↔
        width ≤ viewport)) ∧
    ∀ (heights : List ℚ) (index : Nat) (content : ℚ),
      (∀ height ∈ heights, 0 < height) →
      Settles fun offset =>
        pageScrollTarget heights index gap offset viewport content := by
  refine ⟨fun metrics entries row => Metrics.settles_scrollToRow_iff,
    fun index count card positive isCard => ?_,
    fun widths index width positive isTab => ?_,
    fun heights index content positive => ?_⟩
  · obtain ⟨starts, stops⟩ := rail_bounds positive nonneg isCard
    simp only [railScrollTarget_eq_follow]
    rw [settles_follow_iff starts stops, add_sub_cancel_left]
  · obtain ⟨starts, stops⟩ := stack_bounds positive nonneg isTab
    simp only [tabScrollTarget_eq_follow isTab]
    rw [settles_follow_iff starts stops, add_sub_cancel_left]
  · cases isRail : heights[index]? with
    | some height =>
        exact settles_pageScrollTarget isRail
          (positive height (List.mem_of_getElem? isRail))
          (stack_bounds positive nonneg isRail).1
    | none =>
        intro offset target moves
        simp [pageScrollTarget, isRail] at moves

theorem followers_settle_iff_narrow_rail :
    Settles (fun offset => railScrollTarget 0 2 offset 50 100 10) ↔
      (100 : ℚ) ≤ 50 :=
  (followers_settle_iff 50 10 (by norm_num)).2.1 0 2 100 (by norm_num)
    (by norm_num)

/-- Two cards, two tabs and three rows, each larger than the viewport: the
first card and the first tab flip between the offsets 50 and 0, the second row
between 150 and 100. -/
theorem large_targets_flip :
    railScrollTarget 0 2 0 50 100 10 = some 50 ∧
    railScrollTarget 0 2 50 50 100 10 = some 0 ∧
    tabScrollTarget 10 [100, 100] 0 0 50 = some 50 ∧
    tabScrollTarget 10 [100, 100] 0 50 50 = some 0 ∧
    Metrics.scrollToRow ⟨1, 90, 90, 10, 100⟩ 3 1 0 50 = some 150 ∧
    Metrics.scrollToRow ⟨1, 90, 90, 10, 100⟩ 3 1 150 50 = some 100 := by
  decide +kernel

end Frontend
end Hearthdeck
