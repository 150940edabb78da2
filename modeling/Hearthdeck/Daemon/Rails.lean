import Hearthdeck.Daemon.Collections
import Hearthdeck.Foundation.Machine

/-!
# The order of a curated rail

The members of a curated rail carry a position: a new member goes behind the
last one, a present one keeps its place, and a removed one gives it up.  What
a person expects is simpler: a rail is a list of cards, an added card goes to
its end unless it is there already, and a removed card leaves it.  This module
shows that the stored positions implement exactly that list, for every
history of additions and removals, and what follows for a card that is taken
out of a rail and put back.
-/

namespace Hearthdeck
namespace Daemon

open Foundation

/-! ## Rails as lists of cards -/

/-- A curated rail: its cards in the order in which they are shown. -/
abbrev Rail := List CollectionItem

namespace Rail

/-- The items of a rail, in order. -/
def ids (rail : Rail) : List String :=
  rail.map CollectionItem.itemId

/-- Add a card behind the others, or refresh the one that is there. -/
def add
    (item : CollectionItem)
    (rail : Rail) : Rail :=
  if item.itemId ∈ rail.ids then
    rail.map fun card => if card.itemId = item.itemId then item else card
  else
    rail ++ [item]

/-- Take a card out. -/
def remove
    (itemId : String)
    (rail : Rail) : Rail :=
  rail.filter fun card => card.itemId != itemId

/-- The order of a rail's own cards is the same in another rail. -/
def SameOrder (before after : Rail) : Prop :=
  after.ids.filter (fun id => decide (id ∈ before.ids)) = before.ids

/-- Adding a card that is present moves nothing. -/
theorem ids_add_of_mem
    (item : CollectionItem)
    (rail : Rail)
    (present : item.itemId ∈ rail.ids) :
    (rail.add item).ids = rail.ids := by
  rw [add, if_pos present, ids, ids, List.map_map]
  apply List.map_congr_left
  intro card _
  simp only [Function.comp_apply]
  split_ifs with same
  · exact same.symm
  · rfl

theorem ids_add_of_notMem
    (item : CollectionItem)
    (rail : Rail)
    (absent : item.itemId ∉ rail.ids) :
    (rail.add item).ids = rail.ids ++ [item.itemId] := by
  rw [add, if_neg absent, ids, ids, List.map_append]
  rfl

theorem ids_remove
    (itemId : String)
    (rail : Rail) :
    (rail.remove itemId).ids = rail.ids.filter fun id => id != itemId := by
  rw [remove, ids, ids, List.filter_map]
  rfl

theorem nodup_add
    (item : CollectionItem)
    (rail : Rail)
    (distinct : rail.ids.Nodup) :
    (rail.add item).ids.Nodup := by
  by_cases present : item.itemId ∈ rail.ids
  · rw [ids_add_of_mem item rail present]
    exact distinct
  · rw [ids_add_of_notMem item rail present, List.nodup_append]
    refine ⟨distinct, List.nodup_singleton _, ?_⟩
    intro id member other otherMember same
    rw [List.mem_singleton] at otherMember
    subst same otherMember
    exact present member

theorem nodup_remove
    (itemId : String)
    (rail : Rail)
    (distinct : rail.ids.Nodup) :
    (rail.remove itemId).ids.Nodup := by
  rw [ids_remove]
  exact distinct.filter _

/-- The items after a card was liked, unliked and liked again: it has gone
behind the others. -/
theorem ids_add_remove_add
    (first again : CollectionItem)
    (same : again.itemId = first.itemId)
    (rail : Rail) :
    (((rail.add first).remove first.itemId).add again).ids =
      (rail.ids.filter fun id => id != first.itemId) ++ [first.itemId] := by
  have removed : ((rail.add first).remove first.itemId).ids =
      rail.ids.filter fun id => id != first.itemId := by
    rw [ids_remove]
    by_cases present : first.itemId ∈ rail.ids
    · rw [ids_add_of_mem first rail present]
    · rw [ids_add_of_notMem first rail present, List.filter_append]
      simp
  rw [ids_add_of_notMem, removed, same]
  rw [removed, same]
  simp

/-- Liking, unliking and liking a card again keeps the order of the rail
exactly when the card was not in it or stood last. -/
theorem sameOrder_add_remove_add_iff
    (first again : CollectionItem)
    (same : again.itemId = first.itemId)
    (rail : Rail)
    (distinct : rail.ids.Nodup) :
    rail.SameOrder (((rail.add first).remove first.itemId).add again) ↔
      first.itemId ∉ rail.ids ∨ rail.ids.getLast? = some first.itemId := by
  rw [SameOrder, ids_add_remove_add first again same]
  generalize rail.ids = ids at distinct ⊢
  have others : (ids.filter fun id => id != first.itemId).filter
      (fun id => decide (id ∈ ids)) =
        ids.filter fun id => id != first.itemId := by
    rw [List.filter_eq_self]
    intro id member
    exact decide_eq_true (List.mem_of_mem_filter member)
  rw [List.filter_append, others]
  by_cases present : first.itemId ∈ ids
  · have kept : [first.itemId].filter (fun id => decide (id ∈ ids)) =
        [first.itemId] := by
      simp [present]
    rw [kept]
    constructor
    · intro equal
      refine Or.inr ?_
      rw [← equal]
      simp
    · intro condition
      have last := condition.resolve_left (not_not_intro present)
      obtain ⟨front, split⟩ := List.getLast?_eq_some_iff.mp last
      subst split
      rw [List.nodup_append] at distinct
      rw [List.filter_append]
      have frontKept : front.filter (fun id => id != first.itemId) =
          front := by
        rw [List.filter_eq_self]
        intro id member
        simpa using distinct.2.2 id member first.itemId
          (List.mem_singleton_self _)
      rw [frontKept]
      simp
  · have dropped : [first.itemId].filter (fun id => decide (id ∈ ids)) =
        [] := by
      simp [present]
    have untouched : ids.filter (fun id => id != first.itemId) = ids := by
      rw [List.filter_eq_self]
      intro id member
      have different : id ≠ first.itemId :=
        fun equal => present (equal ▸ member)
      simpa using different
    rw [dropped, untouched, List.append_nil]
    exact ⟨fun _ => Or.inl present, fun _ => rfl⟩

end Rail

namespace CollectionStore

/-! ## The rows of one rail -/

/-- The rows of a collection's members in the order they are read in. -/
def railRows
    (store : CollectionStore)
    (slug : String) :
    List (Sigma fun _ : String × String => CollectionItemRow) :=
  store.orderedItems.filter fun entry => entry.1.1 == slug

/-- The rail a collection is shown as. -/
def rail
    (store : CollectionStore)
    (slug : String) : Rail :=
  cardsOf slug store.orderedItems

theorem rail_eq_map
    (store : CollectionStore)
    (slug : String) :
    store.rail slug = (store.railRows slug).map card := rfl

/-- No two members of a collection have one position. -/
def PositionsDistinct (store : CollectionStore) : Prop :=
  ∀ slug left right leftRow rightRow,
    store.items.lookup (slug, left) = some leftRow →
    store.items.lookup (slug, right) = some rightRow →
    leftRow.position = rightRow.position →
    left = right

theorem mem_railRows
    (store : CollectionStore)
    (slug : String)
    (entry : Sigma fun _ : String × String => CollectionItemRow) :
    entry ∈ store.railRows slug ↔
      store.items.lookup entry.1 = some entry.2 ∧ entry.1.1 = slug := by
  rw [railRows, List.mem_filter, orderedItems, Table.mem_orderBy]
  simp

/-- The rows of a rail are the one list with these members in which positions
ascend. -/
theorem railRows_eq
    (store : CollectionStore)
    (slug : String)
    (expected : List (Sigma fun _ : String × String => CollectionItemRow))
    (member : ∀ entry, entry ∈ expected ↔
      store.items.lookup entry.1 = some entry.2 ∧ entry.1.1 = slug)
    (ascending : expected.Pairwise fun left right =>
      left.2.position < right.2.position) :
    store.railRows slug = expected := by
  apply Table.filter_orderBy_eq
  · intro entry
    rw [member]
    simp
  · apply ascending.imp_of_mem
    intro left right leftMember rightMember before
    have leftSlug := ((member left).mp leftMember).2
    have rightSlug := ((member right).mp rightMember).2
    rw [leftSlug, rightSlug, Prod.Lex.toLex_lt_toLex]
    exact Or.inr ⟨rfl, Prod.Lex.toLex_lt_toLex.mpr (Or.inl before)⟩

/-- Positions ascend along a rail. -/
theorem railRows_ascending
    (store : CollectionStore)
    (slug : String)
    (distinct : store.PositionsDistinct) :
    (store.railRows slug).Pairwise fun left right =>
      left.2.position < right.2.position := by
  have ordered := (Table.pairwise_orderBy
    (fun (key : String × String) (row : CollectionItemRow) =>
      toLex (key.1, toLex (row.position, row.createdAt)))
    store.items).filter fun entry => entry.1.1 == slug
  have unequal : (store.railRows slug).Pairwise fun left right =>
      left ≠ right :=
    (Table.nodup_orderBy _ store.items).filter _
  apply (unequal.and ordered).imp_of_mem
  intro left right leftMember rightMember both
  obtain ⟨different, before⟩ := both
  rw [mem_railRows] at leftMember rightMember
  obtain ⟨⟨leftSlug, leftId⟩, leftRow⟩ := left
  obtain ⟨⟨rightSlug, rightId⟩, rightRow⟩ := right
  simp only at leftMember rightMember before ⊢
  obtain ⟨leftFound, rfl⟩ := leftMember
  obtain ⟨rightFound, rfl⟩ := rightMember
  rw [Prod.Lex.toLex_le_toLex] at before
  have behind : leftRow.position ≤ rightRow.position := by
    rcases before with smaller | ⟨_, later⟩
    · exact absurd smaller (lt_irrefl _)
    · rw [Prod.Lex.toLex_le_toLex] at later
      rcases later with smaller | ⟨same, _⟩
      · exact le_of_lt smaller
      · exact le_of_eq same
  refine lt_of_le_of_ne behind ?_
  intro same
  apply different
  have sameId := distinct _ _ _ _ _ leftFound rightFound same
  subst sameId
  rw [leftFound, Option.some.injEq] at rightFound
  rw [rightFound]

theorem mem_ids_rail
    (store : CollectionStore)
    (slug itemId : String) :
    itemId ∈ (store.rail slug).ids ↔
      ∃ row, store.items.lookup (slug, itemId) = some row := by
  rw [Rail.ids, rail_eq_map, List.map_map, List.mem_map]
  constructor
  · rintro ⟨⟨⟨_, _⟩, row⟩, member, rfl⟩
    rw [mem_railRows] at member
    obtain ⟨found, rfl⟩ := member
    exact ⟨row, found⟩
  · rintro ⟨row, found⟩
    exact ⟨⟨(slug, itemId), row⟩,
      (mem_railRows store slug _).mpr ⟨found, rfl⟩, rfl⟩

/-- Statements that leave the members of a collection alone leave its rail
alone. -/
theorem railRows_congr
    (store after : CollectionStore)
    (slug : String)
    (distinct : store.PositionsDistinct)
    (same : ∀ itemId, after.items.lookup (slug, itemId) =
      store.items.lookup (slug, itemId)) :
    after.railRows slug = store.railRows slug := by
  apply railRows_eq
  · rintro ⟨⟨other, itemId⟩, row⟩
    rw [mem_railRows]
    constructor
    · rintro ⟨found, rfl⟩
      exact ⟨(same itemId).trans found, rfl⟩
    · rintro ⟨found, rfl⟩
      exact ⟨(same itemId).symm.trans found, rfl⟩
  · exact railRows_ascending store slug distinct

theorem mem_positions
    (store : CollectionStore)
    (slug : String)
    (position : Int) :
    position ∈ store.positions slug ↔
      ∃ itemId row, store.items.lookup (slug, itemId) = some row ∧
        row.position = position := by
  rw [positions, List.mem_map]
  constructor
  · rintro ⟨⟨⟨_, itemId⟩, row⟩, member, rfl⟩
    rw [List.mem_filter] at member
    obtain ⟨stored, sameSlug⟩ := member
    simp only [beq_iff_eq] at sameSlug
    subst sameSlug
    exact ⟨itemId, row, AList.mem_lookup_iff.mpr stored, rfl⟩
  · rintro ⟨itemId, row, found, rfl⟩
    refine ⟨⟨(slug, itemId), row⟩, ?_, rfl⟩
    rw [List.mem_filter]
    exact ⟨AList.mem_lookup_iff.mp found, by simp⟩

/-- The next position is behind every member. -/
theorem lt_nextPosition
    (store : CollectionStore)
    (slug itemId : String)
    (row : CollectionItemRow)
    (found : store.items.lookup (slug, itemId) = some row) :
    row.position < store.nextPosition slug := by
  have member : row.position ∈ store.positions slug :=
    (mem_positions store slug _).mpr ⟨itemId, row, found, rfl⟩
  rw [nextPosition]
  cases largest : (store.positions slug).max? with
  | none =>
      rw [List.max?_eq_none_iff] at largest
      rw [largest] at member
      cases member
  | some bound =>
      have below := (List.max?_eq_some_iff.mp largest).2 _ member
      simp only [Option.getD_some]
      omega

/-! ## One addition or removal -/

/-- A row refreshed by an addition. -/
def refreshed
    (item : CollectionItem)
    (row : CollectionItemRow) : CollectionItemRow :=
  { row with name := item.name, icon := item.icon }

/-- The row of a member that is new. -/
def newRow
    (store : CollectionStore)
    (now : Instant)
    (slug : String)
    (item : CollectionItem) : CollectionItemRow where
  name := item.name
  icon := item.icon
  position := store.nextPosition slug
  createdAt := now

/-- What an addition that is not refused does: a present member is refreshed,
a new one goes behind the last position. -/
theorem insertItem_cases
    (now : Instant)
    (slug : String)
    (item : CollectionItem)
    (store : CollectionStore) :
    (store.collections.lookup slug = none ∧
      insertItem now slug item store = .error .constraint) ∨
    (∃ row, store.items.lookup (slug, item.itemId) = some row ∧
      insertItem now slug item store = .ok
        { store with
          items := store.items.insert (slug, item.itemId)
            (refreshed item row) }) ∨
    (store.items.lookup (slug, item.itemId) = none ∧
      insertItem now slug item store = .ok
        { store with
          items := store.items.insert (slug, item.itemId)
            (store.newRow now slug item) }) := by
  cases collection : store.collections.lookup slug with
  | none => exact Or.inl ⟨rfl, by rw [insertItem, collection]⟩
  | some known =>
      refine Or.inr ?_
      cases member : store.items.lookup (slug, item.itemId) with
      | some row =>
          exact Or.inl ⟨row, rfl, by rw [insertItem, collection, member]; rfl⟩
      | none =>
          exact Or.inr ⟨rfl, by rw [insertItem, collection, member]; rfl⟩

/-- Positions stay distinct when every row has the position it had. -/
theorem positionsDistinct_of_kept
    (store after : CollectionStore)
    (distinct : store.PositionsDistinct)
    (kept : ∀ key row, after.items.lookup key = some row →
      ∃ before, store.items.lookup key = some before ∧
        before.position = row.position) :
    after.PositionsDistinct := by
  intro slug left right leftRow rightRow leftFound rightFound same
  obtain ⟨leftBefore, leftStored, leftSame⟩ := kept _ _ leftFound
  obtain ⟨rightBefore, rightStored, rightSame⟩ := kept _ _ rightFound
  exact distinct _ _ _ _ _ leftStored rightStored
    (leftSame.trans (same.trans rightSame.symm))

/-- The store after a member's row was written. -/
def withItem
    (store : CollectionStore)
    (slug itemId : String)
    (row : CollectionItemRow) : CollectionStore :=
  { store with items := store.items.insert (slug, itemId) row }

theorem lookup_withItem
    (store : CollectionStore)
    (slug itemId : String)
    (row : CollectionItemRow)
    (key : String × String) :
    (store.withItem slug itemId row).items.lookup key =
      if key = (slug, itemId) then some row
      else store.items.lookup key :=
  Table.lookup_insert_eq_ite store.items (slug, itemId) key row

theorem lookup_deleteItem
    (store : CollectionStore)
    (slug itemId : String)
    (key : String × String) :
    (store.deleteItem slug itemId).items.lookup key =
      if key = (slug, itemId) then none else store.items.lookup key :=
  Table.lookup_erase_eq_ite store.items (slug, itemId) key

/-- Writing a row of one collection leaves the other rails alone. -/
theorem rail_withItem_of_ne
    (store : CollectionStore)
    (slug itemId : String)
    (row : CollectionItemRow)
    (distinct : store.PositionsDistinct)
    (other : String)
    (different : other ≠ slug) :
    (store.withItem slug itemId row).rail other = store.rail other := by
  rw [rail_eq_map, rail_eq_map,
    railRows_congr store _ other distinct]
  intro otherId
  rw [lookup_withItem, if_neg]
  intro same
  exact different (congrArg Prod.fst same)

/-! ### A present member -/

theorem positionsDistinct_refresh
    (store : CollectionStore)
    (slug : String)
    (item : CollectionItem)
    (row : CollectionItemRow)
    (found : store.items.lookup (slug, item.itemId) = some row)
    (distinct : store.PositionsDistinct) :
    (store.withItem slug item.itemId
      (refreshed item row)).PositionsDistinct := by
  apply positionsDistinct_of_kept store _ distinct
  intro key after stored
  rw [lookup_withItem] at stored
  split_ifs at stored with same
  · cases stored
    subst same
    exact ⟨row, found, rfl⟩
  · exact ⟨after, stored, rfl⟩

/-- Refreshing changes one card in its place. -/
theorem railRows_refresh
    (store : CollectionStore)
    (slug : String)
    (item : CollectionItem)
    (row : CollectionItemRow)
    (found : store.items.lookup (slug, item.itemId) = some row)
    (distinct : store.PositionsDistinct) :
    (store.withItem slug item.itemId (refreshed item row)).railRows slug =
      (store.railRows slug).map fun entry =>
        if entry.1.2 = item.itemId then
          ⟨entry.1, refreshed item entry.2⟩
        else
          entry := by
  apply railRows_eq
  · rintro ⟨⟨other, itemId⟩, after⟩
    rw [lookup_withItem, List.mem_map]
    constructor
    · rintro ⟨⟨⟨entrySlug, entryId⟩, entryRow⟩, member, equal⟩
      rw [mem_railRows] at member
      obtain ⟨stored, rfl⟩ := member
      simp only at equal stored
      split_ifs at equal with same
      · subst same
        cases equal
        rw [found, Option.some.injEq] at stored
        rw [if_pos rfl, stored]
        exact ⟨rfl, rfl⟩
      · cases equal
        rw [if_neg]
        · exact ⟨stored, rfl⟩
        · intro equalKeys
          exact same (congrArg Prod.snd equalKeys)
    · rintro ⟨stored, rfl⟩
      split_ifs at stored with same
      · cases stored
        cases same
        refine ⟨⟨_, row⟩, (mem_railRows store _ _).mpr ⟨found, rfl⟩, ?_⟩
        exact if_pos rfl
      · refine ⟨⟨_, after⟩, (mem_railRows store _ _).mpr ⟨stored, rfl⟩, ?_⟩
        apply if_neg
        intro sameId
        simp only at sameId same
        exact same (by rw [sameId])
  · rw [List.pairwise_map]
    apply (railRows_ascending store slug distinct).imp
    intro left right before
    have position : ∀ entry :
        Sigma fun _ : String × String => CollectionItemRow,
        (if entry.1.2 = item.itemId then
          (⟨entry.1, refreshed item entry.2⟩ :
            Sigma fun _ : String × String => CollectionItemRow)
        else entry).2.position = entry.2.position := by
      intro entry
      split_ifs <;> rfl
    rw [position, position]
    exact before

/-- Refreshing a member is adding its card to the rail. -/
theorem rail_refresh
    (store : CollectionStore)
    (slug : String)
    (item : CollectionItem)
    (row : CollectionItemRow)
    (found : store.items.lookup (slug, item.itemId) = some row)
    (distinct : store.PositionsDistinct) :
    (store.withItem slug item.itemId (refreshed item row)).rail slug =
      (store.rail slug).add item := by
  have present : item.itemId ∈ (store.rail slug).ids :=
    (mem_ids_rail store slug item.itemId).mpr ⟨row, found⟩
  rw [Rail.add, if_pos present, rail_eq_map, rail_eq_map,
    railRows_refresh store slug item row found distinct, List.map_map,
    List.map_map]
  apply List.map_congr_left
  intro entry _
  simp only [Function.comp_apply]
  by_cases same : entry.1.2 = item.itemId
  · rw [if_pos same, if_pos (by exact same)]
    simp only [card, refreshed, same]
  · rw [if_neg same, if_neg (by exact same)]

/-! ### A new member -/

theorem positionsDistinct_append
    (store : CollectionStore)
    (now : Instant)
    (slug : String)
    (item : CollectionItem)
    (distinct : store.PositionsDistinct) :
    (store.withItem slug item.itemId
      (store.newRow now slug item)).PositionsDistinct := by
  intro other left right leftRow rightRow leftFound rightFound same
  rw [lookup_withItem] at leftFound rightFound
  split_ifs at leftFound rightFound with leftNew rightNew rightNew
  · cases leftNew
    cases rightNew
    rfl
  · cases leftNew
    cases leftFound
    have behind := lt_nextPosition store slug right rightRow rightFound
    rw [← same] at behind
    exact absurd behind (lt_irrefl _)
  · cases rightNew
    cases rightFound
    have behind := lt_nextPosition store slug left leftRow leftFound
    rw [same] at behind
    exact absurd behind (lt_irrefl _)
  · exact distinct _ _ _ _ _ leftFound rightFound same

/-- A new member goes behind the others. -/
theorem railRows_append
    (store : CollectionStore)
    (now : Instant)
    (slug : String)
    (item : CollectionItem)
    (absent : store.items.lookup (slug, item.itemId) = none)
    (distinct : store.PositionsDistinct) :
    (store.withItem slug item.itemId
        (store.newRow now slug item)).railRows slug =
      store.railRows slug ++
        [⟨(slug, item.itemId), store.newRow now slug item⟩] := by
  apply railRows_eq
  · rintro ⟨⟨other, itemId⟩, after⟩
    rw [lookup_withItem, List.mem_append, List.mem_singleton, mem_railRows]
    split_ifs with same
    · cases same
      constructor
      · rintro (⟨stored, _⟩ | equal)
        · rw [absent] at stored
          cases stored
        · cases equal
          exact ⟨rfl, rfl⟩
      · rintro ⟨stored, _⟩
        cases stored
        exact Or.inr rfl
    · constructor
      · rintro (⟨stored, sameSlug⟩ | equal)
        · exact ⟨stored, sameSlug⟩
        · cases equal
          exact absurd rfl same
      · exact Or.inl
  · rw [List.pairwise_append]
    refine ⟨railRows_ascending store slug distinct,
      List.pairwise_singleton _ _, ?_⟩
    intro entry member new newMember
    rw [List.mem_singleton] at newMember
    subst newMember
    rw [mem_railRows] at member
    obtain ⟨stored, rfl⟩ := member
    exact lt_nextPosition store _ entry.1.2 entry.2 stored

/-- Writing a new member is adding its card to the rail. -/
theorem rail_append
    (store : CollectionStore)
    (now : Instant)
    (slug : String)
    (item : CollectionItem)
    (absent : store.items.lookup (slug, item.itemId) = none)
    (distinct : store.PositionsDistinct) :
    (store.withItem slug item.itemId
        (store.newRow now slug item)).rail slug =
      (store.rail slug).add item := by
  have missing : item.itemId ∉ (store.rail slug).ids := by
    rw [mem_ids_rail, absent]
    rintro ⟨row, stored⟩
    cases stored
  rw [Rail.add, if_neg missing, rail_eq_map, rail_eq_map,
    railRows_append store now slug item absent distinct, List.map_append]
  rfl

/-! ### A removal -/

theorem positionsDistinct_deleteItem
    (store : CollectionStore)
    (slug itemId : String)
    (distinct : store.PositionsDistinct) :
    (store.deleteItem slug itemId).PositionsDistinct := by
  apply positionsDistinct_of_kept store _ distinct
  intro key row stored
  rw [lookup_deleteItem] at stored
  split_ifs at stored
  exact ⟨row, stored, rfl⟩

/-- Deleting a member takes its card out of its rail and leaves the others
alone. -/
theorem rail_deleteItem
    (store : CollectionStore)
    (slug itemId : String)
    (distinct : store.PositionsDistinct)
    (other : String) :
    (store.deleteItem slug itemId).rail other =
      if other = slug then (store.rail slug).remove itemId
      else store.rail other := by
  split_ifs with same
  · subst same
    have rows : (store.deleteItem other itemId).railRows other =
        (store.railRows other).filter fun entry => entry.1.2 != itemId := by
      apply railRows_eq
      · rintro ⟨⟨entrySlug, entryId⟩, row⟩
        rw [lookup_deleteItem, List.mem_filter, mem_railRows]
        simp only [bne_iff_ne]
        constructor
        · rintro ⟨⟨stored, rfl⟩, different⟩
          rw [if_neg]
          · exact ⟨stored, rfl⟩
          · intro equalKeys
            exact different (congrArg Prod.snd equalKeys)
        · rintro ⟨stored, rfl⟩
          split_ifs at stored with equalKeys
          refine ⟨⟨stored, rfl⟩, ?_⟩
          intro equalIds
          exact equalKeys (by rw [equalIds])
      · exact (railRows_ascending store other distinct).filter _
    rw [rail_eq_map, rows, Rail.remove, rail_eq_map, List.filter_map]
    rfl
  · rw [rail_eq_map, rail_eq_map, railRows_congr store _ other distinct]
    intro otherId
    rw [lookup_deleteItem, if_neg]
    intro equalKeys
    exact same (congrArg Prod.fst equalKeys)

/-! ## Histories of additions and removals -/

/-- An addition or a removal. -/
inductive Edit
  | add (now : Instant) (slug : String) (item : CollectionItem)
  | remove (slug itemId : String)

/-- A request to edit the members, with the fault its statement may meet. -/
structure EditCall where
  edit : Edit
  faults : List Bool

/-- What a request leaves in the store. -/
def performEdit
    (store : CollectionStore)
    (call : EditCall) : CollectionStore :=
  match call.edit with
  | .add now slug item =>
      (addItem now slug item).storeAfter ⟨store, call.faults⟩
  | .remove slug itemId =>
      (removeItem slug itemId).storeAfter ⟨store, call.faults⟩

/-- The store under additions and removals, over any collections. -/
def editing
    (collections : Table String CollectionRow)
    (builtinsKept : Bool) : Machine CollectionStore EditCall Unit where
  start :=
    { collections := collections
      items := ∅
      builtinsKept := builtinsKept }
  step := fun store call => (store.performEdit call, [])

/-- What a request does to the rails, seen as lists of cards: a failed one
and one for an unknown collection do nothing. -/
def editRails
    (collections : Table String CollectionRow)
    (rails : String → Rail)
    (call : EditCall) : String → Rail :=
  if true ∈ call.faults.take 1 then
    rails
  else
    match call.edit with
    | .add _ slug item =>
        if (collections.lookup slug).isSome then
          Function.update rails slug ((rails slug).add item)
        else
          rails
    | .remove slug itemId =>
        Function.update rails slug ((rails slug).remove itemId)

/-- The rails after a history of requests. -/
def railsAfter
    (collections : Table String CollectionRow)
    (calls : List EditCall) : String → Rail :=
  calls.foldl (editRails collections) fun _ => []

/-- The store shows the rails: its positions are distinct, its readings are
the rails, and only known collections have members. -/
structure Shows
    (collections : Table String CollectionRow)
    (store : CollectionStore)
    (rails : String → Rail) : Prop where
  distinct : store.PositionsDistinct
  shown : ∀ slug, store.rail slug = rails slug
  fixed : store.collections = collections
  known : ∀ slug, rails slug ≠ [] →
    (collections.lookup slug).isSome = true
  once : ∀ slug, (rails slug).ids.Nodup

/-- What a request does to the store, by what becomes of its statement. -/
theorem performEdit_cases
    (store : CollectionStore)
    (call : EditCall) :
    (true ∈ call.faults.take 1 ∧ store.performEdit call = store) ∨
    (true ∉ call.faults.take 1 ∧
      ((∃ now slug item, call.edit = .add now slug item ∧
          store.collections.lookup slug = none ∧
          store.performEdit call = store) ∨
        (∃ now slug item row, call.edit = .add now slug item ∧
          store.items.lookup (slug, item.itemId) = some row ∧
          store.performEdit call =
            store.withItem slug item.itemId (refreshed item row)) ∨
        (∃ now slug item, call.edit = .add now slug item ∧
          store.items.lookup (slug, item.itemId) = none ∧
          (store.collections.lookup slug).isSome = true ∧
          store.performEdit call =
            store.withItem slug item.itemId (store.newRow now slug item)) ∨
        (∃ slug itemId, call.edit = .remove slug itemId ∧
          store.performEdit call = store.deleteItem slug itemId))) := by
  obtain ⟨edit, faults⟩ := call
  by_cases faulty : true ∈ faults.take 1
  · have failing : Query.Faulty 1 (⟨store, faults⟩ : Connection _) := faulty
    refine Or.inl ⟨faulty, ?_⟩
    cases edit with
    | add now slug item =>
        change (addItem now slug item).storeAfter _ = _
        rw [addItem, Query.execute, Query.storeAfter_statement,
          if_pos failing]
    | remove slug itemId =>
        change (removeItem slug itemId).storeAfter _ = _
        rw [removeItem, Query.storeAfter_statement, if_pos failing]
  · have calm : ¬ Query.Faulty 1 (⟨store, faults⟩ : Connection _) := faulty
    refine Or.inr ⟨faulty, ?_⟩
    cases edit with
    | add now slug item =>
        have performed :
            (∀ after, insertItem now slug item store = .ok after →
              store.performEdit ⟨.add now slug item, faults⟩ = after) ∧
            ∀ error, insertItem now slug item store = .error error →
              store.performEdit ⟨.add now slug item, faults⟩ = store := by
          change (∀ after, _ → (addItem now slug item).storeAfter _ = after) ∧
            ∀ error, _ → (addItem now slug item).storeAfter _ = store
          rw [addItem, Query.execute, Query.storeAfter_statement,
            if_neg calm]
          refine ⟨fun after isAfter => ?_, fun error isError => ?_⟩
          · rw [isAfter]
            rfl
          · rw [isError]
            rfl
        rcases insertItem_cases now slug item store with
          ⟨unknown, refused⟩ | ⟨row, found, written⟩ | ⟨absent, written⟩
        · exact Or.inl
            ⟨now, slug, item, rfl, unknown, performed.2 _ refused⟩
        · exact Or.inr (Or.inl
            ⟨now, slug, item, row, rfl, found, performed.1 _ written⟩)
        · refine Or.inr (Or.inr (Or.inl
            ⟨now, slug, item, rfl, absent, ?_, performed.1 _ written⟩))
          cases collection : store.collections.lookup slug with
          | none =>
              rw [insertItem, collection] at written
              cases written
          | some row => rfl
    | remove slug itemId =>
        refine Or.inr (Or.inr (Or.inr ⟨slug, itemId, rfl, ?_⟩))
        change (removeItem slug itemId).storeAfter _ = _
        rw [removeItem, Query.storeAfter_statement, if_neg calm]

/-- A change of one rail, in the store and in the list. -/
theorem shows_update
    {collections : Table String CollectionRow}
    {store after : CollectionStore}
    {rails : String → Rail}
    (shows : Shows collections store rails)
    (slug : String)
    (changed : Rail)
    (distinct : after.PositionsDistinct)
    (own : after.rail slug = changed)
    (others : ∀ other, other ≠ slug → after.rail other = store.rail other)
    (fixed : after.collections = store.collections)
    (known : changed ≠ [] → (collections.lookup slug).isSome = true)
    (once : changed.ids.Nodup) :
    Shows collections after (Function.update rails slug changed) where
  distinct := distinct
  shown := by
    intro other
    by_cases same : other = slug
    · subst same
      rw [Function.update_self, own]
    · rw [Function.update_of_ne same, others other same, shows.shown]
  fixed := fixed.trans shows.fixed
  known := by
    intro other
    by_cases same : other = slug
    · subst same
      rw [Function.update_self]
      exact known
    · rw [Function.update_of_ne same]
      exact shows.known other
  once := by
    intro other
    by_cases same : other = slug
    · subst same
      rw [Function.update_self]
      exact once
    · rw [Function.update_of_ne same]
      exact shows.once other

/-- One request changes the store as it changes the rails. -/
theorem shows_performEdit
    {collections : Table String CollectionRow}
    {store : CollectionStore}
    {rails : String → Rail}
    (shows : Shows collections store rails)
    (call : EditCall) :
    Shows collections (store.performEdit call)
      (editRails collections rails call) := by
  rw [editRails]
  rcases performEdit_cases store call with
    ⟨faulty, performed⟩ | ⟨calm, rest⟩
  · rw [if_pos faulty, performed]
    exact shows
  · rw [if_neg calm]
    rcases rest with
      ⟨now, slug, item, edit, unknown, performed⟩ |
      ⟨now, slug, item, row, edit, found, performed⟩ |
      ⟨now, slug, item, edit, absent, isKnown, performed⟩ |
      ⟨slug, itemId, edit, performed⟩
    · rw [edit, performed]
      simp only
      rw [shows.fixed] at unknown
      rw [if_neg (by simp [unknown])]
      exact shows
    · have known : (collections.lookup slug).isSome = true := by
        apply shows.known slug
        rw [← shows.shown]
        intro nothing
        have member := (mem_ids_rail store slug item.itemId).mpr
          ⟨row, found⟩
        rw [nothing] at member
        cases member
      rw [edit, performed]
      simp only
      rw [if_pos known]
      apply shows_update shows slug
      · exact positionsDistinct_refresh store slug item row found
          shows.distinct
      · rw [rail_refresh store slug item row found shows.distinct,
          shows.shown]
      · exact rail_withItem_of_ne store slug item.itemId _ shows.distinct
      · rfl
      · exact fun _ => known
      · exact Rail.nodup_add item _ (shows.once slug)
    · have known : (collections.lookup slug).isSome = true := by
        rw [← shows.fixed]
        exact isKnown
      rw [edit, performed]
      simp only
      rw [if_pos known]
      apply shows_update shows slug
      · exact positionsDistinct_append store now slug item shows.distinct
      · rw [rail_append store now slug item absent shows.distinct,
          shows.shown]
      · exact rail_withItem_of_ne store slug item.itemId _ shows.distinct
      · rfl
      · exact fun _ => known
      · exact Rail.nodup_add item _ (shows.once slug)
    · rw [edit, performed]
      simp only
      apply shows_update shows slug
      · exact positionsDistinct_deleteItem store slug itemId shows.distinct
      · rw [rail_deleteItem store slug itemId shows.distinct, if_pos rfl,
          shows.shown]
      · intro other different
        rw [rail_deleteItem store slug itemId shows.distinct,
          if_neg different]
      · rfl
      · intro remaining
        apply shows.known slug
        intro nothing
        rw [nothing] at remaining
        exact remaining rfl
      · exact Rail.nodup_remove itemId _ (shows.once slug)

/-- The stored positions implement the rails, whatever was added and removed
before. -/
theorem shows_run
    (collections : Table String CollectionRow)
    (builtinsKept : Bool)
    (calls : List EditCall) :
    Shows collections ((editing collections builtinsKept).run calls)
      (railsAfter collections calls) := by
  induction calls using List.reverseRecOn with
  | nil =>
      constructor
      · intro slug left right leftRow rightRow leftFound
        cases leftFound
      · intro slug
        have nothing : ((editing collections builtinsKept).run []).railRows
            slug = [] := by
          apply railRows_eq
          · intro entry
            refine iff_of_false List.not_mem_nil ?_
            rintro ⟨stored, _⟩
            cases stored
          · exact List.Pairwise.nil
        rw [rail_eq_map, nothing]
        rfl
      · rfl
      · intro slug nonempty
        exact absurd rfl nonempty
      · intro slug
        exact List.nodup_nil
  | append_singleton calls call inductionHypothesis =>
      rw [Machine.run_concat, railsAfter, List.foldl_append]
      exact shows_performEdit inductionHypothesis call

/-- Like a card, unlike it and like it again, with the name and icon it then
has; no statement fails. -/
def likeAgain
    (slug : String)
    (item : CollectionItem)
    (name : String)
    (icon : Option String)
    (now later : Instant) : List EditCall :=
  [⟨.add now slug item, []⟩, ⟨.remove slug item.itemId, []⟩,
    ⟨.add later slug { item with name := name, icon := icon }, []⟩]

/-- What the order of the curated rails promises of a store, given the rails
its history amounts to. -/
structure CuratedOrder
    (store : CollectionStore)
    (rails : String → Rail) : Prop where
  /-- Positions within one collection are pairwise distinct. -/
  distinct : store.PositionsDistinct
  /-- A reading returns every collection once, with the cards of its rail in
  the rail's order; no member of a rail is left out. -/
  listed : ∀ now, ∃ found next,
    (list now).run ⟨store, []⟩ = .ok found next ∧
      (found.map Collection.slug).Nodup ∧
      (∀ collection ∈ found, collection.items = rails collection.slug) ∧
      ∀ slug, rails slug ≠ [] → ∃ collection ∈ found, collection.slug = slug
  /-- A rail has every member once. -/
  once : ∀ slug, (rails slug).ids.Nodup
  /-- Adding a member that is present moves nothing, in any rail. -/
  readded : ∀ now slug item faults, item.itemId ∈ (rails slug).ids →
    ∀ other,
      ((store.performEdit ⟨.add now slug item, faults⟩).rail other).ids =
        (rails other).ids

theorem ids_editRails_add_of_mem
    (collections : Table String CollectionRow)
    (rails : String → Rail)
    (now : Instant)
    (slug : String)
    (item : CollectionItem)
    (faults : List Bool)
    (present : item.itemId ∈ (rails slug).ids)
    (other : String) :
    (editRails collections rails ⟨.add now slug item, faults⟩ other).ids =
      (rails other).ids := by
  rw [editRails]
  split_ifs
  · rfl
  · simp only
    split_ifs
    · by_cases same : other = slug
      · subst same
        rw [Function.update_self]
        exact Rail.ids_add_of_mem item _ present
      · rw [Function.update_of_ne same]
    · rfl

theorem curatedOrder_of_shows
    {collections : Table String CollectionRow}
    {store : CollectionStore}
    {rails : String → Rail}
    (shows : Shows collections store rails) :
    CuratedOrder store rails where
  distinct := shows.distinct
  listed := by
    intro now
    refine ⟨_, _, run_list now store, ?_, ?_, ?_⟩
    · exact nodup_slugs_orderedCollections _ _
    · intro collection member
      rw [List.mem_map] at member
      obtain ⟨entry, _, rfl⟩ := member
      exact shows.shown entry.1
    · intro slug nonempty
      have known := isSome_lookup_seeded now store slug (by
        rw [shows.fixed]
        exact shows.known slug nonempty)
      rw [Option.isSome_iff_exists] at known
      obtain ⟨row, found⟩ := known
      refine ⟨collectionOf store.orderedItems ⟨slug, row⟩, ?_, rfl⟩
      apply List.mem_map_of_mem
      exact (Table.mem_orderBy _ _ _).mpr found
  once := shows.once
  readded := by
    intro now slug item faults present other
    rw [(shows_performEdit shows _).shown]
    exact ids_editRails_add_of_mem collections rails now slug item faults
      present other

/-- The rail after a card was liked, unliked and liked again. -/
theorem rail_likeAgain
    {collections : Table String CollectionRow}
    {store : CollectionStore}
    {rails : String → Rail}
    (shows : Shows collections store rails)
    (slug : String)
    (item : CollectionItem)
    (name : String)
    (icon : Option String)
    (now later : Instant) :
    ((likeAgain slug item name icon now later).foldl performEdit store).rail
        slug =
      if (collections.lookup slug).isSome then
        (((rails slug).add item).remove item.itemId).add
          { item with name := name, icon := icon }
      else
        (rails slug).remove item.itemId := by
  have first := shows_performEdit shows ⟨.add now slug item, []⟩
  have second := shows_performEdit first ⟨.remove slug item.itemId, []⟩
  have third := shows_performEdit second
    ⟨.add later slug { item with name := name, icon := icon }, []⟩
  refine (third.shown slug).trans ?_
  simp only [editRails, List.take_nil, List.not_mem_nil, if_false]
  split_ifs
  · simp only [Function.update_self]
  · simp only [Function.update_self]

/-- In every history the positions implement the rails, and a card that is
liked, unliked and liked again leaves the order of its rail alone exactly
when it was not in the rail or stood last in it. -/
theorem curated_order
    (collections : Table String CollectionRow)
    (builtinsKept : Bool)
    (calls : List EditCall) :
    CuratedOrder ((editing collections builtinsKept).run calls)
        (railsAfter collections calls) ∧
      ∀ slug item name icon now later,
        (((editing collections builtinsKept).run calls).rail
            slug).SameOrder
          (((editing collections builtinsKept).run (calls ++
            likeAgain slug item name icon now later)).rail slug) ↔
        item.itemId ∉
            (((editing collections builtinsKept).run calls).rail slug).ids ∨
          (((editing collections builtinsKept).run calls).rail
            slug).ids.getLast? = some item.itemId := by
  have shows := shows_run collections builtinsKept calls
  refine ⟨curatedOrder_of_shows shows, ?_⟩
  intro slug item name icon now later
  have again : (editing collections builtinsKept).run (calls ++
        likeAgain slug item name icon now later) =
      (likeAgain slug item name icon now later).foldl performEdit
        ((editing collections builtinsKept).run calls) :=
    Machine.runFrom_append _ _ calls _
  rw [again, rail_likeAgain shows, shows.shown]
  split_ifs with known
  · exact Rail.sameOrder_add_remove_add_iff item
      { item with name := name, icon := icon } rfl _ (shows.once slug)
  · have nothing : railsAfter collections calls slug = [] := by
      by_contra nonempty
      exact known (shows.known slug nonempty)
    rw [nothing]
    exact iff_of_true rfl (Or.inl List.not_mem_nil)

/-- Two cards in the favorites, and the first of them unliked and liked
again: it now stands behind the second. -/
theorem liking_again_reorders_favorites :
    ¬ ((((editing (migrated 0).collections true).run
          [⟨.add 1 "favorites" ⟨"zoop", "Zoop", none⟩, []⟩,
            ⟨.add 2 "favorites" ⟨"writer", "Writer", none⟩, []⟩]).rail
          "favorites").SameOrder
        (((editing (migrated 0).collections true).run
          ([⟨.add 1 "favorites" ⟨"zoop", "Zoop", none⟩, []⟩,
            ⟨.add 2 "favorites" ⟨"writer", "Writer", none⟩, []⟩] ++
            likeAgain "favorites" ⟨"zoop", "Zoop", none⟩ "Zoop" none 3
              4)).rail "favorites")) := by
  rw [(shows_run _ _ _).shown, (shows_run _ _ _).shown, Rail.SameOrder]
  decide

end CollectionStore
end Daemon
end Hearthdeck
