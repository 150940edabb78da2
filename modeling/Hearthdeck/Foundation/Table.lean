import Mathlib.Data.List.AList
import Mathlib.Order.Lattice

/-!
# Finite tables

Hash maps and database tables of the program are finite tables: association
lists with distinct keys.  Lookup, insertion and removal are those of
Mathlib's `AList`; this module adds the update of every row, the deletion of
rows by a condition, counting rows, reading rows in the order of a key, and
the iteration orders of a hash map, which the program never controls.
-/

namespace Hearthdeck
namespace Foundation

universe u v w

/-- A finite table with one value for each present key. -/
abbrev Table (Key : Type u) (Value : Type v) :=
  AList fun _ : Key => Value

namespace Table

variable {Key : Type u} {Value : Type v}

/-- Update every row of a table. -/
def mapValues
    (update : Key → Value → Value)
    (table : Table Key Value) : Table Key Value where
  entries := table.entries.map (Sigma.map id update)
  nodupKeys := List.NodupKeys.map₂ update _ table.nodupKeys

/-- Keep the rows satisfying a condition. -/
def filter
    (keep : Key → Value → Bool)
    (table : Table Key Value) : Table Key Value where
  entries := table.entries.filter fun entry => keep entry.1 entry.2
  nodupKeys := List.NodupKeys.sublist List.filter_sublist table.nodupKeys

/-- Number of rows satisfying a predicate. -/
def count
    (predicate : Key → Value → Bool)
    (table : Table Key Value) : Nat :=
  table.entries.countP fun entry => predicate entry.1 entry.2

@[simp] theorem count_empty
    (predicate : Key → Value → Bool) :
    count predicate (∅ : Table Key Value) = 0 := rfl

/-- An update that no row's membership depends on keeps the count. -/
theorem count_mapValues
    (predicate : Key → Value → Bool)
    (update : Key → Value → Value)
    (table : Table Key Value)
    (same : ∀ key value,
      predicate key (update key value) = predicate key value) :
    count predicate (mapValues update table) = count predicate table := by
  change (table.entries.map _).countP _ = _
  rw [List.countP_map]
  apply List.countP_congr
  intro entry _
  exact Bool.eq_iff_iff.mp (same entry.1 entry.2)

variable [DecidableEq Key]

@[simp] theorem lookup_mapValues
    (update : Key → Value → Value)
    (table : Table Key Value)
    (key : Key) :
    (mapValues update table).lookup key =
      (table.lookup key).map (update key) :=
  List.dlookup_map₂ key

@[simp] theorem lookup_filter
    (keep : Key → Value → Bool)
    (table : Table Key Value)
    (key : Key) :
    (filter keep table).lookup key =
      (table.lookup key).filter (keep key) := by
  ext value
  rw [Option.filter_eq_some_iff, ← Option.mem_def, ← Option.mem_def,
    AList.mem_lookup_iff, AList.mem_lookup_iff]
  exact List.mem_filter

/-- Lookup after an insertion, for every key at once. -/
theorem lookup_insert_eq_ite
    (table : Table Key Value)
    (key other : Key)
    (value : Value) :
    (table.insert key value).lookup other =
      if other = key then some value else table.lookup other := by
  by_cases same : other = key
  · subst same
    simp
  · simp [same]

/-- Lookup after a removal, for every key at once. -/
theorem lookup_erase_eq_ite
    (table : Table Key Value)
    (key other : Key) :
    (table.erase key).lookup other =
      if other = key then none else table.lookup other := by
  by_cases same : other = key
  · subst same
    simp
  · simp [same]

/-- Inserting under an absent key adds one row. -/
theorem count_insert_of_lookup_eq_none
    (predicate : Key → Value → Bool)
    (table : Table Key Value)
    (key : Key)
    (value : Value)
    (absent : table.lookup key = none) :
    count predicate (table.insert key value) =
      count predicate table + (if predicate key value then 1 else 0) := by
  have missing : key ∉ table := AList.lookup_eq_none.mp absent
  rw [count, AList.entries_insert_of_notMem missing, List.countP_cons]
  rfl

/-- The row of a present key can be counted apart from the others. -/
theorem count_erase_of_lookup_eq_some
    (predicate : Key → Value → Bool)
    (table : Table Key Value)
    (key : Key)
    (value : Value)
    (present : table.lookup key = some value) :
    count predicate (table.erase key) +
        (if predicate key value then 1 else 0) =
      count predicate table := by
  have member : key ∈ table.entries.keys :=
    AList.lookup_isSome.mp (by simp [present])
  obtain ⟨found, left, right, notLeft, split, erased⟩ :=
    List.exists_of_kerase member
  have foundMember : (⟨key, found⟩ : Sigma fun _ : Key => Value) ∈
      table.entries := by
    rw [split]
    simp
  have same : found = value := by
    have := AList.mem_lookup_iff.mpr foundMember
    rw [present] at this
    exact (Option.some.inj this).symm
  subst same
  change (List.kerase key table.entries).countP _ + _ = _
  rw [count, erased, split]
  simp only [List.countP_append, List.countP_cons]
  omega

/-- A table has a row satisfying a predicate exactly when the count of such
rows is positive. -/
theorem count_pos_iff
    (predicate : Key → Value → Bool)
    (table : Table Key Value) :
    0 < count predicate table ↔
      ∃ key value, table.lookup key = some value ∧
        predicate key value = true := by
  rw [count, List.countP_pos_iff]
  constructor
  · rintro ⟨⟨key, value⟩, member, holds⟩
    exact ⟨key, value, AList.mem_lookup_iff.mpr member, holds⟩
  · rintro ⟨key, value, found, holds⟩
    exact ⟨⟨key, value⟩, AList.mem_lookup_iff.mp found, holds⟩

theorem count_erase_le
    (predicate : Key → Value → Bool)
    (table : Table Key Value)
    (key : Key) :
    count predicate (table.erase key) ≤ count predicate table :=
  (List.kerase_sublist key table.entries).countP_le

theorem count_insert_le
    (predicate : Key → Value → Bool)
    (table : Table Key Value)
    (key : Key)
    (value : Value) :
    count predicate (table.insert key value) ≤ count predicate table + 1 := by
  have fewer := count_erase_le predicate table key
  have inserted : count predicate (table.insert key value) =
      count predicate (table.erase key) +
        (if predicate key value then 1 else 0) := by
    unfold count
    rw [AList.entries_insert, List.countP_cons]
    rfl
  rw [inserted]
  split <;> omega

omit [DecidableEq Key] in
/-- Rows of one kind are of one of two other kinds. -/
theorem count_le_add
    (predicate left right : Key → Value → Bool)
    (table : Table Key Value)
    (covered : ∀ key value, predicate key value = true →
      left key value = true ∨ right key value = true) :
    count predicate table ≤ count left table + count right table := by
  unfold count
  induction table.entries with
  | nil => simp
  | cons entry entries inductionHypothesis =>
      simp only [List.countP_cons]
      have here : (if predicate entry.1 entry.2 then 1 else 0) ≤
          (if left entry.1 entry.2 then 1 else 0) +
            (if right entry.1 entry.2 then 1 else 0) := by
        cases holds : predicate entry.1 entry.2 with
        | false => simp
        | true =>
            rcases covered _ _ holds with isLeft | isRight
            · simp [isLeft]
            · simp [isRight]
      omega

/-- Of two rows of a kind, one is another than a given one. -/
theorem exists_of_two_le_count
    (predicate : Key → Value → Bool)
    (table : Table Key Value)
    (key : Key)
    (two : 2 ≤ count predicate table) :
    ∃ other value, other ≠ key ∧ table.lookup other = some value ∧
      predicate other value = true := by
  have remains : 0 < count predicate (table.erase key) := by
    cases found : table.lookup key with
    | none =>
        have unchanged : count predicate (table.erase key) =
            count predicate table := by
          unfold count
          rw [show (table.erase key).entries = table.entries from
            List.kerase_of_notMem_keys (AList.lookup_eq_none.mp found)]
        omega
    | some value =>
        have split := count_erase_of_lookup_eq_some predicate table key value
          found
        split_ifs at split <;> omega
  obtain ⟨other, value, found, holds⟩ := (count_pos_iff _ _).mp remains
  rw [lookup_erase_eq_ite] at found
  split at found
  case isTrue same => cases found
  case isFalse different => exact ⟨other, value, different, found, holds⟩

/-! ## Reading in the order of a key -/

/-- The rows in ascending order of a key. -/
def orderBy
    {Order : Type w}
    [LinearOrder Order]
    (key : Key → Value → Order)
    (table : Table Key Value) : List (Sigma fun _ : Key => Value) :=
  table.entries.mergeSort fun left right =>
    decide (key left.1 left.2 ≤ key right.1 right.2)

omit [DecidableEq Key] in
theorem orderBy_perm
    {Order : Type w}
    [LinearOrder Order]
    (key : Key → Value → Order)
    (table : Table Key Value) :
    (orderBy key table).Perm table.entries :=
  List.mergeSort_perm _ _

@[simp] theorem mem_orderBy
    {Order : Type w}
    [LinearOrder Order]
    (key : Key → Value → Order)
    (table : Table Key Value)
    (row : Sigma fun _ : Key => Value) :
    row ∈ orderBy key table ↔ table.lookup row.1 = some row.2 := by
  rw [(orderBy_perm key table).mem_iff]
  exact AList.mem_lookup_iff.symm

omit [DecidableEq Key] in
theorem nodup_orderBy
    {Order : Type w}
    [LinearOrder Order]
    (key : Key → Value → Order)
    (table : Table Key Value) :
    (orderBy key table).Nodup :=
  (orderBy_perm key table).nodup_iff.mpr table.nodupKeys.nodup

omit [DecidableEq Key] in
theorem pairwise_orderBy
    {Order : Type w}
    [LinearOrder Order]
    (key : Key → Value → Order)
    (table : Table Key Value) :
    (orderBy key table).Pairwise fun left right =>
      key left.1 left.2 ≤ key right.1 right.2 := by
  have sorted : (orderBy key table).Pairwise fun left right =>
      decide (key left.1 left.2 ≤ key right.1 right.2) = true := by
    apply List.pairwise_mergeSort
    · intro left middle right first second
      exact decide_eq_true
        (le_trans (of_decide_eq_true first) (of_decide_eq_true second))
    · intro left right
      simpa using le_total (key left.1 left.2) (key right.1 right.2)
  exact sorted.imp of_decide_eq_true

/-- Reading some of the rows in order gives the one strictly ascending list
that has exactly these rows. -/
theorem filter_orderBy_eq
    {Order : Type w}
    [LinearOrder Order]
    (key : Key → Value → Order)
    (keep : (Sigma fun _ : Key => Value) → Bool)
    (table : Table Key Value)
    (expected : List (Sigma fun _ : Key => Value))
    (member : ∀ row, row ∈ expected ↔
      table.lookup row.1 = some row.2 ∧ keep row = true)
    (ascending : expected.Pairwise fun left right =>
      key left.1 left.2 < key right.1 right.2) :
    (orderBy key table).filter keep = expected := by
  have sameRows : ∀ row, row ∈ (orderBy key table).filter keep ↔
      row ∈ expected := by
    intro row
    rw [List.mem_filter, mem_orderBy, member]
  have distinct : expected.Nodup :=
    ascending.imp fun {left right} before => by
      intro same
      subst same
      exact lt_irrefl _ before
  have permuted : ((orderBy key table).filter keep).Perm expected :=
    (List.perm_ext_iff_of_nodup ((nodup_orderBy key table).filter keep)
      distinct).mpr sameRows
  -- Rows of the expected list with equal keys are one row.
  have separated : ∀ left ∈ expected, ∀ right ∈ expected,
      key left.1 left.2 = key right.1 right.2 → left = right := by
    intro left leftMember right rightMember same
    by_contra different
    have symmetric : Std.Symm fun left right : Sigma fun _ : Key => Value =>
        key left.1 left.2 ≠ key right.1 right.2 :=
      ⟨fun _ _ => Ne.symm⟩
    have keysDiffer : expected.Pairwise fun left right =>
        key left.1 left.2 ≠ key right.1 right.2 :=
      ascending.imp fun before => ne_of_lt before
    exact keysDiffer.forall leftMember rightMember different same
  refine permuted.eq_of_pairwise ?_
    ((pairwise_orderBy key table).filter keep)
    (ascending.imp fun before => le_of_lt before)
  intro left right leftMember rightMember forth back
  exact separated left ((sameRows left).mp leftMember) right rightMember
    (le_antisymm forth back)

end Table

/-- An iteration order of a hash map: an arbitrary rearrangement of what is
visited.  Statements quantify over these orders, because the program does not
choose them. -/
structure HashOrder where
  /-- The order in which the elements come up. -/
  visit : {Element : Type} → List Element → List Element
  /-- Every element comes up exactly as often as it is present. -/
  visit_perm : ∀ {Element : Type} (elements : List Element),
    (visit elements).Perm elements

namespace HashOrder

/-- The order in which the table happens to be stored. -/
def stored : HashOrder where
  visit := fun elements => elements
  visit_perm := fun elements => List.Perm.refl elements

instance : Inhabited HashOrder := ⟨stored⟩

@[simp] theorem mem_visit
    (order : HashOrder)
    {Element : Type}
    (elements : List Element)
    (element : Element) :
    element ∈ order.visit elements ↔ element ∈ elements :=
  (order.visit_perm elements).mem_iff

end HashOrder

end Foundation
end Hearthdeck
