import Hearthdeck.Daemon.Collections
import Hearthdeck.Foundation.Machine

/-!
# Who owns a collection

Features replace and remove the collections under their own name, a person
edits the members of the curated ones, and the built-in collections are
nobody's to lose.  `Intact` is what every operation keeps, whether it succeeds
or fails: the built-in rows are as defined, and only collections a person
curates have members.  From it follows what one replacement or removal does to
the collections of every other owner.
-/

namespace Hearthdeck
namespace Daemon
namespace CollectionStore

open Foundation Effect

/-- A built-in collection is present as defined. -/
def Defined
    (store : CollectionStore)
    (builtin : Builtin) : Prop :=
  ∃ createdAt,
    store.collections.lookup builtin.slug = some (builtin.row createdAt)

/-- A collection whose members a person curates. -/
def CuratedRow (row : CollectionRow) : Prop :=
  row.kind = .membership ∧ row.owner = ownerUser

/-- What every operation keeps. -/
structure Intact (store : CollectionStore) : Prop where
  /-- The built-in collections are present as defined. -/
  builtins : ∀ builtin ∈ builtins, store.Defined builtin
  /-- The trigger that keeps them is in place. -/
  kept : store.builtinsKept = true
  /-- Only curated collections have members. -/
  curated : ∀ slug itemId row,
    store.items.lookup (slug, itemId) = some row →
    ∃ collection, store.collections.lookup slug = some collection ∧
      CuratedRow collection

/-! ## The built-in collections -/

/-- The owner of a built-in collection is not a feature. -/
theorem isFeatureOwner_builtin
    (builtin : Builtin)
    (member : builtin ∈ builtins) :
    isFeatureOwner builtin.owner = false := by
  have all : ∀ builtin ∈ builtins, isFeatureOwner builtin.owner = false := by
    simp [builtins, isFeatureOwner]
  exact all builtin member

/-- A built-in collection is known by its slug. -/
theorem builtin_eq_of_slug_eq
    (left right : Builtin)
    (leftMember : left ∈ builtins)
    (rightMember : right ∈ builtins)
    (same : left.slug = right.slug) :
    left = right := by
  have distinct : (builtins.map Builtin.slug).Nodup := by decide
  exact List.inj_on_of_nodup_map distinct leftMember rightMember same

theorem defined_writeBuiltin_self
    (now : Instant)
    (builtin : Builtin)
    (store : CollectionStore) :
    (store.writeBuiltin now builtin).Defined builtin := by
  rw [Defined, lookup_writeBuiltin, if_pos rfl]
  exact ⟨_, rfl⟩

theorem defined_writeBuiltin
    (now : Instant)
    (builtin other : Builtin)
    (member : builtin ∈ builtins)
    (otherMember : other ∈ builtins)
    (store : CollectionStore)
    (defined : store.Defined other) :
    (store.writeBuiltin now builtin).Defined other := by
  by_cases same : other.slug = builtin.slug
  · rw [builtin_eq_of_slug_eq other builtin otherMember member same]
    exact defined_writeBuiltin_self now builtin store
  · obtain ⟨createdAt, stored⟩ := defined
    refine ⟨createdAt, ?_⟩
    rw [lookup_writeBuiltin, if_neg same]
    exact stored

/-- Seeding defines every built-in collection, whatever was stored. -/
theorem defined_seeded
    (now : Instant)
    (store : CollectionStore)
    (builtin : Builtin)
    (member : builtin ∈ builtins) :
    (store.seeded now).Defined builtin := by
  have written : ∀ seeds : List Builtin, seeds ⊆ builtins →
      ∀ store : CollectionStore,
        builtin ∈ seeds ∨ store.Defined builtin →
        (seeds.foldl (fun store builtin => store.writeBuiltin now builtin)
          store).Defined builtin := by
    intro seeds
    induction seeds with
    | nil =>
        intro _ store defined
        exact defined.resolve_left List.not_mem_nil
    | cons seed seeds inductionHypothesis =>
        intro subset store defined
        rw [List.cons_subset] at subset
        apply inductionHypothesis subset.2
        rcases defined with seeding | defined
        · rw [List.mem_cons] at seeding
          rcases seeding with rfl | later
          · exact Or.inr (defined_writeBuiltin_self now _ store)
          · exact Or.inl later
        · exact Or.inr
            (defined_writeBuiltin now seed builtin subset.1 member store
              defined)
  exact written builtins (List.Subset.refl _) store (Or.inl member)

/-- In an intact store a built-in collection is written over itself. -/
theorem lookup_writeBuiltin_of_intact
    (now : Instant)
    (builtin : Builtin)
    (member : builtin ∈ builtins)
    (store : CollectionStore)
    (intact : store.Intact)
    (slug : String) :
    (store.writeBuiltin now builtin).collections.lookup slug =
      store.collections.lookup slug := by
  obtain ⟨createdAt, stored⟩ := intact.builtins builtin member
  rw [lookup_writeBuiltin, stored]
  split_ifs with same
  · subst same
    exact stored.symm
  · rfl

/-- The invariant depends on the collections only through their rows. -/
theorem intact_congr
    (store after : CollectionStore)
    (intact : store.Intact)
    (collections : ∀ slug, after.collections.lookup slug =
      store.collections.lookup slug)
    (items : after.items = store.items)
    (kept : after.builtinsKept = true) :
    after.Intact where
  builtins := by
    intro builtin member
    obtain ⟨createdAt, stored⟩ := intact.builtins builtin member
    exact ⟨createdAt, (collections builtin.slug).trans stored⟩
  kept := kept
  curated := by
    intro slug itemId row found
    rw [items] at found
    rw [collections]
    exact intact.curated slug itemId row found

theorem intact_writeBuiltin
    (now : Instant)
    (builtin : Builtin)
    (member : builtin ∈ builtins)
    (store : CollectionStore)
    (intact : store.Intact) :
    (store.writeBuiltin now builtin).Intact :=
  intact_congr store _ intact
    (lookup_writeBuiltin_of_intact now builtin member store intact) rfl
    intact.kept

/-- A migrated new database is intact. -/
theorem intact_migrated (now : Instant) :
    (migrated now).Intact := by
  have seed := (performs_seedBuiltin now).done ⟨empty, []⟩ _
    (by simp [Query.Faulty]) rfl
  have same : migrated now = empty.seeded now := by
    rw [migrated, Query.storeAfter, seed]
  rw [same]
  constructor
  · exact defined_seeded now empty
  · rfl
  · intro slug itemId row found
    cases found

/-! ## Reading and curating -/

/-- A query that leaves an intact store intact, whether it succeeds or
fails. -/
def KeepsIntact
    {Error Value : Type}
    (query : Query Error CollectionStore Value) : Prop :=
  ∀ connection, connection.store.Intact →
    Meets query (fun _ next => next.store.Intact)
      (fun _ next => next.store.Intact) connection

theorem keepsIntact_statement
    {Error Value : Type}
    (report : SqlError → Error)
    (effect : CollectionStore → Except SqlError (Value × CollectionStore))
    (keeps : ∀ store value after, store.Intact →
      effect store = .ok (value, after) → after.Intact) :
    KeepsIntact (Query.statement report effect) := by
  intro connection intact
  apply Query.meets_statement
  · exact fun _ _ => intact
  · intro value after faults changed
    exact keeps _ _ _ intact changed

theorem KeepsIntact.bind
    {Error Value Next : Type}
    {first : Query Error CollectionStore Value}
    {second : Value → Query Error CollectionStore Next}
    (keepsFirst : KeepsIntact first)
    (keepsSecond : ∀ value, KeepsIntact (second value)) :
    KeepsIntact (first >>= second) := by
  intro connection intact
  rw [meets_bind]
  exact (keepsFirst connection intact).imp
    (fun value next kept => keepsSecond value next kept)
    (fun _ _ kept => kept)

theorem keepsIntact_pure
    {Error Value : Type}
    (value : Value) :
    KeepsIntact (pure value : Query Error CollectionStore Value) :=
  fun _ intact => intact

theorem keepsIntact_throw
    {Error Value : Type}
    (error : Error) :
    KeepsIntact (throw error : Query Error CollectionStore Value) :=
  fun _ intact => intact

theorem KeepsIntact.stored
    {Value : Type}
    {query : Query StoreError CollectionStore Value}
    (keeps : KeepsIntact query) :
    KeepsIntact (CollectionStore.stored query) := by
  intro connection intact
  rw [CollectionStore.stored, Query.meets_adaptExcept]
  exact keeps connection intact

theorem keepsIntact_select
    {Error Value : Type}
    (report : SqlError → Error)
    (read : CollectionStore → Value) :
    KeepsIntact (Query.select report read) := by
  apply keepsIntact_statement
  intro store value after intact selected
  cases selected
  exact intact

theorem keepsIntact_seedBuiltin (now : Instant) :
    KeepsIntact (seedBuiltin now) := by
  apply KeepsIntact.bind
  · intro connection intact
    refine meets_forM _
      (fun next : Connection CollectionStore => next.store.Intact) _ builtins
      ?_ intact
    intro builtin member next kept
    refine keepsIntact_statement _ _ ?_ next kept
    intro store value after intact written
    cases written
    exact intact_writeBuiltin now builtin member store intact
  · intro _
    apply keepsIntact_statement
    intro store value after intact written
    cases written
    exact intact_congr store _ intact (fun _ => rfl) rfl rfl

theorem keepsIntact_list (now : Instant) :
    KeepsIntact (list now) :=
  (keepsIntact_seedBuiltin now).bind fun _ =>
    (keepsIntact_select _ _).bind fun _ =>
      (keepsIntact_select _ _).bind fun _ => keepsIntact_pure _

theorem keepsIntact_curatedSnapshot
    (now : Instant)
    (slug : String) :
    KeepsIntact (curatedSnapshot now slug) := by
  apply KeepsIntact.bind
  · exact KeepsIntact.stored
      ((keepsIntact_list now).bind fun _ => keepsIntact_pure _)
  · intro found
    cases found with
    | none => exact keepsIntact_throw _
    | some collection => exact keepsIntact_pure _

/-- A person's edit goes on only for a curated collection. -/
theorem meets_ensureCurated
    (slug : String)
    (connection : Connection CollectionStore)
    (intact : connection.store.Intact) :
    Meets (ensureCurated slug)
      (fun _ next => next.store.Intact ∧
        ∃ row, next.store.collections.lookup slug = some row ∧
          CuratedRow row)
      (fun _ next => next.store.Intact) connection := by
  rw [ensureCurated, meets_bind, stored, Query.meets_adaptExcept,
    acceptsItems, Query.select]
  apply Query.meets_statement
  · exact fun _ _ => intact
  · intro value after faults selected
    cases selected
    cases found : connection.store.collections.lookup slug with
    | none => exact intact
    | some row =>
        cases accepted :
            (row.kind == .membership && row.owner == ownerUser) with
        | false =>
            simp only [Option.map_some, accepted]
            exact intact
        | true =>
            simp only [Option.map_some, accepted]
            refine ⟨intact, row, found, ?_⟩
            simpa [CuratedRow] using accepted

theorem intact_insertItem
    (now : Instant)
    (slug : String)
    (item : CollectionItem)
    (store after : CollectionStore)
    (intact : store.Intact)
    (row : CollectionRow)
    (found : store.collections.lookup slug = some row)
    (curated : CuratedRow row)
    (inserted : insertItem now slug item store = .ok after) :
    after.Intact := by
  rw [insertItem, found] at inserted
  cases inserted
  constructor
  · exact intact.builtins
  · exact intact.kept
  · intro other itemId stored lookup
    rw [Table.lookup_insert_eq_ite] at lookup
    split_ifs at lookup with same
    · cases same
      exact ⟨row, found, curated⟩
    · exact intact.curated other itemId stored lookup

theorem intact_deleteItem
    (slug itemId : String)
    (store : CollectionStore)
    (intact : store.Intact) :
    (store.deleteItem slug itemId).Intact where
  builtins := intact.builtins
  kept := intact.kept
  curated := by
    intro other otherId row found
    rw [deleteItem, Table.lookup_erase_eq_ite] at found
    split_ifs at found
    exact intact.curated other otherId row found

theorem keepsIntact_addCuratedItem
    (now : Instant)
    (slug : String)
    (item : CollectionItem) :
    KeepsIntact (addCuratedItem now slug item) := by
  intro connection intact
  rw [addCuratedItem, meets_bind]
  refine (meets_ensureCurated slug connection intact).imp ?_
    (fun _ _ kept => kept)
  intro _ next accepted
  obtain ⟨nextIntact, row, found, curated⟩ := accepted
  rw [meets_bind, stored, Query.meets_adaptExcept, addItem, Query.execute]
  apply Query.meets_statement
  · exact fun _ _ => nextIntact
  · intro value after faults inserted
    apply keepsIntact_curatedSnapshot now slug
    cases result : insertItem now slug item next.store with
    | error error =>
        rw [result] at inserted
        cases inserted
    | ok written =>
        rw [result] at inserted
        cases inserted
        exact intact_insertItem now slug item next.store _ nextIntact row
          found curated result

theorem keepsIntact_removeCuratedItem
    (now : Instant)
    (slug itemId : String) :
    KeepsIntact (removeCuratedItem now slug itemId) := by
  intro connection intact
  rw [removeCuratedItem, meets_bind]
  refine (meets_ensureCurated slug connection intact).imp ?_
    (fun _ _ kept => kept)
  intro _ next accepted
  refine KeepsIntact.bind (KeepsIntact.stored ?_)
    (fun _ => keepsIntact_curatedSnapshot now slug) next accepted.1
  apply keepsIntact_statement
  intro store value after intact removed
  cases removed
  exact intact_deleteItem slug itemId store intact

/-! ## Replacing and removing -/

/-- The store without the collections of one owner. -/
def withoutOwner
    (owner : String)
    (store : CollectionStore) : CollectionStore :=
  { store with
    collections := store.collections.filter fun _ row => row.owner != owner
    items := store.items.filter fun key _ => !store.ownedBy owner key.1 }

/-- A feature owns no built-in collection. -/
theorem owner_ne_of_builtin
    (store : CollectionStore)
    (intact : store.Intact)
    (owner : String)
    (feature : isFeatureOwner owner = true)
    (slug : String)
    (row : CollectionRow)
    (found : store.collections.lookup slug = some row)
    (builtin : isBuiltin slug = true) :
    row.owner ≠ owner := by
  rw [isBuiltin, List.any_eq_true] at builtin
  obtain ⟨defined, member, same⟩ := builtin
  rw [beq_iff_eq] at same
  subst same
  obtain ⟨createdAt, stored⟩ := intact.builtins defined member
  rw [found, Option.some.injEq] at stored
  subst stored
  intro owned
  have notFeature := isFeatureOwner_builtin defined member
  change defined.owner = owner at owned
  rw [owned, feature] at notFeature
  cases notFeature

/-- The trigger never stops a feature's deletion. -/
theorem deleteOwned_of_intact
    (store : CollectionStore)
    (intact : store.Intact)
    (owner : String)
    (feature : isFeatureOwner owner = true) :
    deleteOwned owner store = .ok (store.withoutOwner owner) := by
  rw [deleteOwned, if_neg]
  · rfl
  · rintro ⟨_, builtinOwned⟩
    rw [Table.count_pos_iff] at builtinOwned
    obtain ⟨slug, row, found, both⟩ := builtinOwned
    rw [Bool.and_eq_true, beq_iff_eq] at both
    exact owner_ne_of_builtin store intact owner feature slug row found
      both.2 both.1

theorem lookup_withoutOwner
    (owner : String)
    (store : CollectionStore)
    (slug : String) :
    (store.withoutOwner owner).collections.lookup slug =
      (store.collections.lookup slug).filter fun row =>
        row.owner != owner :=
  Table.lookup_filter _ store.collections slug

/-- Members belong to a person's collections, so the deletion of a feature's
collections takes none of them along. -/
theorem lookup_items_withoutOwner
    (owner : String)
    (store : CollectionStore)
    (intact : store.Intact)
    (feature : isFeatureOwner owner = true)
    (key : String × String) :
    (store.withoutOwner owner).items.lookup key =
      store.items.lookup key := by
  refine (Table.lookup_filter _ store.items key).trans ?_
  cases found : store.items.lookup key with
  | none => rfl
  | some row =>
      obtain ⟨collection, stored, curated⟩ :=
        intact.curated key.1 key.2 row found
      have unowned : store.ownedBy owner key.1 = false := by
        rw [ownedBy, stored, Option.any_some, beq_eq_false_iff_ne,
          curated.2]
        intro owned
        rw [← owned] at feature
        revert feature
        decide
      rw [Option.filter_some, unowned]
      rfl

/-- The store with one collection of a feature more. -/
def withOwned
    (now : Instant)
    (owner : String)
    (placed : OwnedCollection × Nat)
    (store : CollectionStore) : CollectionStore :=
  { store with
    collections := store.collections.insert placed.1.slug
      (ownedRow now owner placed.1 placed.2) }

theorem lookup_withOwned
    (now : Instant)
    (owner : String)
    (placed : OwnedCollection × Nat)
    (store : CollectionStore)
    (slug : String) :
    (store.withOwned now owner placed).collections.lookup slug =
      if slug = placed.1.slug then
        some (ownedRow now owner placed.1 placed.2)
      else
        store.collections.lookup slug :=
  Table.lookup_insert_eq_ite store.collections placed.1.slug slug _

theorem insertOwned_of_free
    (now : Instant)
    (owner : String)
    (placed : OwnedCollection × Nat)
    (store : CollectionStore)
    (free : store.collections.lookup placed.1.slug = none) :
    insertOwned now owner placed store =
      .ok (store.withOwned now owner placed) := by
  rw [insertOwned, free]
  rfl

/-- The insertions of a replacement, one after the other. -/
def insertAll
    (now : Instant)
    (owner : String)
    (placed : List (OwnedCollection × Nat))
    (store : CollectionStore) : Except SqlError CollectionStore :=
  placed.foldlM (fun store one => insertOwned now owner one store) store

/-- Insertions under free and distinct slugs succeed and write exactly their
rows. -/
theorem insertAll_of_free
    (now : Instant)
    (owner : String)
    (placed : List (OwnedCollection × Nat))
    (store : CollectionStore)
    (distinct : (placed.map fun one => one.1.slug).Nodup)
    (free : ∀ one ∈ placed, store.collections.lookup one.1.slug = none) :
    ∃ after, insertAll now owner placed store = .ok after ∧
      after.items = store.items ∧
      after.builtinsKept = store.builtinsKept ∧
      (∀ one ∈ placed, after.collections.lookup one.1.slug =
        some (ownedRow now owner one.1 one.2)) ∧
      ∀ slug, (∀ one ∈ placed, one.1.slug ≠ slug) →
        after.collections.lookup slug = store.collections.lookup slug := by
  induction placed generalizing store with
  | nil =>
      refine ⟨store, rfl, rfl, rfl, ?_, fun _ _ => rfl⟩
      intro one member
      cases member
  | cons first rest inductionHypothesis =>
      rw [List.map_cons, List.nodup_cons] at distinct
      have inserted := insertOwned_of_free now owner first store
        (free first List.mem_cons_self)
      have separate : ∀ one ∈ rest, one.1.slug ≠ first.1.slug := by
        intro one member same
        exact distinct.1 (List.mem_map.mpr ⟨one, member, same⟩)
      obtain ⟨after, ran, items, kept, written, others⟩ :=
        inductionHypothesis (store.withOwned now owner first) distinct.2 (by
          intro one member
          rw [lookup_withOwned, if_neg (separate one member)]
          exact free one (List.mem_cons_of_mem _ member))
      refine ⟨after, ?_, items, kept, ?_, ?_⟩
      · rw [insertAll, List.foldlM_cons, inserted]
        exact ran
      · intro one member
        rw [List.mem_cons] at member
        rcases member with rfl | later
        · rw [others _ separate, lookup_withOwned, if_pos rfl]
        · exact written one later
      · intro slug unused
        rw [others slug fun one member =>
          unused one (List.mem_cons_of_mem _ member), lookup_withOwned,
          if_neg (Ne.symm (unused first List.mem_cons_self))]

/-- An insertion under a slug that is taken, by a stored row or by an earlier
insertion, refuses them all. -/
theorem insertAll_of_taken
    (now : Instant)
    (owner : String)
    (placed : List (OwnedCollection × Nat))
    (store : CollectionStore)
    (taken : ¬ (placed.map fun one => one.1.slug).Nodup ∨
      ∃ one ∈ placed, store.collections.lookup one.1.slug ≠ none) :
    ∃ error, insertAll now owner placed store = .error error := by
  induction placed generalizing store with
  | nil =>
      rcases taken with repeated | ⟨one, member, _⟩
      · exact absurd List.nodup_nil repeated
      · cases member
  | cons first rest inductionHypothesis =>
      rw [insertAll, List.foldlM_cons]
      cases found : store.collections.lookup first.1.slug with
      | some row =>
          refine ⟨.constraint, ?_⟩
          rw [insertOwned, found]
          rfl
      | none =>
          rw [insertOwned_of_free now owner first store found]
          apply inductionHypothesis
          rw [List.map_cons, List.nodup_cons, not_and_or, not_not] at taken
          rcases taken with (repeated | repeated) | ⟨one, member, stored⟩
          · rw [List.mem_map] at repeated
            obtain ⟨one, member, same⟩ := repeated
            refine Or.inr ⟨one, member, ?_⟩
            rw [lookup_withOwned, if_pos same]
            exact Option.some_ne_none _
          · exact Or.inl repeated
          · rw [List.mem_cons] at member
            rcases member with rfl | later
            · exact absurd found stored
            · refine Or.inr ⟨one, later, ?_⟩
              rw [lookup_withOwned]
              split_ifs
              · exact Option.some_ne_none _
              · exact stored

/-- A replacement that cannot be made: the owner is not a feature, or a slug
is taken by another owner or twice in the list. -/
def Conflicting
    (store : CollectionStore)
    (owner : String)
    (replaceWith : List OwnedCollection) : Prop :=
  isFeatureOwner owner = false ∨
    (∃ collection ∈ replaceWith, ∃ row,
      store.collections.lookup collection.slug = some row ∧
        row.owner ≠ owner) ∨
    ¬ (replaceWith.map OwnedCollection.slug).Nodup

/-- What a replacement leaves: the rows and members of every other owner as
they were, and of its own exactly the given list, in order. -/
structure Replaced
    (now : Instant)
    (owner : String)
    (replaceWith : List OwnedCollection)
    (before after : CollectionStore) : Prop where
  others : ∀ slug row, row.owner ≠ owner →
    (after.collections.lookup slug = some row ↔
      before.collections.lookup slug = some row)
  otherItems : ∀ slug row itemId,
    before.collections.lookup slug = some row → row.owner ≠ owner →
    after.items.lookup (slug, itemId) = before.items.lookup (slug, itemId)
  own : (after.orderedCollections.filter fun entry =>
      entry.2.owner == owner) =
    replaceWith.zipIdx.map fun placed =>
      ⟨placed.1.slug, ownedRow now owner placed.1 placed.2⟩

theorem slugs_zipIdx (replaceWith : List OwnedCollection) :
    (replaceWith.zipIdx.map fun placed => placed.1.slug) =
      replaceWith.map OwnedCollection.slug := by
  have firsts := List.zipIdx_map_fst 0 replaceWith
  calc
    (replaceWith.zipIdx.map fun placed => placed.1.slug) =
        (replaceWith.zipIdx.map Prod.fst).map OwnedCollection.slug := by
          rw [List.map_map]
          rfl
    _ = replaceWith.map OwnedCollection.slug := by rw [firsts]

/-- The rows of an owner after a replacement, in order. -/
theorem ownedRows_eq
    (now : Instant)
    (owner : String)
    (replaceWith : List OwnedCollection)
    (after : CollectionStore)
    (written : ∀ placed ∈ replaceWith.zipIdx,
      after.collections.lookup placed.1.slug =
        some (ownedRow now owner placed.1 placed.2))
    (only : ∀ slug row, after.collections.lookup slug = some row →
      row.owner = owner → ∃ placed ∈ replaceWith.zipIdx,
        placed.1.slug = slug) :
    (after.orderedCollections.filter fun entry =>
        entry.2.owner == owner) =
      replaceWith.zipIdx.map fun placed =>
        ⟨placed.1.slug, ownedRow now owner placed.1 placed.2⟩ := by
  apply Table.filter_orderBy_eq
  · rintro ⟨slug, row⟩
    rw [List.mem_map]
    constructor
    · rintro ⟨placed, member, equal⟩
      cases equal
      exact ⟨written placed member, beq_self_eq_true owner⟩
    · rintro ⟨found, owned⟩
      rw [beq_iff_eq] at owned
      obtain ⟨placed, member, rfl⟩ := only slug row found owned
      have stored := written placed member
      rw [found, Option.some.injEq] at stored
      exact ⟨placed, member, by rw [← stored]⟩
  · rw [List.pairwise_map]
    have indices : (replaceWith.zipIdx.map Prod.snd).Pairwise (· < ·) := by
      rw [List.zipIdx_map_snd]
      exact List.pairwise_lt_range'
    rw [List.pairwise_map] at indices
    apply indices.imp
    intro left right before
    refine Prod.Lex.toLex_lt_toLex.mpr (Or.inl ?_)
    change (100 : Int) + left.2 < 100 + right.2
    omega

/-- The change of a replacement, when no statement fails by itself. -/
def replacement
    (now : Instant)
    (owner : String)
    (replaceWith : List OwnedCollection)
    (store : CollectionStore) : Except SqlError CollectionStore :=
  deleteOwned owner store >>= insertAll now owner replaceWith.zipIdx

theorem performs_replaceStatements
    (now : Instant)
    (owner : String)
    (replaceWith : List OwnedCollection) :
    Query.Performs (replaceStatements now owner replaceWith)
      (replaceWith.length + 1) (replacement now owner replaceWith) := by
  have deletes := Query.performs_execute
    (StoreError.sql "clear owned collections") (deleteOwned owner)
  have inserts := Query.performs_forM
    (fun placed : OwnedCollection × Nat =>
      StoreError.sql ("write owned collection " ++ placed.1.slug))
    replaceWith.zipIdx (insertOwned now owner)
  have performed := deletes.bind inserts
  rw [List.length_zipIdx, Nat.add_comm] at performed
  exact performed

/-- A replacement without a conflict keeps the invariant and everything that
belongs to somebody else. -/
theorem replacement_of_not_conflicting
    (now : Instant)
    (owner : String)
    (replaceWith : List OwnedCollection)
    (store : CollectionStore)
    (intact : store.Intact)
    (fits : ¬ store.Conflicting owner replaceWith) :
    ∃ after, replacement now owner replaceWith store = .ok after ∧
      Replaced now owner replaceWith store after ∧ after.Intact := by
  rw [Conflicting, not_or, not_or, not_not] at fits
  obtain ⟨notReserved, notTaken, distinct⟩ := fits
  have feature : isFeatureOwner owner = true := by
    simpa using notReserved
  have free : ∀ placed ∈ replaceWith.zipIdx,
      (store.withoutOwner owner).collections.lookup placed.1.slug =
        none := by
    intro placed member
    rw [lookup_withoutOwner]
    cases found : store.collections.lookup placed.1.slug with
    | none => rfl
    | some row =>
        have owned : row.owner = owner := by
          by_contra foreign
          exact notTaken ⟨placed.1, List.fst_mem_of_mem_zipIdx member, row,
            found, foreign⟩
        simp [owned]
  obtain ⟨after, ran, items, kept, written, others⟩ :=
    insertAll_of_free now owner replaceWith.zipIdx
      (store.withoutOwner owner) (by rw [slugs_zipIdx]; exact distinct) free
  have deleted := deleteOwned_of_intact store intact owner feature
  have foreignRows : ∀ slug row, row.owner ≠ owner →
      (after.collections.lookup slug = some row ↔
        store.collections.lookup slug = some row) := by
    intro slug row foreign
    by_cases used : ∃ placed ∈ replaceWith.zipIdx, placed.1.slug = slug
    · obtain ⟨placed, member, rfl⟩ := used
      rw [written placed member]
      refine iff_of_false ?_ ?_
      · intro equal
        cases equal
        exact foreign rfl
      · intro found
        exact notTaken ⟨placed.1, List.fst_mem_of_mem_zipIdx member, row,
          found, foreign⟩
    · rw [others slug (by simpa using used), lookup_withoutOwner,
        Option.filter_eq_some_iff]
      simp [foreign]
  have sameItems : ∀ key, after.items.lookup key =
      store.items.lookup key := by
    intro key
    rw [items]
    exact lookup_items_withoutOwner owner store intact feature key
  refine ⟨after, ?_, ?_, ?_⟩
  · rw [replacement, deleted]
    exact ran
  · constructor
    · exact foreignRows
    · exact fun slug _ itemId _ _ => sameItems (slug, itemId)
    · apply ownedRows_eq now owner replaceWith after written
      intro slug row found owned
      by_contra unused
      rw [others slug (by simpa using unused), lookup_withoutOwner,
        Option.filter_eq_some_iff] at found
      simp [owned] at found
  · constructor
    · intro builtin member
      obtain ⟨createdAt, stored⟩ := intact.builtins builtin member
      refine ⟨createdAt, (foreignRows _ _ ?_).mpr stored⟩
      intro owned
      have reserved := isFeatureOwner_builtin builtin member
      change builtin.owner = owner at owned
      rw [owned, feature] at reserved
      cases reserved
    · rw [kept]
      exact intact.kept
    · intro slug itemId row found
      rw [sameItems] at found
      obtain ⟨collection, stored, curated⟩ :=
        intact.curated slug itemId row found
      refine ⟨collection, (foreignRows _ _ ?_).mpr stored, curated⟩
      rw [curated.2]
      intro owned
      rw [← owned] at feature
      revert feature
      decide

/-- A replacement with a conflict is refused. -/
theorem replacement_of_conflicting
    (now : Instant)
    (owner : String)
    (replaceWith : List OwnedCollection)
    (store : CollectionStore)
    (intact : store.Intact)
    (feature : isFeatureOwner owner = true)
    (conflicting : store.Conflicting owner replaceWith) :
    ∃ error, replacement now owner replaceWith store = .error error := by
  rw [replacement, deleteOwned_of_intact store intact owner feature]
  apply insertAll_of_taken
  rcases conflicting with reserved |
    ⟨collection, member, row, found, foreign⟩ | repeated
  · rw [feature] at reserved
    cases reserved
  · refine Or.inr ?_
    rw [← List.zipIdx_map_fst 0 replaceWith, List.mem_map] at member
    obtain ⟨placed, placedMember, rfl⟩ := member
    refine ⟨placed, placedMember, ?_⟩
    rw [lookup_withoutOwner, found]
    simp [foreign]
  · rw [slugs_zipIdx]
    exact Or.inl repeated

/-- A refused request: it ends in an error and changes nothing. -/
def Refused
    {Value : Type}
    (query : Query StoreError CollectionStore Value)
    (connection : Connection CollectionStore) : Prop :=
  query.succeeds connection = false ∧
    query.storeAfter connection = connection.store

theorem replaceOwned_of_conflicting
    (now : Instant)
    (owner : String)
    (replaceWith : List OwnedCollection)
    (connection : Connection CollectionStore)
    (intact : connection.store.Intact)
    (failure : connection.store.Conflicting owner replaceWith ∨
      Query.Faulty (replaceWith.length + 3) connection) :
    Refused (replaceOwned now owner replaceWith) connection := by
  rw [Refused, replaceOwned]
  cases feature : isFeatureOwner owner with
  | false => exact ⟨rfl, rfl⟩
  | true =>
      rw [if_pos rfl, Query.succeeds, Query.storeAfter]
      have failed : Query.Faulty (replaceWith.length + 1 + 2) connection ∨
          ∃ error, replacement now owner replaceWith connection.store =
            .error error := by
        rcases failure with conflicting | faulty
        · exact Or.inr (replacement_of_conflicting now owner replaceWith _
            intact feature conflicting)
        · exact Or.inl faulty
      obtain ⟨error, next, ran, kept⟩ :=
        (performs_replaceStatements now owner
          replaceWith).run_transaction_of_error
            (.sql "begin collection replacement")
            (.sql "commit collection replacement") connection failed
      rw [ran]
      exact ⟨rfl, kept⟩

theorem replaceOwned_of_not_conflicting
    (now : Instant)
    (owner : String)
    (replaceWith : List OwnedCollection)
    (connection : Connection CollectionStore)
    (intact : connection.store.Intact)
    (fits : ¬ connection.store.Conflicting owner replaceWith)
    (calm : ¬ Query.Faulty (replaceWith.length + 3) connection) :
    (replaceOwned now owner replaceWith).succeeds connection = true ∧
      Replaced now owner replaceWith connection.store
        ((replaceOwned now owner replaceWith).storeAfter connection) ∧
      ((replaceOwned now owner replaceWith).storeAfter
        connection).Intact := by
  obtain ⟨after, replaced, facts⟩ := replacement_of_not_conflicting now owner
    replaceWith connection.store intact fits
  have feature : isFeatureOwner owner = true := by
    by_contra reserved
    exact fits (Or.inl (by simpa using reserved))
  have ran := (performs_replaceStatements now owner
    replaceWith).run_transaction_of_ok (.sql "begin collection replacement")
      (.sql "commit collection replacement") connection after calm replaced
  rw [Query.succeeds, Query.storeAfter, replaceOwned, if_pos feature, ran]
  exact ⟨rfl, facts⟩

/-- A removal is a replacement by nothing. -/
theorem replaced_withoutOwner
    (now : Instant)
    (owner : String)
    (store : CollectionStore)
    (intact : store.Intact)
    (feature : isFeatureOwner owner = true) :
    Replaced now owner [] store (store.withoutOwner owner) ∧
      (store.withoutOwner owner).Intact := by
  have fits : ¬ store.Conflicting owner [] := by
    simp [Conflicting, feature]
  obtain ⟨after, replaced, facts⟩ :=
    replacement_of_not_conflicting now owner [] store intact fits
  rw [replacement, deleteOwned_of_intact store intact owner feature]
    at replaced
  cases replaced
  exact facts

theorem removeOwned_of_refused
    (owner : String)
    (connection : Connection CollectionStore)
    (failure : isFeatureOwner owner = false ∨
      Query.Faulty 1 connection) :
    Refused (removeOwned owner) connection := by
  rw [Refused, removeOwned]
  cases feature : isFeatureOwner owner with
  | false => exact ⟨rfl, rfl⟩
  | true =>
      have faulty := failure.resolve_left (by simp [feature])
      rw [if_pos rfl, Query.succeeds, Query.storeAfter,
        Query.run_statement_of_faulty _ _ connection faulty]
      exact ⟨rfl, rfl⟩

theorem removeOwned_of_feature
    (owner : String)
    (connection : Connection CollectionStore)
    (intact : connection.store.Intact)
    (feature : isFeatureOwner owner = true)
    (calm : ¬ Query.Faulty 1 connection) :
    (removeOwned owner).succeeds connection = true ∧
      (removeOwned owner).storeAfter connection =
        connection.store.withoutOwner owner := by
  rw [Query.succeeds, Query.storeAfter, removeOwned, if_pos feature,
    Query.run_statement_of_not_faulty _ _ connection calm,
    deleteOwned_of_intact connection.store intact owner feature]
  exact ⟨rfl, rfl⟩

/-! ## Runs -/

/-- A request to the store. -/
inductive Request
  | replaceOwned (now : Instant) (owner : String)
      (replaceWith : List OwnedCollection)
  | removeOwned (owner : String)
  | addCuratedItem (now : Instant) (slug : String) (item : CollectionItem)
  | removeCuratedItem (now : Instant) (slug itemId : String)
  | list (now : Instant)

/-- What a request leaves in the store, over the faults it meets. -/
def serve
    (store : CollectionStore)
    (request : Request)
    (faults : List Bool) : CollectionStore :=
  match request with
  | .replaceOwned now owner replaceWith =>
      (replaceOwned now owner replaceWith).storeAfter ⟨store, faults⟩
  | .removeOwned owner => (removeOwned owner).storeAfter ⟨store, faults⟩
  | .addCuratedItem now slug item =>
      (addCuratedItem now slug item).storeAfter ⟨store, faults⟩
  | .removeCuratedItem now slug itemId =>
      (removeCuratedItem now slug itemId).storeAfter ⟨store, faults⟩
  | .list now => (list now).storeAfter ⟨store, faults⟩

/-- The store of the daemon, from a new database on: requests and the faults
their statements meet. -/
def serving (created : Instant) :
    Machine CollectionStore (Request × List Bool) Unit where
  start := migrated created
  step := fun store call => (store.serve call.1 call.2, [])

/-- Every request keeps the invariant. -/
theorem intact_serve
    (store : CollectionStore)
    (intact : store.Intact)
    (request : Request)
    (faults : List Bool) :
    (store.serve request faults).Intact := by
  cases request with
  | replaceOwned now owner replaceWith =>
      by_cases failure : store.Conflicting owner replaceWith ∨
          Query.Faulty (replaceWith.length + 3) ⟨store, faults⟩
      · have refused := replaceOwned_of_conflicting now owner replaceWith
          ⟨store, faults⟩ intact failure
        rw [serve, refused.2]
        exact intact
      · rw [not_or] at failure
        exact (replaceOwned_of_not_conflicting now owner replaceWith
          ⟨store, faults⟩ intact failure.1 failure.2).2.2
  | removeOwned owner =>
      by_cases failure : isFeatureOwner owner = false ∨
          Query.Faulty 1 (⟨store, faults⟩ : Connection CollectionStore)
      · rw [serve, (removeOwned_of_refused owner _ failure).2]
        exact intact
      · rw [not_or] at failure
        have feature : isFeatureOwner owner = true := by
          simpa using failure.1
        rw [serve, (removeOwned_of_feature owner _ intact feature
          failure.2).2]
        exact (replaced_withoutOwner 0 owner store intact feature).2
  | addCuratedItem now slug item =>
      exact Query.storeAfter_of_meets Intact _ _
        (keepsIntact_addCuratedItem now slug item _ intact)
  | removeCuratedItem now slug itemId =>
      exact Query.storeAfter_of_meets Intact _ _
        (keepsIntact_removeCuratedItem now slug itemId _ intact)
  | list now =>
      exact Query.storeAfter_of_meets Intact _ _
        (keepsIntact_list now _ intact)

/-- What a replacement and a removal by any owner do to a store, whatever
faults they meet. -/
structure OwnersApart (store : CollectionStore) : Prop where
  /-- A replacement by a reserved owner or over a taken slug changes nothing,
  and neither does one with a failing statement. -/
  replaceRefused : ∀ now owner replaceWith faults,
    store.Conflicting owner replaceWith ∨
      Query.Faulty (replaceWith.length + 3) ⟨store, faults⟩ →
    Refused (replaceOwned now owner replaceWith) ⟨store, faults⟩
  /-- Any other replacement replaces the rows of its owner only. -/
  replaced : ∀ now owner replaceWith faults,
    ¬ store.Conflicting owner replaceWith →
    ¬ Query.Faulty (replaceWith.length + 3) ⟨store, faults⟩ →
    (replaceOwned now owner replaceWith).succeeds ⟨store, faults⟩ = true ∧
      Replaced now owner replaceWith store
        ((replaceOwned now owner replaceWith).storeAfter ⟨store, faults⟩)
  /-- A removal by a reserved owner changes nothing, and neither does one
  whose statement fails. -/
  removeRefused : ∀ owner faults,
    isFeatureOwner owner = false ∨
      Query.Faulty 1 (⟨store, faults⟩ : Connection CollectionStore) →
    Refused (removeOwned owner) ⟨store, faults⟩
  /-- Any other removal removes the rows of its owner only. -/
  removed : ∀ now owner faults,
    isFeatureOwner owner = true →
    ¬ Query.Faulty 1 (⟨store, faults⟩ : Connection CollectionStore) →
    (removeOwned owner).succeeds ⟨store, faults⟩ = true ∧
      Replaced now owner [] store
        ((removeOwned owner).storeAfter ⟨store, faults⟩)

theorem ownersApart_of_intact
    (store : CollectionStore)
    (intact : store.Intact) :
    store.OwnersApart where
  replaceRefused := fun now owner replaceWith _ failure =>
    replaceOwned_of_conflicting now owner replaceWith _ intact failure
  replaced := by
    intro now owner replaceWith faults fits calm
    have facts := replaceOwned_of_not_conflicting now owner replaceWith
      ⟨store, faults⟩ intact fits calm
    exact ⟨facts.1, facts.2.1⟩
  removeRefused := fun owner _ failure =>
    removeOwned_of_refused owner _ failure
  removed := by
    intro now owner faults feature calm
    have facts := removeOwned_of_feature owner ⟨store, faults⟩ intact feature
      calm
    refine ⟨facts.1, ?_⟩
    rw [facts.2]
    exact (replaced_withoutOwner now owner store intact feature).1

/-- In every state the daemon reaches, the built-in collections are present
as defined, only curated collections have members, and no owner's replacement
or removal touches what belongs to another. -/
theorem collections_owned
    (created : Instant)
    (calls : List (Request × List Bool)) :
    ((serving created).run calls).Intact ∧
      ((serving created).run calls).OwnersApart := by
  have intact : ((serving created).run calls).Intact :=
    (serving created).run_induction Intact (intact_migrated created)
      (fun store call kept => intact_serve store kept call.1 call.2) calls
  exact ⟨intact, ownersApart_of_intact _ intact⟩

end CollectionStore
end Daemon
end Hearthdeck
