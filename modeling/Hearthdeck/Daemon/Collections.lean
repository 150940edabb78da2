import Hearthdeck.Daemon.Activity
import Hearthdeck.Foundation.Database
import Mathlib.Data.Char
import Mathlib.Data.List.Lex
import Mathlib.Data.Prod.Lex
import Mathlib.Data.String.Basic

/-!
# Dashboard collections

The two tables behind the rails of the dashboard: `collections`, one row per
rail, and `collection_items`, one row per member of a curated rail.  A member
refers to its collection and goes with it when the collection is deleted, and
a trigger keeps the built-in collections from being deleted at all.

A rail is derived from a rule or curated by a person.  Features replace the
rails they own as a whole, a person edits the members of the curated rails,
and every reading puts the built-in rails back as they are defined here.
-/

namespace Hearthdeck
namespace Daemon

open Foundation

/-- Whether the members of a collection are stored or derived. -/
inductive CollectionKind
  | membership
  | rule
  deriving DecidableEq, Repr

/-- What a collection is to the dashboard. -/
inductive CollectionRole
  | none
  | favorite
  | playLater
  deriving DecidableEq, Repr

/-- A row of `collections`, below its `slug`. -/
structure CollectionRow where
  kind : CollectionKind
  rule : Option String
  role : CollectionRole
  position : Int
  createdAt : Instant
  owner : String
  name : Option String
  deriving DecidableEq, Repr

/-- A row of `collection_items`, below its collection and its item. -/
structure CollectionItemRow where
  name : String
  icon : Option String
  position : Int
  createdAt : Instant
  deriving DecidableEq, Repr

/-- A card of a rail, as a client sends it and as a reading returns it. -/
structure CollectionItem where
  itemId : String
  name : String
  icon : Option String
  deriving DecidableEq, Repr

/-- A collection as a reading returns it. -/
structure Collection where
  slug : String
  kind : CollectionKind
  rule : Option String
  role : CollectionRole
  position : Int
  owner : String
  name : Option String
  items : List CollectionItem
  deriving DecidableEq, Repr

/-- A collection as the feature that owns it defines it. -/
structure OwnedCollection where
  slug : String
  name : Option String
  rule : String
  deriving DecidableEq, Repr

/-- The tables of the collections, and whether the trigger that keeps the
built-in ones is in place. -/
structure CollectionStore where
  collections : Table String CollectionRow
  items : Table (String × String) CollectionItemRow
  builtinsKept : Bool

/-- A failure of the store: a failed statement in its context, or a request
the store does not serve. -/
inductive StoreError
  | sql (context : String) (cause : SqlError)
  | refused (message : String)
  deriving DecidableEq, Repr

/-- Why a person's edit failed. -/
inductive CurationError
  | notFound
  | readOnly
  | storage (cause : StoreError)
  deriving DecidableEq, Repr

namespace CollectionStore

def ownerSystem : String := "system"

def ownerUser : String := "user"

def ownerStremio : String := "stremio"

def ruleLastPlayed : String := "last_played"

def ruleContinueWatching : String := "stremio:continue-watching"

def ruleNewArrivals : String := "stremio:new-arrivals"

/-- One built-in rail: its slug, how its members are derived, and where it
sorts. -/
structure Builtin where
  slug : String
  kind : CollectionKind
  rule : Option String
  role : CollectionRole
  position : Int
  owner : String

/-- The rails the dashboard always has. -/
def builtins : List Builtin :=
  [{ slug := "last-played"
     kind := .rule
     rule := some ruleLastPlayed
     role := .none
     position := 0
     owner := ownerSystem },
   { slug := "favorites"
     kind := .membership
     rule := none
     role := .favorite
     position := 1
     owner := ownerUser },
   { slug := "play-later"
     kind := .membership
     rule := none
     role := .playLater
     position := 2
     owner := ownerUser },
   { slug := ruleContinueWatching
     kind := .rule
     rule := some ruleContinueWatching
     role := .none
     position := 100
     owner := ownerStremio },
   { slug := ruleNewArrivals
     kind := .rule
     rule := some ruleNewArrivals
     role := .none
     position := 99
     owner := ownerStremio }]

/-! ## Statements -/

/-- The row of a built-in rail. -/
def Builtin.row
    (builtin : Builtin)
    (createdAt : Instant) : CollectionRow where
  kind := builtin.kind
  rule := builtin.rule
  role := builtin.role
  position := builtin.position
  createdAt := createdAt
  owner := builtin.owner
  name := none

/-- The upsert of one built-in rail: everything but the time of creation is
put back as defined. -/
def writeBuiltin
    (now : Instant)
    (builtin : Builtin)
    (store : CollectionStore) : CollectionStore :=
  let createdAt :=
    match store.collections.lookup builtin.slug with
    | none => now
    | some row => row.createdAt
  { store with
    collections :=
      store.collections.insert builtin.slug (builtin.row createdAt) }

/-- `CREATE TRIGGER IF NOT EXISTS builtin_collections_are_kept`. -/
def protectBuiltins (store : CollectionStore) : CollectionStore :=
  { store with builtinsKept := true }

/-- Whether a slug is that of a built-in rail. -/
def isBuiltin (slug : String) : Bool :=
  builtins.any fun builtin => builtin.slug == slug

/-- Whether a collection exists and is owned by the given owner. -/
def ownedBy
    (store : CollectionStore)
    (owner slug : String) : Bool :=
  (store.collections.lookup slug).any fun row => row.owner == owner

/-- `DELETE FROM collections WHERE owner = ?`, with the trigger in front of it
and the members of the deleted collections behind it. -/
def deleteOwned
    (owner : String)
    (store : CollectionStore) : Except SqlError CollectionStore :=
  if store.builtinsKept = true ∧
      0 < store.collections.count fun slug row =>
        row.owner == owner && isBuiltin slug then
    .error (.aborted "built-in collections cannot be deleted")
  else
    .ok
      { store with
        collections := store.collections.filter fun _ row =>
          row.owner != owner
        items := store.items.filter fun key _ =>
          !store.ownedBy owner key.1 }

/-- The row of a feature's collection, by its place in the feature's list. -/
def ownedRow
    (now : Instant)
    (owner : String)
    (collection : OwnedCollection)
    (index : Nat) : CollectionRow where
  kind := .rule
  rule := some collection.rule
  role := .none
  position := 100 + index
  createdAt := now
  owner := owner
  name := collection.name

/-- `INSERT INTO collections`, which the primary key refuses for a slug that
is taken. -/
def insertOwned
    (now : Instant)
    (owner : String)
    (placed : OwnedCollection × Nat)
    (store : CollectionStore) : Except SqlError CollectionStore :=
  match store.collections.lookup placed.1.slug with
  | some _ => .error .constraint
  | none =>
      .ok
        { store with
          collections := store.collections.insert placed.1.slug
            (ownedRow now owner placed.1 placed.2) }

/-- The positions taken in a collection. -/
def positions
    (store : CollectionStore)
    (slug : String) : List Int :=
  (store.items.entries.filter fun entry => entry.1.1 == slug).map
    fun entry => entry.2.position

/-- `SELECT COALESCE(MAX(position), -1) + 1`. -/
def nextPosition
    (store : CollectionStore)
    (slug : String) : Int :=
  (store.positions slug).max?.getD (-1) + 1

/-- `INSERT INTO collection_items … ON CONFLICT DO UPDATE`: a new member goes
to the next position, a present one gets the new name and icon.  A collection
that does not exist is refused by the foreign key. -/
def insertItem
    (now : Instant)
    (slug : String)
    (item : CollectionItem)
    (store : CollectionStore) : Except SqlError CollectionStore :=
  match store.collections.lookup slug with
  | none => .error .constraint
  | some _ =>
      let row :=
        match store.items.lookup (slug, item.itemId) with
        | some row => { row with name := item.name, icon := item.icon }
        | none =>
            { name := item.name
              icon := item.icon
              position := store.nextPosition slug
              createdAt := now }
      .ok { store with items := store.items.insert (slug, item.itemId) row }

/-- `DELETE FROM collection_items`. -/
def deleteItem
    (slug itemId : String)
    (store : CollectionStore) : CollectionStore :=
  { store with items := store.items.erase (slug, itemId) }

/-- The collections in the order of the dashboard: by position, then by
slug. -/
def orderedCollections
    (store : CollectionStore) : List (Sigma fun _ : String => CollectionRow) :=
  store.collections.orderBy fun slug row => toLex (row.position, slug)

/-- The members of all collections in order: by collection, then by position,
then by the time they were added. -/
def orderedItems (store : CollectionStore) :
    List (Sigma fun _ : String × String => CollectionItemRow) :=
  store.items.orderBy fun key row =>
    toLex (key.1, toLex (row.position, row.createdAt))

/-! ## Operations -/

/-- `seed_builtin`. -/
def seedBuiltin (now : Instant) :
    Query StoreError CollectionStore PUnit := do
  builtins.forM fun builtin =>
    Query.execute (.sql ("seed built-in collection " ++ builtin.slug))
      fun store => .ok (store.writeBuiltin now builtin)
  Query.execute (.sql "protect built-in collections")
    fun store => .ok store.protectBuiltins

/-- The card of a stored member. -/
def card
    (entry : Sigma fun _ : String × String => CollectionItemRow) :
    CollectionItem where
  itemId := entry.1.2
  name := entry.2.name
  icon := entry.2.icon

/-- The cards of one collection among the members of all. -/
def cardsOf
    (slug : String)
    (items : List (Sigma fun _ : String × String => CollectionItemRow)) :
    List CollectionItem :=
  (items.filter fun entry => entry.1.1 == slug).map card

/-- A collection with its cards. -/
def collectionOf
    (items : List (Sigma fun _ : String × String => CollectionItemRow))
    (entry : Sigma fun _ : String => CollectionRow) : Collection where
  slug := entry.1
  kind := entry.2.kind
  rule := entry.2.rule
  role := entry.2.role
  position := entry.2.position
  owner := entry.2.owner
  name := entry.2.name
  items := cardsOf entry.1 items

/-- `CollectionStore::list`. -/
def list (now : Instant) :
    Query StoreError CollectionStore (List Collection) := do
  seedBuiltin now
  let collections ←
    Query.select (.sql "list collections") orderedCollections
  let items ← Query.select (.sql "list collection items") orderedItems
  pure (collections.map (collectionOf items))

/-- `CollectionStore::collection`. -/
def collection
    (now : Instant)
    (slug : String) :
    Query StoreError CollectionStore (Option Collection) := do
  let collections ← list now
  pure (collections.find? fun one => one.slug == slug)

/-- `CollectionStore::accepts_items`: whether a collection exists and a person
may add items to it. -/
def acceptsItems (slug : String) :
    Query StoreError CollectionStore (Option Bool) :=
  Query.select (.sql "read collection owner") fun store =>
    (store.collections.lookup slug).map fun row =>
      row.kind == .membership && row.owner == ownerUser

/-- `CollectionStore::add_item`. -/
def addItem
    (now : Instant)
    (slug : String)
    (item : CollectionItem) : Query StoreError CollectionStore PUnit :=
  Query.execute (.sql "add collection item") (insertItem now slug item)

/-- `CollectionStore::remove_item`, answering whether the item was there. -/
def removeItem (slug itemId : String) :
    Query StoreError CollectionStore Bool :=
  Query.statement (.sql "remove collection item") fun store =>
    .ok ((store.items.lookup (slug, itemId)).isSome,
      store.deleteItem slug itemId)

/-- A storage failure within a person's edit. -/
def stored
    {Value : Type}
    (query : Query StoreError CollectionStore Value) :
    Query CurationError CollectionStore Value :=
  EStateM.adaptExcept .storage query

/-- `CollectionStore::ensure_curated`. -/
def ensureCurated (slug : String) :
    Query CurationError CollectionStore PUnit := do
  match ← stored (acceptsItems slug) with
  | none => throw .notFound
  | some false => throw .readOnly
  | some true => pure ⟨⟩

/-- `CollectionStore::curated_snapshot`. -/
def curatedSnapshot
    (now : Instant)
    (slug : String) : Query CurationError CollectionStore Collection := do
  match ← stored (collection now slug) with
  | none => throw .notFound
  | some found => pure found

/-- `CollectionStore::add_curated_item`. -/
def addCuratedItem
    (now : Instant)
    (slug : String)
    (item : CollectionItem) :
    Query CurationError CollectionStore Collection := do
  ensureCurated slug
  stored (addItem now slug item)
  curatedSnapshot now slug

/-- `CollectionStore::remove_curated_item`. -/
def removeCuratedItem
    (now : Instant)
    (slug itemId : String) :
    Query CurationError CollectionStore Collection := do
  ensureCurated slug
  let _ ← stored (removeItem slug itemId)
  curatedSnapshot now slug

/-- `is_feature_owner`: the owners of the built-in rails are not features. -/
def isFeatureOwner (owner : String) : Bool :=
  !(owner == ownerSystem || owner == ownerUser || owner == ownerStremio)

/-- The transaction of `replace_owned`. -/
def replaceStatements
    (now : Instant)
    (owner : String)
    (replaceWith : List OwnedCollection) :
    Query StoreError CollectionStore PUnit := do
  Query.execute (.sql "clear owned collections") (deleteOwned owner)
  replaceWith.zipIdx.forM fun placed =>
    Query.execute (.sql ("write owned collection " ++ placed.1.slug))
      (insertOwned now owner placed)

/-- `CollectionStore::replace_owned`. -/
def replaceOwned
    (now : Instant)
    (owner : String)
    (replaceWith : List OwnedCollection) :
    Query StoreError CollectionStore PUnit :=
  if isFeatureOwner owner = true then
    Query.transaction (.sql "begin collection replacement")
      (.sql "commit collection replacement")
      (replaceStatements now owner replaceWith)
  else
    throw (.refused
      (owner ++ " owns built-in collections, which are not replaceable"))

/-- `CollectionStore::remove_owned`, answering how many collections went. -/
def removeOwned (owner : String) : Query StoreError CollectionStore Nat :=
  if isFeatureOwner owner = true then
    Query.statement (.sql "remove owned collections") fun store =>
      (deleteOwned owner store).map fun after =>
        (store.collections.count fun _ row => row.owner == owner, after)
  else
    throw (.refused
      (owner ++ " owns built-in collections, which are not removable"))

/-- The tables of a new database, before anything is seeded. -/
def empty : CollectionStore where
  collections := ∅
  items := ∅
  builtinsKept := false

/-- The tables a migrated new database starts with. -/
def migrated (now : Instant) : CollectionStore :=
  (seedBuiltin now).storeAfter ⟨empty, []⟩

/-! ## Reading -/

/-- The store with the built-in rails put back as defined. -/
def seeded
    (now : Instant)
    (store : CollectionStore) : CollectionStore :=
  (builtins.foldl (fun store builtin => store.writeBuiltin now builtin)
    store).protectBuiltins

@[simp] theorem items_seeded
    (now : Instant)
    (store : CollectionStore) :
    (store.seeded now).items = store.items := rfl

theorem performs_seedBuiltin (now : Instant) :
    Query.Performs (seedBuiltin now) 6
      (fun store => .ok (store.seeded now)) := by
  have writes := Query.performs_forM
    (fun builtin : Builtin =>
      StoreError.sql ("seed built-in collection " ++ builtin.slug))
    builtins fun builtin store => .ok (writeBuiltin now builtin store)
  have protects := Query.performs_execute
    (StoreError.sql "protect built-in collections")
    fun store => .ok (protectBuiltins store)
  exact writes.bind protects

/-- A reading that meets no fault. -/
theorem run_list
    (now : Instant)
    (store : CollectionStore) :
    (list now).run ⟨store, []⟩ =
      .ok ((store.seeded now).orderedCollections.map
          (collectionOf store.orderedItems))
        ⟨store.seeded now, []⟩ := by
  have seed := (performs_seedBuiltin now).done ⟨store, []⟩ _
    (by simp [Query.Faulty]) rfl
  rw [list, EStateM.run_bind, seed]
  rfl

theorem lookup_writeBuiltin
    (now : Instant)
    (builtin : Builtin)
    (store : CollectionStore)
    (slug : String) :
    (store.writeBuiltin now builtin).collections.lookup slug =
      if slug = builtin.slug then
        some (builtin.row
          (match store.collections.lookup builtin.slug with
          | none => now
          | some row => row.createdAt))
      else
        store.collections.lookup slug :=
  Table.lookup_insert_eq_ite store.collections builtin.slug slug _

/-- Seeding never loses a collection. -/
theorem isSome_lookup_seeded
    (now : Instant)
    (store : CollectionStore)
    (slug : String)
    (known : (store.collections.lookup slug).isSome = true) :
    ((store.seeded now).collections.lookup slug).isSome = true := by
  have written : ∀ (seeds : List Builtin) (store : CollectionStore),
      (store.collections.lookup slug).isSome = true →
      ((seeds.foldl (fun store builtin => store.writeBuiltin now builtin)
        store).collections.lookup slug).isSome = true := by
    intro seeds
    induction seeds with
    | nil => exact fun _ known => known
    | cons builtin seeds inductionHypothesis =>
        intro store known
        apply inductionHypothesis
        rw [lookup_writeBuiltin]
        split_ifs
        · rfl
        · exact known
  exact written builtins store known

/-- A reading names every collection once. -/
theorem nodup_slugs_orderedCollections
    (store : CollectionStore)
    (items : List (Sigma fun _ : String × String => CollectionItemRow)) :
    ((store.orderedCollections.map (collectionOf items)).map
      Collection.slug).Nodup := by
  have keys : (store.collections.entries.map Sigma.fst).Nodup :=
    store.collections.nodupKeys
  have permuted := (Table.orderBy_perm
    (fun slug (row : CollectionRow) => toLex (row.position, slug))
    store.collections).map Sigma.fst
  rw [List.map_map]
  exact permuted.nodup_iff.mpr keys

end CollectionStore
end Daemon
end Hearthdeck
