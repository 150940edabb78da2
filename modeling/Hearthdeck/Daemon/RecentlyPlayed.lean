import Hearthdeck.Daemon.Plays
import Hearthdeck.Daemon.RuleService

/-!
# Recently played

The dashboard has a rail of the games that were played last.  The store behind
it has one row for each item, which every launch writes over, and the rail is
read from the rows of games.

After any plays, and whatever else the dashboard's readings run into, the rail
shows the games by their latest launches.
-/

namespace Hearthdeck
namespace Daemon

open Foundation Frontend Protocol Bridge

namespace Plays

/-- The launch of an item in an event that was accepted and recorded. -/
def launchOf (itemId : String) : Event → Option (ActivityEntry × Instant)
  | .launched request entry now =>
      if entry.id = itemId ∧ (launchedSession request).isSome = true then
        some (entry, now)
      else
        none
  | .closed _ _ => none
  | .restarted => none

/-- The launches of an item, oldest first. -/
def launchesOf
    (events : List Event)
    (itemId : String) : List (ActivityEntry × Instant) :=
  events.filterMap (launchOf itemId)

/-- The plays are those of the games that were launched last. -/
structure RecentlyPlayed
    (events : List Event)
    (limit : Nat)
    (plays : List RecentActivity) : Prop where
  bounded : plays.length ≤ limit
  /-- No game is there twice. -/
  distinct : (plays.map fun play => play.entry.id).Nodup
  newestFirst : plays.Pairwise fun first second =>
    second.lastLaunchedAt ≤ first.lastLaunchedAt
  /-- Each is a game as its latest launch found it, with its launches
  counted. -/
  latest : ∀ play ∈ plays,
    isGameEntry play.entry = true ∧
      (launchesOf events play.entry.id).getLast? =
        some (play.entry, play.lastLaunchedAt) ∧
      play.launchCount = (launchesOf events play.entry.id).length
  /-- A game that is not there was launched before all that are, and there is
  no room for it. -/
  complete : ∀ itemId entry now,
    (launchesOf events itemId).getLast? = some (entry, now) →
    isGameEntry entry = true →
      (∃ play ∈ plays, play.entry = entry) ∨
        plays.length = limit ∧ ∀ play ∈ plays, now ≤ play.lastLaunchedAt

/-! ## The row of an item -/

/-- The row launches leave. -/
def rowOf
    (launches : List (ActivityEntry × Instant)) : Option LaunchActivity :=
  launches.getLast?.map fun launch =>
    { snapshot := launch.1
      lastLaunchedAt := launch.2
      launchCount := launches.length }

theorem rowOf_concat
    (launches : List (ActivityEntry × Instant))
    (entry : ActivityEntry)
    (now : Instant) :
    rowOf (launches ++ [(entry, now)]) =
      some
        { snapshot := entry
          lastLaunchedAt := now
          launchCount :=
            match rowOf launches with
            | none => 1
            | some row => row.launchCount + 1 } := by
  unfold rowOf
  rw [List.getLast?_concat, Option.map_some, List.length_append]
  cases last : launches.getLast? with
  | none =>
      rw [List.getLast?_eq_none_iff] at last
      rw [last]
      rfl
  | some launch => rfl

/-- A launch is one of its item, and of no other. -/
theorem launchesOf_concat
    (events : List Event)
    (event : Event)
    (itemId : String) :
    launchesOf (events ++ [event]) itemId =
      launchesOf events itemId ++ (launchOf itemId event).toList := by
  unfold launchesOf
  rw [List.filterMap_append]
  cases launched : launchOf itemId event with
  | none => rw [List.filterMap_cons_none launched]; rfl
  | some launch => rw [List.filterMap_cons_some launched]; rfl

theorem lookup_launchActivity_closed
    (elapsed : Instant → Instant → Int)
    (store : ActivityStore)
    (sessionId : String)
    (now : Instant) :
    (record elapsed store (.closed sessionId now)).launchActivity =
      store.launchActivity := by
  rw [record, ActivityStore.sessionEnded]
  split
  case h_1 unknown => rfl
  case h_2 row found =>
      split
      case isTrue running => rfl
      case isFalse ended => rfl

/-- A row is what the launches of its item left. -/
theorem lookup_launchActivity_run
    (elapsed : Instant → Instant → Int)
    (events : List Event)
    (itemId : String) :
    ((journal elapsed).run events).launchActivity.lookup itemId =
      rowOf (launchesOf events itemId) := by
  induction events using List.reverseRecOn with
  | nil => rfl
  | append_singleton events event inductionHypothesis =>
      rw [Machine.run_concat, launchesOf_concat]
      change (record elapsed _ event).launchActivity.lookup itemId = _
      cases event with
      | launched request entry now =>
          rw [record, launchOf]
          cases launchedSession request with
          | none =>
              rw [if_neg (by simp), Option.toList_none, List.append_nil]
              exact inductionHypothesis
          | some session =>
              change AList.lookup itemId (AList.insert _ _ _) = _
              rw [Table.lookup_insert_eq_ite]
              by_cases same : itemId = entry.id
              · subst same
                rw [if_pos rfl, if_pos ⟨rfl, rfl⟩, Option.toList_some,
                  rowOf_concat, ← inductionHypothesis]
                rfl
              · rw [if_neg same, if_neg fun own => same own.1.symm,
                  Option.toList_none, List.append_nil]
                exact inductionHypothesis
      | closed sessionId now =>
          rw [lookup_launchActivity_closed, launchOf, Option.toList_none,
            List.append_nil]
          exact inductionHypothesis
      | restarted =>
          rw [launchOf, Option.toList_none, List.append_nil]
          exact inductionHypothesis

theorem id_of_mem_launchesOf
    {events : List Event}
    {itemId : String}
    {launch : ActivityEntry × Instant}
    (member : launch ∈ launchesOf events itemId) :
    launch.1.id = itemId := by
  obtain ⟨event, _, launched⟩ := List.mem_filterMap.mp member
  cases event with
  | launched request entry now =>
      rw [launchOf, Option.ite_none_right_eq_some] at launched
      obtain ⟨⟨same, _⟩, launched⟩ := launched
      cases launched
      exact same
  | closed sessionId now => cases launched
  | restarted => cases launched

theorem nodup_gameRows (store : ActivityStore) :
    (store.gameRows.map Sigma.fst).Nodup := by
  have permuted := (Table.orderBy_perm
    (fun _ row => OrderDual.toDual row.lastLaunchedAt)
    (store.launchActivity.filter fun _ row => isGameEntry row.snapshot)).map
      Sigma.fst
  exact permuted.nodup_iff.mpr (AList.nodupKeys _)

section Listing

variable (elapsed : Instant → Instant → Int) (events : List Event)

/-- The rows of games are those whose latest launch was one of a game. -/
theorem mem_gameRows
    (row : Sigma fun _ : String => LaunchActivity) :
    row ∈ ((journal elapsed).run events).gameRows ↔
      rowOf (launchesOf events row.1) = some row.2 ∧
        isGameEntry row.2.snapshot = true := by
  rw [ActivityStore.gameRows, Table.mem_orderBy, Table.lookup_filter,
    Option.filter_eq_some_iff, lookup_launchActivity_run]

/-- What the row of a game says of its launches. -/
theorem launches_of_mem_gameRows
    {row : Sigma fun _ : String => LaunchActivity}
    (member : row ∈ ((journal elapsed).run events).gameRows) :
    row.2.snapshot.id = row.1 ∧
      isGameEntry row.2.snapshot = true ∧
      (launchesOf events row.1).getLast? =
        some (row.2.snapshot, row.2.lastLaunchedAt) ∧
      row.2.launchCount = (launchesOf events row.1).length := by
  obtain ⟨made, game⟩ := (mem_gameRows elapsed events row).mp member
  obtain ⟨⟨entry, now⟩, last, made⟩ := Option.map_eq_some_iff.mp made
  have own := id_of_mem_launchesOf (List.mem_of_getLast? last)
  rw [← made] at game ⊢
  exact ⟨own, game, last, rfl⟩

/-- After any plays the store lists the games that were played last. -/
theorem recentlyPlayed_recentGames
    {limit : Nat}
    (least : 1 ≤ limit)
    (most : limit ≤ 50) :
    RecentlyPlayed events limit
      (((journal elapsed).run events).recentGames limit) := by
  have clamped : max 1 (min limit 50) = limit := by omega
  unfold ActivityStore.recentGames
  rw [clamped]
  have launches := @launches_of_mem_gameRows elapsed events
  have listed : ∀ row ∈ ((journal elapsed).run events).gameRows.take limit,
      row ∈ ((journal elapsed).run events).gameRows :=
    fun row member => List.mem_of_mem_take member
  have ordered := Table.pairwise_orderBy
    (fun _ row => OrderDual.toDual row.lastLaunchedAt)
    (((journal elapsed).run events).launchActivity.filter fun _ row =>
      isGameEntry row.snapshot)
  constructor
  case bounded =>
      rw [List.length_map]
      exact List.length_take_le limit _
  case distinct =>
      have same : ∀ row ∈ ((journal elapsed).run events).gameRows.take limit,
          (ActivityStore.recentActivityFromRow row.2).entry.id = row.1 :=
        fun row among => (launches (listed row among)).1
      rw [List.map_map]
      refine (List.map_congr_left same).symm ▸ ?_
      exact (nodup_gameRows _).sublist ((List.take_sublist _ _).map _)
  case newestFirst =>
      rw [List.pairwise_map]
      exact ordered.sublist (List.take_sublist _ _)
  case latest =>
      intro play member
      obtain ⟨row, among, rfl⟩ := List.mem_map.mp member
      obtain ⟨own, game, last, count⟩ := launches (listed row among)
      rw [← own] at last count
      exact ⟨game, last, count⟩
  case complete =>
      intro itemId entry now last game
      have member : (⟨itemId, ⟨entry, now, (launchesOf events itemId).length⟩⟩ :
          Sigma fun _ : String => LaunchActivity) ∈
          ((journal elapsed).run events).gameRows := by
        rw [mem_gameRows]
        exact ⟨congrArg (Option.map _) last, game⟩
      rcases mem_take_or_behind ordered limit member with kept | ⟨full, later⟩
      · exact Or.inl ⟨_, List.mem_map_of_mem kept, rfl⟩
      · refine Or.inr ⟨by rw [List.length_map]; exact full, ?_⟩
        intro play among
        obtain ⟨row, kept, rfl⟩ := List.mem_map.mp among
        exact later row kept

end Listing

end Plays

namespace RuleService

/-- The sources of a composition, with what the activity store answers. -/
def Sources.withPlays (sources : Sources) (store : ActivityStore) : Sources :=
  { sources with recentGames := fun limit => .ok (store.recentGames limit) }

theorem itemsOf_lastPlayed
    (sources : Sources)
    (store : ActivityStore)
    {collection : Collection}
    (owner : collection.owner = CollectionStore.ownerSystem)
    (rule : collection.rule = some CollectionStore.ruleLastPlayed) :
    itemsOf (sources.withPlays store) collection =
      (store.recentGames itemLimit).map playedCollectionItem := by
  have resolved : resolve (sources.withPlays store) collection =
      .ok (some ((store.recentGames itemLimit).map playedCollectionItem)) := by
    unfold resolve
    rw [owner, rule, if_neg (by decide), if_neg (by simp [
      CollectionStore.ownerSystem, CollectionStore.ownerStremio]),
      if_neg (by simp [CollectionStore.ownerSystem,
        CollectionStore.ownerStremio]), if_pos ⟨rfl, rfl⟩]
    rfl
  rw [itemsOf, resolved]

/-- A reading lists one collection of recently played games, as defined. -/
theorem exists_lastPlayed
    (store : CollectionStore)
    (now : Instant) :
    ∃ collections,
      (CollectionStore.list now).run ⟨store, []⟩ =
          .ok collections ⟨store.seeded now, []⟩ ∧
        (collections.map Collection.slug).Nodup ∧
        ∃ collection ∈ collections, collection.slug = "last-played" ∧
          collection.owner = CollectionStore.ownerSystem ∧
          collection.rule = some CollectionStore.ruleLastPlayed := by
  obtain ⟨createdAt, stored⟩ := CollectionStore.defined_seeded now store _
    (List.mem_cons_self : _ ∈ CollectionStore.builtins)
  have listed := (Table.mem_orderBy
    (fun slug (row : CollectionRow) => toLex (row.position, slug))
    (store.seeded now).collections ⟨_, _⟩).mpr stored
  exact ⟨_, CollectionStore.run_list now store,
    CollectionStore.nodup_slugs_orderedCollections _ _, _,
    List.mem_map_of_mem listed, rfl, rfl, rfl⟩

/-- Whatever is stored of the collections, whatever was played, and whatever
the other readings of the dashboard run into: a reading of the collections
composes one rail under the name of recently played games, and it shows the
games that were played last, as many as there is room for. -/
theorem dashboard_shows_recently_played
    (elapsed : Instant → Instant → Int)
    (events : List Plays.Event)
    (sources : Sources)
    (store : CollectionStore)
    (now : Instant) :
    ∃ collections after rail,
      (CollectionStore.list now).run ⟨store, []⟩ =
          .ok collections ⟨after, []⟩ ∧
        rail ∈ compose
          (sources.withPlays ((Plays.journal elapsed).run events))
          collections ∧
        rail.1.slug = "last-played" ∧
        (∀ other ∈ compose
          (sources.withPlays ((Plays.journal elapsed).run events))
          collections, other.1.slug = "last-played" → other = rail) ∧
        ∃ plays, Plays.RecentlyPlayed events itemLimit plays ∧
          rail.2.map (fun item => (item.itemId, item.name, item.played)) =
            plays.map fun play =>
              (play.entry.id, play.entry.title, some play) := by
  obtain ⟨collections, ran, distinct, collection, member, slug, owner, rule⟩ :=
    exists_lastPlayed store now
  refine ⟨collections, _, _, ran, List.mem_map_of_mem member, slug, ?_,
    _, Plays.recentlyPlayed_recentGames elapsed events (by decide)
      (by decide), ?_⟩
  · intro other among same
    obtain ⟨another, listed, rfl⟩ := List.mem_map.mp among
    rw [List.inj_on_of_nodup_map distinct listed member
      (same.trans slug.symm)]
  · dsimp only
    rw [itemsOf_lastPlayed sources _ owner rule, List.map_map, List.map_map]
    rfl

end RuleService
end Daemon
end Hearthdeck
