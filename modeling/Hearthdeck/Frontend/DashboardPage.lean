import Hearthdeck.Frontend.DashboardFocus

/-!
# The rails of the dashboard

A rail is drawn from a collection, from the platforms of the server or, when
there is nothing else, from the library.  What is drawn, how many cards the
pad walks, what a card is called and what confirming it asks for are four
functions of the same sources, and this module says that they agree.

The words of the user's language and what becomes of a reference to artwork
are parameters.
-/

namespace Hearthdeck
namespace Frontend
namespace Dashboard

/-- `DASHBOARD_RAIL_TILES`. -/
def dashboardRailTiles : Nat := 12

/-- `NEW_ARRIVALS_COLLECTION`. -/
def newArrivalsCollection : String := "stremio:new-arrivals"

/-- A card of a collection. -/
structure CollectionItem where
  itemId : String
  name : String
  icon : Option String
  background : Option String
  deriving DecidableEq, Repr

/-- A collection as the daemon composed it. -/
structure Collection where
  slug : String
  name : Option String
  items : List CollectionItem
  deriving DecidableEq, Repr

/-- A console of the server. -/
structure RetroConsole where
  id : Int
  label : String
  artwork : Option String
  deriving DecidableEq, Repr

/-- How artwork is turned. -/
inductive Orientation
  | asIs
  | portrait
  deriving DecidableEq, Repr

/-- What the artwork of a card is resolved from. -/
inductive Artwork
  | reference (path : Option String) (size : Nat) (orientation : Orientation)
  | entryIcon (icon : IconSource) (size : Nat) (orientation : Orientation)
  deriving DecidableEq, Repr

/-- What a card asks for. -/
inductive Message
  | cardPressed (id title : String)
  | consolePressed (platformId : Int)
  deriving DecidableEq, Repr

/-- `Card`. -/
structure Card where
  id : String
  label : String
  icon : Artwork
  background : Option Artwork
  noBorder : Bool
  message : Option Message
  deriving DecidableEq, Repr

/-- `Card::new`. -/
def Card.new
    (id label : String)
    (icon : Artwork)
    (message : Option Message) : Card where
  id := id
  label := label
  icon := icon
  background := none
  noBorder := false
  message := message

/-- `with_background`. -/
def Card.withBackground (card : Card) (background : Option Artwork) : Card :=
  { card with
    noBorder := background.isSome
    background := background }

/-- `Shelf`. -/
structure Shelf where
  consoles : Bool
  title : String
  cards : List Card
  deriving DecidableEq, Repr

/-- One rail, named by what it is drawn from. -/
inductive Rail
  | collection (collection : Collection)
  | consoles
  | library
  deriving DecidableEq, Repr

/-- What the dashboard is drawn from. -/
structure Sources where
  collections : List Collection
  consolePlatforms : List RetroConsole
  entries : List LibraryItem
  /-- The sizes artwork is resolved at. -/
  tileSize : Nat
  consoleTileSize : Nat

/-- `dashboard_card_id`. -/
def dashboardCardId (slug : String) (index : Nat) : String :=
  "dashboard-card-" ++ slug ++ "-" ++ toString index

namespace Rail

def name : Rail → String
  | .collection held => held.slug
  | .consoles => "consoles"
  | .library => "library"

/-- `card_id`. -/
def cardId (rail : Rail) (index : Nat) : String :=
  dashboardCardId rail.name index

end Rail

/-- `rail_title`; the words of the user's language are looked up by key. -/
def railTitle (fl : String → String) (collection : Collection) : String :=
  if collection.slug = "favorites" then fl "favorites"
  else if collection.slug = "play-later" then fl "play-later"
  else if collection.slug = "last-played" then fl "recently-played"
  else if collection.slug = "stremio:continue-watching" then
    fl "continue-watching"
  else if collection.slug = newArrivalsCollection then fl "new-arrivals"
  else collection.name.getD collection.slug

namespace Sources

/-- The games of the library. -/
def games (page : Sources) : List LibraryItem :=
  page.entries.filter fun entry => entry.inSection = .pcGames

/-- `dashboard_rails`. -/
def dashboardRails (page : Sources) : List Rail :=
  let shown := page.collections.filter fun collection =>
    !collection.items.isEmpty
  let (arrivals, rest) := shown.partition fun collection =>
    collection.slug = newArrivalsCollection
  let rails := arrivals.map Rail.collection ++ rest.map Rail.collection
  let rails :=
    if page.consolePlatforms.isEmpty then rails else rails ++ [.consoles]
  if rails.isEmpty then [.library] else rails

/-- `consoles_shelf`. -/
def consolesShelf (fl : String → String) (page : Sources) : Shelf where
  consoles := true
  title := fl "consoles"
  cards := (page.consolePlatforms.take dashboardRailTiles).zipIdx.map
    fun (platform, index) =>
      Card.new (Rail.consoles.cardId index) platform.label
        (.reference platform.artwork page.consoleTileSize .asIs)
        (some (.consolePressed platform.id))

/-- `collection_shelf`. -/
def collectionShelf
    (fl : String → String)
    (page : Sources)
    (collection : Collection) : Shelf where
  consoles := false
  title := railTitle fl collection
  cards := (collection.items.take dashboardRailTiles).zipIdx.map
    fun (item, index) =>
      (Card.new ((Rail.collection collection).cardId index) item.name
        (.reference item.icon page.tileSize .portrait)
        (some (.cardPressed item.itemId item.name))).withBackground
          (item.background.map fun background =>
            .reference (some background) page.tileSize .asIs)

/-- The cards of `library_shelf`. -/
def libraryCards (page : Sources) : List Card :=
  (page.games.take dashboardRailTiles).zipIdx.map fun (entry, index) =>
    Card.new (Rail.library.cardId index) entry.name
      (.entryIcon entry.icon page.tileSize .portrait)
      (some (.cardPressed entry.id entry.name))

/-- `library_shelf`. -/
def libraryShelf (fl : String → String) (page : Sources) : Option Shelf :=
  if page.libraryCards.isEmpty then
    none
  else
    some
      { consoles := false
        title := fl "all-games"
        cards := page.libraryCards }

/-- The shelf of one rail, if it is drawn. -/
def shelf (fl : String → String) (page : Sources) : Rail → Option Shelf
  | .collection collection => some (page.collectionShelf fl collection)
  | .consoles => some (page.consolesShelf fl)
  | .library => page.libraryShelf fl

/-- `dashboard_shelves`. -/
def dashboardShelves (fl : String → String) (page : Sources) : List Shelf :=
  page.dashboardRails.filterMap (page.shelf fl)

/-- `dashboard_rail_length`. -/
def dashboardRailLength (page : Sources) (rail : Rail) : Nat :=
  let count :=
    match rail with
    | .collection collection => collection.items.length
    | .consoles => page.consolePlatforms.length
    | .library => page.games.length
  min count dashboardRailTiles

/-- `dashboard_rail_lengths`. -/
def dashboardRailLengths (page : Sources) : List Nat :=
  (page.dashboardRails.map page.dashboardRailLength).filter (0 < ·)

/-- `dashboard_card_id_at`. -/
def dashboardCardIdAt (page : Sources) (rail card : Nat) : Option String := do
  let rail ← page.dashboardRails[rail]?
  if card < page.dashboardRailLength rail then some (rail.cardId card) else none

/-- What confirming a card of a rail asks for. -/
def railMessage (page : Sources) (card : Nat) : Rail → Option Message
  | .collection collection =>
      collection.items[card]?.map fun item => .cardPressed item.itemId item.name
  | .consoles =>
      page.consolePlatforms[card]?.map fun platform =>
        .consolePressed platform.id
  | .library =>
      page.games[card]?.map fun entry => .cardPressed entry.id entry.name

/-- `dashboard_confirm_message`. -/
def dashboardConfirmMessage (page : Sources) (cursor : Cursor) :
    Option Message := do
  let (rail, card) ← confirm cursor page.dashboardRailLengths
  page.railMessage card (← page.dashboardRails[rail]?)

/-- The card that is drawn in a place. -/
def drawnCard (fl : String → String) (page : Sources) (rail card : Nat) :
    Option Card :=
  (page.dashboardShelves fl)[rail]?.bind fun shelf => shelf.cards[card]?

/-! ## One rail -/

variable (fl : String → String) {page : Sources} {rail : Rail} {card : Nat}

/-- The cards of a rail, whether or not it is drawn. -/
def cardsOf (fl : String → String) (page : Sources) : Rail → List Card
  | .collection collection => (page.collectionShelf fl collection).cards
  | .consoles => (page.consolesShelf fl).cards
  | .library => page.libraryCards

theorem length_cardsOf :
    (page.cardsOf fl rail).length = page.dashboardRailLength rail := by
  cases rail <;>
    simp [cardsOf, dashboardRailLength, collectionShelf, consolesShelf,
      libraryCards, Nat.min_comm]

/-- A card of a rail is called and asks for what its place says. -/
theorem getElem?_cardsOf
    (isCard : card < page.dashboardRailLength rail) :
    ∃ drawn, (page.cardsOf fl rail)[card]? = some drawn ∧
      drawn.id = rail.cardId card ∧
      drawn.message = page.railMessage card rail ∧
      drawn.message ≠ none := by
  cases rail with
  | collection collection =>
      simp only [dashboardRailLength, Nat.lt_min] at isCard
      simp [cardsOf, collectionShelf, railMessage, Card.new,
        Card.withBackground, isCard.1, isCard.2]
  | consoles =>
      simp only [dashboardRailLength, Nat.lt_min] at isCard
      simp [cardsOf, consolesShelf, railMessage, Card.new, isCard.1,
        isCard.2]
  | library =>
      simp only [dashboardRailLength, Nat.lt_min] at isCard
      simp [cardsOf, libraryCards, railMessage, Card.new, isCard.1,
        isCard.2]

/-- A rail is drawn with its cards, unless it is the library's and empty. -/
theorem shelf_eq :
    (page.shelf fl rail).map Shelf.cards =
      if rail = .library ∧ page.dashboardRailLength .library = 0 then
        none
      else
        some (page.cardsOf fl rail) := by
  cases rail with
  | collection collection => simp [shelf, cardsOf]
  | consoles => simp [shelf, cardsOf]
  | library =>
      have isEmpty : page.libraryCards.isEmpty = true ↔
          page.dashboardRailLength .library = 0 := by
        rw [← length_cardsOf fl, List.isEmpty_iff_length_eq_zero]
        rfl
      simp only [shelf, libraryShelf, cardsOf]
      split
      case isTrue empty => simp [isEmpty.mp empty]
      case isFalse some => simp [isEmpty.not.mp some]

/-! ## All rails -/

theorem dashboardRailLength_pos_of_mem
    {rails : List Rail}
    (isRails : rails =
      ((page.collections.filter fun collection =>
        !collection.items.isEmpty).partition fun collection =>
          collection.slug = newArrivalsCollection).1.map Rail.collection ++
      ((page.collections.filter fun collection =>
        !collection.items.isEmpty).partition fun collection =>
          collection.slug = newArrivalsCollection).2.map Rail.collection)
    (member : rail ∈ rails) :
    0 < page.dashboardRailLength rail := by
  subst isRails
  simp only [List.partition_eq_filter_filter, List.mem_append, List.mem_map,
    List.mem_filter] at member
  rcases member with ⟨collection, ⟨⟨_, some⟩, _⟩, rfl⟩ |
      ⟨collection, ⟨⟨_, some⟩, _⟩, rfl⟩ <;>
    · rw [Bool.not_eq_true', List.isEmpty_eq_false_iff] at some
      exact Nat.lt_min.mpr ⟨List.length_pos_iff.mpr some, by decide⟩

/-- The library is the only rail that may be without cards, and then it is the
only rail. -/
theorem dashboardRails_cases (page : Sources) :
    (∀ rail ∈ page.dashboardRails, 0 < page.dashboardRailLength rail) ∨
      page.dashboardRails = [.library] ∧
        page.dashboardRailLength .library = 0 := by
  have ofCollections := fun rail =>
    @dashboardRailLength_pos_of_mem page rail _ rfl
  unfold dashboardRails
  dsimp only
  split_ifs with noConsoles noRails noRails
  · rcases Nat.eq_zero_or_pos (page.dashboardRailLength .library) with
      empty | some
    · exact .inr ⟨rfl, empty⟩
    · refine .inl fun rail member => ?_
      rw [List.mem_singleton.mp member]
      exact some
  · exact .inl ofCollections
  · simp at noRails
  · refine .inl fun rail member => ?_
    rcases List.mem_append.mp member with before | isConsoles
    · exact ofCollections rail before
    · rw [List.mem_singleton.mp isConsoles]
      rw [List.isEmpty_iff] at noConsoles
      exact Nat.lt_min.mpr ⟨List.length_pos_iff.mpr noConsoles, by decide⟩

/-- Every rail is drawn and walked, or there is nothing to draw. -/
theorem drawn_cases (page : Sources) :
    ((page.dashboardShelves fl).map Shelf.cards =
        page.dashboardRails.map (page.cardsOf fl) ∧
      page.dashboardRailLengths =
        page.dashboardRails.map page.dashboardRailLength) ∨
    page.dashboardShelves fl = [] ∧ page.dashboardRailLengths = [] ∧
      page.dashboardRails = [.library] ∧ page.cardsOf fl .library = [] := by
  rcases dashboardRails_cases page with all | ⟨only, empty⟩
  · refine .inl ⟨?_, ?_⟩
    · rw [dashboardShelves, List.map_filterMap, ← List.filterMap_eq_map]
      refine List.filterMap_congr fun rail member => ?_
      have some := all rail member
      rw [shelf_eq, if_neg]
      · rfl
      · rintro ⟨rfl, empty⟩
        omega
    · rw [dashboardRailLengths, List.filter_eq_self]
      intro length member
      obtain ⟨rail, isRail, rfl⟩ := List.mem_map.mp member
      exact decide_eq_true (all rail isRail)
  · have none : page.shelf fl .library = none := by
      have isShelf := @shelf_eq fl page .library
      rw [if_pos ⟨rfl, empty⟩, Option.map_eq_none_iff] at isShelf
      exact isShelf
    refine .inr ⟨?_, ?_, only, ?_⟩
    · simp [dashboardShelves, only, none]
    · simp [dashboardRailLengths, only, empty]
    · exact List.length_eq_zero_iff.mp ((length_cardsOf fl).trans empty)

/-- The card drawn in a place is the card of the rail there. -/
theorem drawnCard_eq (rail card : Nat) :
    page.drawnCard fl rail card =
      page.dashboardRails[rail]?.bind fun rail =>
        (page.cardsOf fl rail)[card]? := by
  rcases drawn_cases fl page with ⟨cards, _⟩ | ⟨noShelf, _, only, noCards⟩
  · calc
      page.drawnCard fl rail card =
          ((page.dashboardShelves fl).map Shelf.cards)[rail]?.bind
            fun cards => cards[card]? := by
        rw [List.getElem?_map, Option.bind_map]
        rfl
      _ = page.dashboardRails[rail]?.bind fun rail =>
            (page.cardsOf fl rail)[card]? := by
        rw [cards, List.getElem?_map, Option.bind_map]
        rfl
  · rw [drawnCard, noShelf, only]
    cases rail <;> simp [noCards]

/-- The pad walks as many cards of a rail as it has. -/
theorem lt_cardsIn_iff (rail card : Nat) :
    card < cardsIn page.dashboardRailLengths rail ↔
      ∃ source, page.dashboardRails[rail]? = some source ∧
        card < page.dashboardRailLength source := by
  rcases drawn_cases id page with ⟨_, lengths⟩ | ⟨_, none, only, noCards⟩
  · rw [cardsIn, lengths, List.getElem?_map]
    cases page.dashboardRails[rail]? <;> simp
  · have empty : page.dashboardRailLength .library = 0 := by
      rw [← length_cardsOf id, noCards, List.length_nil]
    rw [cardsIn, none, only]
    cases rail <;> simp [empty]

/-- There is a card in a place exactly when the pad walks one there. -/
theorem drawnCard_eq_none_iff (rail card : Nat) :
    page.drawnCard fl rail card = none ↔
      ¬ card < cardsIn page.dashboardRailLengths rail := by
  rw [drawnCard_eq, lt_cardsIn_iff]
  cases page.dashboardRails[rail]? with
  | none => simp
  | some source => simp [← length_cardsOf fl]

/-- The card in a place the pad walks. -/
theorem drawnCard_of_walked
    {rail card : Nat}
    (walked : card < cardsIn page.dashboardRailLengths rail) :
    ∃ source drawn, page.dashboardRails[rail]? = some source ∧
      card < page.dashboardRailLength source ∧
      page.drawnCard fl rail card = some drawn ∧
      drawn.id = source.cardId card ∧
      drawn.message = page.railMessage card source ∧
      drawn.message ≠ none := by
  obtain ⟨source, isSource, isCard⟩ := (lt_cardsIn_iff _ _).mp walked
  obtain ⟨drawn, isDrawn, isNamed⟩ := getElem?_cardsOf fl isCard
  refine ⟨source, drawn, isSource, isCard, ?_, isNamed⟩
  rw [drawnCard_eq, isSource]
  exact isDrawn

theorem dashboardCardIdAt_eq (rail card : Nat) :
    page.dashboardCardIdAt rail card =
      (page.drawnCard fl rail card).map Card.id := by
  by_cases walked : card < cardsIn page.dashboardRailLengths rail
  · obtain ⟨source, drawn, isSource, isCard, isDrawn, isNamed, _⟩ :=
      drawnCard_of_walked fl walked
    rw [isDrawn, Option.map_some, isNamed, dashboardCardIdAt, isSource]
    exact if_pos isCard
  · rw [(drawnCard_eq_none_iff fl _ _).mpr walked, Option.map_none,
      dashboardCardIdAt]
    rw [lt_cardsIn_iff] at walked
    cases isSource : page.dashboardRails[rail]? with
    | none => rfl
    | some source =>
        exact if_neg fun isCard => walked ⟨source, isSource, isCard⟩

/-- Confirming asks for what the card under the cursor asks for. -/
theorem dashboardConfirmMessage_eq (cursor : Cursor) :
    page.dashboardConfirmMessage cursor =
      ((confirm cursor page.dashboardRailLengths).bind fun place =>
        page.drawnCard fl place.1 place.2).bind Card.message := by
  rw [dashboardConfirmMessage]
  cases confirmed : confirm cursor page.dashboardRailLengths with
  | none => rfl
  | some place =>
      obtain ⟨rail, card⟩ := place
      obtain ⟨source, drawn, isSource, _, isDrawn, _, asks, _⟩ :=
        drawnCard_of_walked fl (confirm_eq_some confirmed)
      change (page.dashboardRails[rail]?.bind fun source =>
        page.railMessage card source) =
          (page.drawnCard fl rail card).bind Card.message
      rw [isSource, isDrawn, Option.bind_some, Option.bind_some, asks]

/-- What is drawn, walked, named and confirmed agree: the shelves have as many
cards as the pad walks; confirming asks for what the card under the cursor
asks for, and for nothing exactly when no card is drawn; and a card is called
what the renderer is told. -/
theorem drawn_is_walked
    (fl : String → String)
    (page : Sources)
    (cursor : Cursor) :
    (page.dashboardShelves fl).map (fun shelf => shelf.cards.length) =
      page.dashboardRailLengths ∧
    page.dashboardConfirmMessage cursor =
      ((confirm cursor page.dashboardRailLengths).bind fun place =>
        page.drawnCard fl place.1 place.2).bind Card.message ∧
    (page.dashboardConfirmMessage cursor = none ↔
      ∀ rail card, page.drawnCard fl rail card = none) ∧
    ∀ rail card, page.dashboardCardIdAt rail card =
      (page.drawnCard fl rail card).map Card.id := by
  refine ⟨?_, dashboardConfirmMessage_eq fl cursor, ?_,
    dashboardCardIdAt_eq fl⟩
  · rcases drawn_cases fl page with ⟨cards, lengths⟩ | ⟨noShelf, none, _⟩
    · calc
        (page.dashboardShelves fl).map (fun shelf => shelf.cards.length) =
            ((page.dashboardShelves fl).map Shelf.cards).map List.length := by
          rw [List.map_map]
          rfl
        _ = page.dashboardRailLengths := by
          rw [cards, List.map_map, lengths]
          exact List.map_congr_left fun rail _ => length_cardsOf fl
    · rw [noShelf, none]
      rfl
  · constructor
    · intro nothing rail card
      rw [drawnCard_eq_none_iff]
      intro walked
      cases confirmed : confirm cursor page.dashboardRailLengths with
      | none =>
          have empty := confirm_eq_none_iff.mp confirmed rail
          omega
      | some place =>
          obtain ⟨_, drawn, _, _, isDrawn, _, _, asks⟩ :=
            drawnCard_of_walked fl (confirm_eq_some confirmed)
          rw [dashboardConfirmMessage_eq fl, confirmed,
            Option.bind_some, isDrawn] at nothing
          exact asks nothing
    · intro nothing
      rw [dashboardConfirmMessage_eq fl]
      cases confirm cursor page.dashboardRailLengths with
      | none => rfl
      | some place => rw [Option.bind_some, nothing, Option.bind_none]

end Sources
end Dashboard
end Frontend
end Hearthdeck
