import Hearthdeck.Daemon.Arrivals
import Mathlib.Order.Bounds.Basic

/-!
# Films out at home

A film reaches the banner by the latest of its past home releases: those of
the market's own row, when TMDB has one, and of all the others when it has
not.  This is what a film detail says about that, apart from how the daemon
finds it.

The daemon asks for the list of the market's row, not for the row, and takes a
row without a list for no row at all.
-/

namespace Hearthdeck
namespace Daemon
namespace Arrivals

/-! ## What a detail says -/

/-- A row of a detail: its country and all it says. -/
abbrev Row := String × Json

/-- The entries of a detail, as far as it has any. -/
def entriesOf (detail : Json) : Option (List Json) :=
  (detail.get "release_dates").bind fun dates =>
    (dates.get "results").bind Json.asArray

/-- The rows of a detail: its entries with a country. -/
def rows (detail : Json) : List Row :=
  ((entriesOf detail).getD []).filterMap fun entry =>
    ((entry.get "iso_3166_1").bind Json.asStr).map fun iso => (iso, entry)

/-- A row is a country's. -/
def OfCountry (country : String) (row : Row) : Prop :=
  Frontend.eqIgnoreAsciiCase row.1 country = true

instance (country : String) : DecidablePred (OfCountry country) :=
  fun row => inferInstanceAs
    (Decidable (Frontend.eqIgnoreAsciiCase row.1 country = true))

/-- No country has two rows. -/
def OneRowEach (detail : Json) : Prop :=
  ∀ row ∈ rows detail, ∀ other ∈ rows detail,
    OfCountry other.1 row → row = other

/-- The list of releases of a row, when it has one. -/
def listOf (row : Row) : Option (List Json) :=
  (row.2.get "release_dates").bind Json.asArray

/-- A digital or physical release on a day. -/
def HomeRelease (calendar : Calendar) (date : Int) (release : Json) : Prop :=
  (∃ kind ∈ (release.get "type").bind Json.asU64,
    kind = digitalRelease ∨ kind = physicalRelease) ∧
    day calendar (release.get "release_date") = some date

/-- A row with a digital or physical release on a day. -/
def ReleasedOn (calendar : Calendar) (date : Int) (row : Row) : Prop :=
  ∃ release ∈ (listOf row).getD [], HomeRelease calendar date release

/-- The latest date not after today on which one of the rows has a home
release. -/
def LatestOf
    (calendar : Calendar)
    (today : Int)
    (among : Row → Prop)
    (date : Int) : Prop :=
  IsGreatest
    {date | date ≤ today ∧ ∃ row, among row ∧ ReleasedOn calendar date row} date

/-- The rows that count in a market: its own when there is one. -/
def Counts (detail : Json) (region : String) (row : Row) : Prop :=
  row ∈ rows detail ∧
    (OfCountry region row ∨ ∀ other ∈ rows detail, ¬ OfCountry region other)

/-- A date in the window of what is new. -/
def InWindow (today date : Int) : Prop :=
  0 ≤ today - date ∧ today - date ≤ availabilityWindowDays

/-- A detail with an IMDb title id and a title. -/
def Named (detail : Json) : Prop :=
  (imdbId detail).isSome = true ∧ (title detail "movie").isSome = true

/-- Exactly the films out at home reach the banner. -/
structure ShowsHomeFilms
    (calendar : Calendar)
    (detail : Json)
    (market : Market)
    (today : Int) : Prop where
  shown : (∃ available,
      availableFilm calendar detail market today = some available) ↔
    Named detail ∧ ∃ date,
      LatestOf calendar today (Counts detail market.region) date ∧
        InWindow today date
  dated : ∀ available,
    availableFilm calendar detail market today = some available →
      LatestOf calendar today (Counts detail market.region) available.since ∧
        ∃ row ∈ rows detail, OfCountry available.market row ∧
          ReleasedOn calendar available.since row
  withheld : (∀ row ∈ rows detail, ∀ date,
      ReleasedOn calendar date row → today < date) →
    availableFilm calendar detail market today = none

/-! ## The greatest key -/

section Keys

variable {Item : Type} {key : Item → Int} {items : List Item} {item : Item}

theorem maxByKey_concat
    (key : Item → Int)
    (items : List Item)
    (item : Item) :
    maxByKey key (items ++ [item]) =
      match maxByKey key items with
      | some other => if key item < key other then some other else some item
      | none => some item := by
  rw [maxByKey, List.foldl_append]
  rfl

theorem maxByKey_eq_none_iff : maxByKey key items = none ↔ items = [] := by
  induction items using List.reverseRecOn with
  | nil => simp [maxByKey]
  | append_singleton items last ih =>
      refine iff_of_false ?_ (by simp)
      rw [maxByKey_concat]
      split
      case h_1 other _ => split_ifs <;> simp
      case h_2 => simp

/-- The chosen item is one of the items and has the greatest key. -/
theorem maxByKey_eq_some
    (chosen : maxByKey key items = some item) :
    item ∈ items ∧ ∀ other ∈ items, key other ≤ key item := by
  induction items using List.reverseRecOn generalizing item with
  | nil => simp [maxByKey] at chosen
  | append_singleton items last ih =>
      rw [maxByKey_concat] at chosen
      simp only [List.mem_append, List.mem_singleton]
      cases best : maxByKey key items with
      | none =>
          rw [best] at chosen
          cases chosen
          rw [maxByKey_eq_none_iff] at best
          simp [best]
      | some other =>
          obtain ⟨isIn, greatest⟩ := ih best
          rw [best] at chosen
          dsimp only at chosen
          split_ifs at chosen with smaller
          · cases chosen
            refine ⟨.inl isIn, ?_⟩
            rintro next (inItems | rfl)
            · exact greatest next inItems
            · exact smaller.le
          · cases chosen
            refine ⟨.inr rfl, ?_⟩
            rintro next (inItems | rfl)
            · exact (greatest next inItems).trans (not_lt.mp smaller)
            · exact le_rfl

end Keys

/-! ## The latest date of a row -/

variable
  {calendar : Calendar}
  {detail : Json}
  {today date : Int}
  {country region : String}
  {row : Row}

/-- How a kind of release reaches the home. -/
def homeKind (kind : Nat) : Option String :=
  if kind = digitalRelease then some "digital"
  else if kind = physicalRelease then some "physical"
  else none

/-- What `latest_home_release` makes of one release. -/
def pastHomeRelease
    (calendar : Calendar)
    (today : Int)
    (release : Json) : Option (Int × String) :=
  ((release.get "type").bind Json.asU64).bind fun kind =>
    (homeKind kind).bind fun how =>
      (day calendar (release.get "release_date")).bind fun released =>
        if released ≤ today then some (released, how) else none

theorem latestHomeRelease_eq
    (calendar : Calendar)
    (releases : List Json)
    (today : Int) :
    latestHomeRelease calendar releases today =
      maxByKey Prod.fst
        (releases.filterMap (pastHomeRelease calendar today)) := by
  unfold latestHomeRelease
  congr 2
  funext release
  unfold pastHomeRelease
  refine congrArg _ (funext fun kind => ?_)
  unfold homeKind
  split_ifs <;> rfl

theorem isSome_homeKind_iff {kind : Nat} :
    (homeKind kind).isSome = true ↔
      kind = digitalRelease ∨ kind = physicalRelease := by
  unfold homeKind
  split_ifs with digital physical
  · simp [digital]
  · simp [physical]
  · simp [digital, physical]

/-- A release counts when it is at home and not after today. -/
theorem exists_pastHomeRelease_iff
    {release : Json} :
    (∃ how, pastHomeRelease calendar today release = some (date, how)) ↔
      date ≤ today ∧ HomeRelease calendar date release := by
  constructor
  · rintro ⟨how, counted⟩
    obtain ⟨kind, isKind, counted⟩ := Option.bind_eq_some_iff.mp counted
    obtain ⟨name, isName, counted⟩ := Option.bind_eq_some_iff.mp counted
    obtain ⟨released, isDay, counted⟩ := Option.bind_eq_some_iff.mp counted
    split_ifs at counted with past
    cases counted
    exact ⟨past, ⟨kind, isKind, isSome_homeKind_iff.mp (by simp [isName])⟩,
      isDay⟩
  · rintro ⟨past, ⟨kind, isKind, home⟩, isDay⟩
    obtain ⟨name, isName⟩ :=
      Option.isSome_iff_exists.mp (isSome_homeKind_iff.mpr home)
    refine ⟨name, ?_⟩
    rw [pastHomeRelease, Option.mem_def.mp isKind, Option.bind_some, isName,
      Option.bind_some, isDay, Option.bind_some, if_pos past]

/-- The dates on which a row has a home release, up to today. -/
def pastDates
    (calendar : Calendar)
    (today : Int)
    (row : Row) : Set Int :=
  {date | date ≤ today ∧ ReleasedOn calendar date row}

/-- `latest_home_release` finds the greatest past date of a row. -/
theorem latestHomeRelease_eq_some
    {found : Int × String}
    (isFound : latestHomeRelease calendar ((listOf row).getD []) today =
      some found) :
    IsGreatest (pastDates calendar today row) found.1 := by
  rw [latestHomeRelease_eq] at isFound
  obtain ⟨isIn, greatest⟩ := maxByKey_eq_some isFound
  obtain ⟨release, isRelease, counted⟩ := List.mem_filterMap.mp isIn
  obtain ⟨past, home⟩ := exists_pastHomeRelease_iff.mp ⟨found.2, counted⟩
  refine ⟨⟨past, release, isRelease, home⟩, ?_⟩
  rintro other ⟨otherPast, next, isNext, otherHome⟩
  obtain ⟨otherHow, otherCounted⟩ :=
    exists_pastHomeRelease_iff.mpr ⟨otherPast, otherHome⟩
  exact greatest (other, otherHow)
    (List.mem_filterMap.mpr ⟨next, isNext, otherCounted⟩)

theorem latestHomeRelease_eq_none
    (none_found : latestHomeRelease calendar ((listOf row).getD []) today =
      none) :
    pastDates calendar today row = ∅ := by
  rw [latestHomeRelease_eq, maxByKey_eq_none_iff,
    List.filterMap_eq_nil_iff] at none_found
  refine Set.eq_empty_of_forall_notMem ?_
  rintro other ⟨past, release, isRelease, home⟩
  obtain ⟨how, counted⟩ := exists_pastHomeRelease_iff.mpr ⟨past, home⟩
  rw [none_found release isRelease] at counted
  cases counted

/-! ## The row of a country -/

theorem ofCountry_iff :
    OfCountry country row ↔
      row.1.toList.map Char.toLower = country.toList.map Char.toLower :=
  beq_iff_eq

theorem ofCountry_self (row : Row) : OfCountry row.1 row :=
  ofCountry_iff.mpr rfl

/-- The list that is asked for is that of the first row of a country. -/
theorem countryReleases_eq
    (detail : Json)
    (country : String) :
    countryReleases detail country =
      ((rows detail).find? fun row =>
        Frontend.eqIgnoreAsciiCase row.1 country).bind listOf := by
  have asked : countryReleases detail country =
      (entriesOf detail).bind fun entries =>
        (entries.find? fun entry =>
          ((entry.get "iso_3166_1").bind Json.asStr).any fun iso =>
            Frontend.eqIgnoreAsciiCase iso country).bind fun entry =>
              (entry.get "release_dates").bind Json.asArray := by
    simp only [countryReleases, entriesOf, Option.bind_eq_bind,
      Option.bind_assoc]
  rw [asked, rows]
  cases entriesOf detail with
  | none => rfl
  | some entries =>
      rw [Option.bind_some, Option.getD_some, List.find?_filterMap,
        Option.bind_assoc]
      simp only [Option.any_map]
      cases found : entries.find? fun entry =>
          ((entry.get "iso_3166_1").bind Json.asStr).any fun iso =>
            Frontend.eqIgnoreAsciiCase iso country with
      | none => rfl
      | some entry =>
          have own := List.find?_some found
          rw [Option.any_eq_true] at own
          obtain ⟨iso, isIso, _⟩ := own
          simp only [Option.bind_some, isIso, Option.map_some, listOf]

/-- The list that is asked for is that of the country's row. -/
theorem countryReleases_of_mem
    (once : OneRowEach detail)
    (isRow : row ∈ rows detail)
    (own : OfCountry country row) :
    countryReleases detail country = listOf row := by
  rw [countryReleases_eq]
  cases found : (rows detail).find? fun row =>
      Frontend.eqIgnoreAsciiCase row.1 country with
  | none => exact absurd own (List.find?_eq_none.mp found row isRow)
  | some other =>
      have isOther := List.find?_some found
      have same : OfCountry row.1 other :=
        ofCountry_iff.mpr ((ofCountry_iff.mp isOther).trans
          (ofCountry_iff.mp own).symm)
      rw [once other (List.mem_of_find?_eq_some found) row isRow same]
      rfl

theorem countryReleases_of_forall_not
    (foreign : ∀ row ∈ rows detail, ¬ OfCountry country row) :
    countryReleases detail country = none := by
  rw [countryReleases_eq, List.find?_eq_none.mpr foreign]
  rfl

/-! ## The date of a film -/

/-- The rows of all markets but one. -/
def Others (detail : Json) (region : String) (row : Row) : Prop :=
  row ∈ rows detail ∧ ¬ OfCountry region row

/-- What `home_release_elsewhere` makes of one row. -/
def rowElsewhere
    (calendar : Calendar)
    (detail : Json)
    (region : String)
    (today : Int)
    (row : Row) : Option (Int × String × String) :=
  if OfCountry region row then
    none
  else
    (countryReleases detail row.1).bind fun releases =>
      (latestHomeRelease calendar releases today).map fun found =>
        (found.1, found.2, row.1)

theorem homeReleaseElsewhere_eq
    (calendar : Calendar)
    (detail : Json)
    (region : String)
    (today : Int) :
    homeReleaseElsewhere calendar detail region today =
      maxByKey Prod.fst ((rows detail).filterMap
        (rowElsewhere calendar detail region today)) := by
  have asked : homeReleaseElsewhere calendar detail region today =
      (entriesOf detail).bind fun entries =>
        maxByKey Prod.fst (entries.filterMap fun entry =>
          (((entry.get "iso_3166_1").bind Json.asStr).map fun iso =>
            (iso, entry)).bind
              (rowElsewhere calendar detail region today)) := by
    unfold homeReleaseElsewhere entriesOf
    simp only [Option.bind_eq_bind, Option.bind_assoc]
    refine congrArg _ (funext fun dates => congrArg _ (funext fun results =>
      congrArg _ (funext fun entries => congrArg _ ?_)))
    refine congrArg (fun made => entries.filterMap made)
      (funext fun entry => ?_)
    rw [← Option.bind_assoc]
    cases (entry.get "iso_3166_1").bind Json.asStr with
    | none => rfl
    | some iso =>
        simp only [Option.bind_some, Option.map_some, rowElsewhere, OfCountry]
        refine if_congr Iff.rfl rfl (congrArg _ (funext fun releases => ?_))
        cases latestHomeRelease calendar releases today <;> rfl
  rw [asked, rows]
  cases entriesOf detail with
  | none => rfl
  | some entries =>
      rw [Option.bind_some, Option.getD_some, List.filterMap_filterMap]

/-- The date of a film, how it came home and where. -/
def homeRelease
    (calendar : Calendar)
    (detail : Json)
    (region : String)
    (today : Int) : Option (Int × String × String) :=
  match countryReleases detail region with
  | some releases =>
      (latestHomeRelease calendar releases today).map fun found =>
        (found.1, found.2, region)
  | none => homeReleaseElsewhere calendar detail region today

theorem availableFilm_eq
    (calendar : Calendar)
    (detail : Json)
    (market : Market)
    (today : Int) :
    availableFilm calendar detail market today =
      (homeRelease calendar detail market.region today).bind fun found =>
        (withinWindow found.1 today).bind fun _ =>
          assembled calendar detail "movie" found.1 found.2.1 found.2.2
            market := by
  unfold availableFilm homeRelease
  cases countryReleases detail market.region with
  | none => rfl
  | some releases =>
      dsimp only
      cases latestHomeRelease calendar releases today <;> rfl

theorem rowElsewhere_eq_some
    (once : OneRowEach detail)
    (isRow : row ∈ rows detail)
    {found : Int × String × String}
    (made : rowElsewhere calendar detail region today row = some found) :
    ¬ OfCountry region row ∧ found.2.2 = row.1 ∧
      IsGreatest (pastDates calendar today row) found.1 := by
  unfold rowElsewhere at made
  split_ifs at made with own
  rw [countryReleases_of_mem once isRow (ofCountry_self row)] at made
  obtain ⟨releases, isList, made⟩ := Option.bind_eq_some_iff.mp made
  obtain ⟨latest, isLatest, rfl⟩ := Option.map_eq_some_iff.mp made
  refine ⟨own, rfl, latestHomeRelease_eq_some ?_⟩
  rw [isList]
  exact isLatest

theorem rowElsewhere_eq_none
    (once : OneRowEach detail)
    (isRow : row ∈ rows detail)
    (foreign : ¬ OfCountry region row)
    (made : rowElsewhere calendar detail region today row = none) :
    pastDates calendar today row = ∅ := by
  rw [rowElsewhere, if_neg foreign,
    countryReleases_of_mem once isRow (ofCountry_self row)] at made
  apply latestHomeRelease_eq_none
  cases isList : listOf row with
  | none => rfl
  | some releases =>
      rw [isList] at made
      exact Option.map_eq_none_iff.mp made

/-- The date found elsewhere is the latest of all other rows. -/
theorem homeReleaseElsewhere_eq_some
    (once : OneRowEach detail)
    {found : Int × String × String}
    (isFound : homeReleaseElsewhere calendar detail region today = some found) :
    LatestOf calendar today (Others detail region) found.1 ∧
      ∃ row ∈ rows detail, OfCountry found.2.2 row ∧
        ReleasedOn calendar found.1 row := by
  rw [homeReleaseElsewhere_eq] at isFound
  obtain ⟨isIn, greatest⟩ := maxByKey_eq_some isFound
  obtain ⟨row, isRow, made⟩ := List.mem_filterMap.mp isIn
  obtain ⟨foreign, isCountry, ⟨past, released⟩, _⟩ :=
    rowElsewhere_eq_some once isRow made
  refine ⟨⟨⟨past, row, ⟨isRow, foreign⟩, released⟩, ?_⟩, row, isRow,
    isCountry ▸ ofCountry_self row, released⟩
  rintro date ⟨datePast, other, ⟨isOther, otherForeign⟩, otherReleased⟩
  cases otherMade : rowElsewhere calendar detail region today other with
  | none =>
      have isEmpty := rowElsewhere_eq_none once isOther otherForeign otherMade
      have isDate : date ∈ pastDates calendar today other :=
        ⟨datePast, otherReleased⟩
      rw [isEmpty] at isDate
      exact isDate.elim
  | some best =>
      obtain ⟨_, _, _, latest⟩ := rowElsewhere_eq_some once isOther otherMade
      exact (latest ⟨datePast, otherReleased⟩).trans
        (greatest best (List.mem_filterMap.mpr ⟨other, isOther, otherMade⟩))

theorem homeReleaseElsewhere_eq_none
    (once : OneRowEach detail)
    (isNone : homeReleaseElsewhere calendar detail region today = none) :
    ¬ LatestOf calendar today (Others detail region) date := by
  rw [homeReleaseElsewhere_eq, maxByKey_eq_none_iff,
    List.filterMap_eq_nil_iff] at isNone
  rintro ⟨⟨past, row, ⟨isRow, foreign⟩, released⟩, _⟩
  have isEmpty := rowElsewhere_eq_none once isRow foreign (isNone row isRow)
  have isDate : date ∈ pastDates calendar today row := ⟨past, released⟩
  rw [isEmpty] at isDate
  exact isDate

/-! ## What counts in a market -/

/-- The market's own row, when there is one, has a list of releases. -/
def OwnRowListed (detail : Json) (region : String) : Prop :=
  ∀ row ∈ rows detail, OfCountry region row → (listOf row).isSome = true

theorem latestOf_counts_of_own
    (once : OneRowEach detail)
    (isRow : row ∈ rows detail)
    (own : OfCountry region row) :
    LatestOf calendar today (Counts detail region) date ↔
      IsGreatest (pastDates calendar today row) date := by
  have counts : ∀ other, Counts detail region other ↔ other = row := by
    intro other
    constructor
    · rintro ⟨isOther, otherOwn | noneOwn⟩
      · exact once other isOther row isRow (ofCountry_iff.mpr
          ((ofCountry_iff.mp otherOwn).trans (ofCountry_iff.mp own).symm))
      · exact absurd own (noneOwn row isRow)
    · rintro rfl
      exact ⟨isRow, .inl own⟩
  simp only [LatestOf, counts, exists_eq_left]
  exact Iff.rfl

theorem latestOf_counts_of_foreign
    (foreign : ∀ row ∈ rows detail, ¬ OfCountry region row) :
    LatestOf calendar today (Counts detail region) date ↔
      LatestOf calendar today (Others detail region) date := by
  have counts : Counts detail region = Others detail region := by
    funext row
    refine propext (and_congr_right fun isRow => ?_)
    exact ⟨fun _ => foreign row isRow, fun _ => .inr foreign⟩
  rw [counts]

/-- Whatever is found is a past home release of a row. -/
theorem released_of_homeRelease
    (once : OneRowEach detail)
    {found : Int × String × String}
    (isFound : homeRelease calendar detail region today = some found) :
    found.1 ≤ today ∧ ∃ row ∈ rows detail, OfCountry found.2.2 row ∧
      ReleasedOn calendar found.1 row := by
  unfold homeRelease at isFound
  split at isFound
  case h_1 releases isList =>
      obtain ⟨latest, isLatest, rfl⟩ := Option.map_eq_some_iff.mp isFound
      obtain ⟨row, isRow, own, isListOf⟩ : ∃ row ∈ rows detail,
          OfCountry region row ∧ listOf row = some releases := by
        by_contra noRow
        push Not at noRow
        by_cases hasOwn : ∃ row ∈ rows detail, OfCountry region row
        · obtain ⟨row, isRow, own⟩ := hasOwn
          rw [countryReleases_of_mem once isRow own] at isList
          exact noRow row isRow own isList
        · push Not at hasOwn
          rw [countryReleases_of_forall_not hasOwn] at isList
          cases isList
      have greatest : IsGreatest (pastDates calendar today row) latest.1 :=
        latestHomeRelease_eq_some (by rw [isListOf]; exact isLatest)
      exact ⟨greatest.1.1, row, isRow, own, greatest.1.2⟩
  case h_2 =>
      obtain ⟨latest, released⟩ := homeReleaseElsewhere_eq_some once isFound
      exact ⟨latest.1.1, released⟩

/-- When the market's own row has its list, what is found is what counts. -/
theorem homeRelease_of_listed
    (once : OneRowEach detail)
    (listed : OwnRowListed detail region) :
    (∀ found, homeRelease calendar detail region today = some found →
      LatestOf calendar today (Counts detail region) found.1) ∧
    (homeRelease calendar detail region today = none →
      ∀ date, ¬ LatestOf calendar today (Counts detail region) date) := by
  by_cases hasOwn : ∃ row ∈ rows detail, OfCountry region row
  · obtain ⟨row, isRow, own⟩ := hasOwn
    obtain ⟨releases, isList⟩ :=
      Option.isSome_iff_exists.mp (listed row isRow own)
    have asked : homeRelease calendar detail region today =
        (latestHomeRelease calendar ((listOf row).getD []) today).map
          fun found => (found.1, found.2, region) := by
      rw [homeRelease, countryReleases_of_mem once isRow own, isList]
      rfl
    simp only [latestOf_counts_of_own once isRow own]
    refine ⟨fun found isFound => ?_, fun isNone date isDate => ?_⟩
    · rw [asked] at isFound
      obtain ⟨latest, isLatest, rfl⟩ := Option.map_eq_some_iff.mp isFound
      exact latestHomeRelease_eq_some isLatest
    · rw [asked, Option.map_eq_none_iff] at isNone
      have isIn := isDate.1
      rw [latestHomeRelease_eq_none isNone] at isIn
      exact isIn
  · push Not at hasOwn
    have asked : homeRelease calendar detail region today =
        homeReleaseElsewhere calendar detail region today := by
      rw [homeRelease, countryReleases_of_forall_not hasOwn]
    simp only [latestOf_counts_of_foreign hasOwn]
    rw [asked]
    exact ⟨fun found isFound => (homeReleaseElsewhere_eq_some once isFound).1,
      fun isNone date => homeReleaseElsewhere_eq_none once isNone⟩

/-- When it has not, nothing counts and what is found is from elsewhere. -/
theorem homeRelease_of_unlisted
    (once : OneRowEach detail)
    (unlisted : ¬ OwnRowListed detail region) :
    (∀ date, ¬ LatestOf calendar today (Counts detail region) date) ∧
      homeRelease calendar detail region today =
        homeReleaseElsewhere calendar detail region today := by
  unfold OwnRowListed at unlisted
  push Not at unlisted
  obtain ⟨row, isRow, own, noList⟩ := unlisted
  have noList := Option.not_isSome_iff_eq_none.mp noList
  refine ⟨fun date isDate => ?_, ?_⟩
  · rw [latestOf_counts_of_own once isRow own] at isDate
    obtain ⟨release, isRelease, _⟩ := isDate.1.2
    rw [noList] at isRelease
    exact absurd isRelease List.not_mem_nil
  · rw [homeRelease, countryReleases_of_mem once isRow own, noList]

/-! ## The banner -/

theorem withinWindow_eq_some_iff :
    withinWindow date today = some () ↔ InWindow today date := by
  unfold withinWindow
  split_ifs with inside
  · exact iff_of_true rfl inside
  · exact iff_of_false (by simp) inside

theorem availableFilm_eq_some
    {market : Market}
    {available : Available}
    (built : availableFilm calendar detail market today = some available) :
    Named detail ∧ ∃ found,
      homeRelease calendar detail market.region today = some found ∧
        InWindow today found.1 ∧ available.since = found.1 ∧
        available.market = found.2.2 := by
  rw [availableFilm_eq] at built
  obtain ⟨found, isFound, built⟩ := Option.bind_eq_some_iff.mp built
  obtain ⟨_, inWindow, built⟩ := Option.bind_eq_some_iff.mp built
  obtain ⟨id, isId, built⟩ := Option.bind_eq_some_iff.mp built
  obtain ⟨name, isName, built⟩ := Option.bind_eq_some_iff.mp built
  cases built
  exact ⟨⟨by simp [isId], by simp [isName]⟩, found, isFound,
    withinWindow_eq_some_iff.mp inWindow, rfl, rfl⟩

theorem exists_availableFilm
    {market : Market}
    {found : Int × String × String}
    (named : Named detail)
    (isFound : homeRelease calendar detail market.region today = some found)
    (inWindow : InWindow today found.1) :
    ∃ available,
      availableFilm calendar detail market today = some available := by
  obtain ⟨id, isId⟩ := Option.isSome_iff_exists.mp named.1
  obtain ⟨name, isName⟩ := Option.isSome_iff_exists.mp named.2
  rw [availableFilm_eq, isFound, Option.bind_some,
    withinWindow_eq_some_iff.mpr inWindow, Option.bind_some]
  simp [assembled, isId, isName]

/-- Exactly the films out at home reach the banner, unless the market's own
row has no list and the film would be shown without the row. -/
theorem shows_home_films_iff
    (calendar : Calendar)
    (detail : Json)
    (market : Market)
    (today : Int)
    (once : OneRowEach detail) :
    ShowsHomeFilms calendar detail market today ↔
      OwnRowListed detail market.region ∨
        ¬ (Named detail ∧ ∃ date,
          LatestOf calendar today (Others detail market.region) date ∧
            InWindow today date) := by
  have withheld : (∀ row ∈ rows detail, ∀ date,
      ReleasedOn calendar date row → today < date) →
      availableFilm calendar detail market today = none := by
    intro later
    by_contra shown
    obtain ⟨available, built⟩ := Option.ne_none_iff_exists'.mp shown
    obtain ⟨_, found, isFound, _⟩ := availableFilm_eq_some built
    obtain ⟨past, row, isRow, _, released⟩ :=
      released_of_homeRelease once isFound
    exact absurd (later row isRow _ released) (not_lt.mpr past)
  by_cases listed : OwnRowListed detail market.region
  · refine iff_of_true ?_ (.inl listed)
    obtain ⟨counted, uncounted⟩ := @homeRelease_of_listed calendar detail
      today market.region once listed
    refine ⟨⟨?_, ?_⟩, ?_, withheld⟩
    · rintro ⟨available, built⟩
      obtain ⟨named, found, isFound, inWindow, _⟩ := availableFilm_eq_some built
      exact ⟨named, found.1, counted found isFound, inWindow⟩
    · rintro ⟨named, date, isLatest, inWindow⟩
      cases isFound : homeRelease calendar detail market.region today with
      | none => exact absurd isLatest (uncounted isFound date)
      | some found =>
          have same : date = found.1 := isLatest.unique (counted found isFound)
          exact exists_availableFilm named isFound (same ▸ inWindow)
    · intro available built
      obtain ⟨_, found, isFound, _, isSince, isMarket⟩ :=
        availableFilm_eq_some built
      rw [isSince, isMarket]
      exact ⟨counted found isFound, (released_of_homeRelease once isFound).2⟩
  · obtain ⟨uncounted, elsewhere⟩ := @homeRelease_of_unlisted calendar detail
      today market.region once listed
    rw [or_iff_right listed]
    constructor
    · rintro shows ⟨named, date, isLatest, inWindow⟩
      cases isFound : homeRelease calendar detail market.region today with
      | none =>
          rw [elsewhere] at isFound
          exact homeReleaseElsewhere_eq_none once isFound isLatest
      | some found =>
          have isElsewhere := elsewhere ▸ isFound
          have same : date = found.1 := isLatest.unique
            (homeReleaseElsewhere_eq_some once isElsewhere).1
          obtain ⟨_, other, counts, _⟩ := shows.shown.mp
            (exists_availableFilm named isFound (same ▸ inWindow))
          exact uncounted other counts
    · intro hidden
      have isNone : ∀ available,
          availableFilm calendar detail market today ≠ some available := by
        intro available built
        obtain ⟨named, found, isFound, inWindow, _⟩ :=
          availableFilm_eq_some built
        rw [elsewhere] at isFound
        exact hidden ⟨named, found.1,
          (homeReleaseElsewhere_eq_some once isFound).1, inWindow⟩
      refine ⟨⟨?_, ?_⟩, fun available built => absurd built (isNone available),
        withheld⟩
      · rintro ⟨available, built⟩
        exact absurd built (isNone available)
      · rintro ⟨_, date, counts, _⟩
        exact absurd counts (uncounted date)

/-- The row of a market without a list of releases. -/
def unlistedRow : Row :=
  ("BR", .object [("iso_3166_1", .string "BR")])

/-- The row of another market, with a digital release. -/
def digitalRow : Row :=
  ("US", .object
    [("iso_3166_1", .string "US"),
      ("release_dates", .array [.object
        [("type", .number "4"), ("release_date", .string "2026-10-01")]])])

/-- A film with the two rows. -/
def unlistedDetail : Json :=
  .object
    [("title", .string "Feature"),
      ("external_ids", .object [("imdb_id", .string "tt0133093")]),
      ("release_dates", .object
        [("results", .array [unlistedRow.2, digitalRow.2])])]

theorem rows_unlistedDetail :
    rows unlistedDetail = [unlistedRow, digitalRow] :=
  rfl

theorem oneRowEach_unlistedDetail : OneRowEach unlistedDetail := by
  intro row isRow other isOther same
  rw [rows_unlistedDetail] at isRow isOther
  simp only [List.mem_cons, List.not_mem_nil, or_false] at isRow isOther
  rcases isRow with rfl | rfl <;> rcases isOther with rfl | rfl
  · rfl
  · exact absurd same (by decide)
  · exact absurd same (by decide)
  · rfl

/-- In the other market it is shown as it should. -/
theorem shows_home_films_iff_digital :
    ShowsHomeFilms oneDay unlistedDetail ⟨"US", "en-US"⟩ 20727 := by
  refine (shows_home_films_iff oneDay unlistedDetail ⟨"US", "en-US"⟩ 20727
    oneRowEach_unlistedDetail).mpr (.inl fun row isRow own => ?_)
  rw [rows_unlistedDetail] at isRow
  simp only [List.mem_cons, List.not_mem_nil, or_false] at isRow
  rcases isRow with rfl | rfl
  · exact absurd own (by decide)
  · rfl

/-- In the market whose row has no list it is shown for the release in the
other. -/
theorem unlisted_row_is_passed_over :
    OneRowEach unlistedDetail ∧
      (availableFilm oneDay unlistedDetail ⟨"BR", "pt-BR"⟩ 20727).map
        (fun available => (available.since, available.market)) =
          some (20727, "US") ∧
      ¬ ShowsHomeFilms oneDay unlistedDetail ⟨"BR", "pt-BR"⟩ 20727 := by
  have built : (availableFilm oneDay unlistedDetail ⟨"BR", "pt-BR"⟩ 20727).map
      (fun available => (available.since, available.market)) =
        some (20727, "US") := by
    decide +kernel
  have unlisted : ¬ OwnRowListed unlistedDetail "BR" := by
    intro listed
    have isSome := listed unlistedRow (by simp [rows_unlistedDetail])
      (by decide)
    exact absurd isSome (by decide)
  refine ⟨oneRowEach_unlistedDetail, built, fun shows => ?_⟩
  obtain ⟨available, isAvailable, _⟩ := Option.map_eq_some_iff.mp built
  obtain ⟨_, date, counts, _⟩ := shows.shown.mp ⟨available, isAvailable⟩
  exact (homeRelease_of_unlisted oneRowEach_unlistedDetail unlisted).1 date
    counts

end Arrivals
end Daemon
end Hearthdeck
