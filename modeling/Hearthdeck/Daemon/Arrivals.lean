import Hearthdeck.Bridge.StremioTitles
import Hearthdeck.Daemon.ContinueWatching

/-!
# New arrivals

The banner shows titles that can be watched at home since a short time.  One
is built from a detail of TMDB when the detail has a date in the window and an
IMDb id, which is what the bridge opens the title with.

Reading and writing dates is the work of a library.  What TMDB thinks of a
title (its popularity and rating) is a floating-point number and is left out.
-/

namespace Hearthdeck
namespace Daemon
namespace Arrivals

open Foundation Frontend
open Bridge.StremioTitle

/-- `SOURCE_ID`. -/
def sourceId : String := "stremio-arrivals"

/-- `IMAGE_URL`. -/
def imageUrl : String := "https://image.tmdb.org/t/p"

/-- `DIGITAL_RELEASE`. -/
def digitalRelease : Nat := 4

/-- `PHYSICAL_RELEASE`. -/
def physicalRelease : Nat := 5

/-- `AVAILABILITY_WINDOW_DAYS`. -/
def availabilityWindowDays : Int := 60

/-- How dates are read and written; a date is the number of its day. -/
structure Calendar where
  /-- A text of the form `%Y-%m-%d`. -/
  date : String → Option Int
  /-- The date of a text of RFC 3339. -/
  instant : String → Option Int
  year : Int → Int
  /-- The text of a date, in the form `%Y-%m-%d`. -/
  text : Int → String

/-- `Market`. -/
structure Market where
  region : String
  language : String

/-! ## Reading a detail -/

/-- `day`. -/
def day (calendar : Calendar) (value : Option Json) : Option Int := do
  let value := trimmed (← (← value).asStr)
  match calendar.date value with
  | some date => some date
  | none => calendar.instant value

/-- `text`. -/
def text (detail : Json) (key : String) : Option String :=
  (((detail.get key).bind Json.asStr).map trimmed).filter
    fun text => !text.isEmpty

/-- `title`. -/
def title (detail : Json) (kind : String) : Option String :=
  text detail (if kind = "series" then "name" else "title")

/-- `image`. -/
def image (path : Option Json) (size : String) : Option String := do
  let path := trimmed (← (← path).asStr)
  if path.isEmpty then none else some (imageUrl ++ "/" ++ size ++ path)

/-- `original_year`. -/
def originalYear (calendar : Calendar) (detail : Json) (kind : String) :
    Option Int :=
  (day calendar (detail.get
    (if kind = "series" then "first_air_date" else "release_date"))).map
      calendar.year

/-- `is_title_id`. -/
def isTitleId (id : String) : Bool :=
  match id.toList with
  | 't' :: 't' :: digits => digits ≠ [] && digits.all Char.isDigit
  | _ => false

/-- `imdb_id`. -/
def imdbId (detail : Json) : Option String := do
  let id := trimmed (← (← (← detail.get "external_ids").get "imdb_id").asStr)
  if isTitleId id then some id else none

/-- The first entry with the least key. -/
def minByKey {Item : Type} (key : Item → Nat) (items : List Item) :
    Option Item :=
  items.foldl
    (fun best item =>
      match best with
      | some other => if key item < key other then some item else some other
      | none => some item)
    none

/-- The last entry with the greatest key. -/
def maxByKey {Item : Type} (key : Item → Int) (items : List Item) :
    Option Item :=
  items.foldl
    (fun best item =>
      match best with
      | some other => if key item < key other then some other else some item
      | none => some item)
    none

/-- The text before the first separator. -/
def beforeFirst (separator : Char) (text : String) : String :=
  .ofList (text.toList.takeWhile (· != separator))

/-- `logo`. -/
def logo (detail : Json) (language : String) : Option String := do
  let logos ← (← (← detail.get "images").get "logos").asArray
  let ranked := logos.filterMap fun logo => do
    let path ← (((logo.get "file_path").bind Json.asStr).map trimmed).filter
      fun path => !path.isEmpty
    let rank :=
      match (logo.get "iso_639_1").bind Json.asStr with
      | some tag =>
          if Frontend.eqIgnoreAsciiCase tag (beforeFirst '-' language) then 0
          else if tag = "en" then 2
          else 3
      | none => 1
    some (rank, path)
  (minByKey Prod.fst ranked).map fun best => imageUrl ++ "/w500" ++ best.2

/-! ## What is available -/

/-- `Available`. -/
structure Available where
  kind : String
  imdbId : String
  title : String
  since : Int
  how : String
  market : String
  year : Option Int
  poster : Option String
  background : Option String
  logo : Option String
  description : Option String

/-- `country_releases`. -/
def countryReleases (detail : Json) (country : String) :
    Option (List Json) := do
  let rows ← (← (← detail.get "release_dates").get "results").asArray
  let entry ← rows.find? fun entry =>
    ((entry.get "iso_3166_1").bind Json.asStr).any fun iso =>
      Frontend.eqIgnoreAsciiCase iso country
  (← entry.get "release_dates").asArray

/-- `latest_home_release`. -/
def latestHomeRelease
    (calendar : Calendar)
    (releases : List Json)
    (today : Int) : Option (Int × String) :=
  maxByKey Prod.fst <| releases.filterMap fun release => do
    let kind ← (release.get "type").bind Json.asU64
    let how ←
      if kind = digitalRelease then some "digital"
      else if kind = physicalRelease then some "physical"
      else none
    let released ← day calendar (release.get "release_date")
    if released ≤ today then some (released, how) else none

/-- `home_release_elsewhere`. -/
def homeReleaseElsewhere
    (calendar : Calendar)
    (detail : Json)
    (market : String)
    (today : Int) : Option (Int × String × String) := do
  let rows ← (← (← detail.get "release_dates").get "results").asArray
  maxByKey Prod.fst <| rows.filterMap fun entry => do
    let iso ← (entry.get "iso_3166_1").bind Json.asStr
    if Frontend.eqIgnoreAsciiCase iso market then
      none
    else
      let (since, how) ← latestHomeRelease calendar
        (← countryReleases detail iso) today
      some (since, how, iso)

/-- `within_window`. -/
def withinWindow (since today : Int) : Option Unit :=
  if 0 ≤ today - since ∧ today - since ≤ availabilityWindowDays then
    some ()
  else
    none

/-- `assembled`. -/
def assembled
    (calendar : Calendar)
    (detail : Json)
    (kind : String)
    (since : Int)
    (how country : String)
    (market : Market) : Option Available := do
  let imdbId ← imdbId detail
  let title ← title detail kind
  some
    { kind := kind
      imdbId := imdbId
      title := title
      since := since
      how := how
      market := country
      year := originalYear calendar detail kind
      poster := image (detail.get "poster_path") "w342"
      background := image (detail.get "backdrop_path") "w1280"
      logo := logo detail market.language
      description := text detail "overview" }

/-- `available_film`. -/
def availableFilm
    (calendar : Calendar)
    (detail : Json)
    (market : Market)
    (today : Int) : Option Available := do
  let (since, how, country) ←
    match countryReleases detail market.region with
    | some releases => do
        let (since, how) ← latestHomeRelease calendar releases today
        some (since, how, market.region)
    | none => homeReleaseElsewhere calendar detail market.region today
  withinWindow since today
  assembled calendar detail "movie" since how country market

/-- `available_series`. -/
def availableSeries
    (calendar : Calendar)
    (detail : Json)
    (market : Market)
    (today : Int) : Option Available := do
  let since ← day calendar (detail.get "first_air_date")
  withinWindow since today
  assembled calendar detail "series" since "aired" market.region market

/-- The `metadata` of an arrival. -/
structure Metadata where
  source : String
  kind : String
  videoId : String
  background : Option String
  logo : Option String
  description : Option String
  year : Option Int
  released : String
  availableSince : String
  availableHow : String
  availableMarket : String

/-- `arrival_record`. -/
def arrivalRecord (calendar : Calendar) (available : Available) :
    CatalogRecord Metadata :=
  let since := calendar.text available.since
  { id := sourceId ++ ":" ++ available.imdbId
    title := available.title
    kind := available.kind
    launchId := none
    icon := available.poster
    metadata :=
      { source := sourceId
        kind := available.kind
        videoId := available.imdbId
        background := available.background
        logo := available.logo
        description := available.description
        year := available.year
        released := since
        availableSince := since
        availableHow := available.how
        availableMarket := available.market }
    updatedAt := since ++ "T00:00:00Z" }

/-! ## What the bridge opens -/

/-- An arrival has the IMDb id of its detail. -/
theorem imdbId_of_assembled
    {calendar : Calendar}
    {detail : Json}
    {kind how country : String}
    {since : Int}
    {market : Market}
    {available : Available}
    (built : assembled calendar detail kind since how country market =
      some available) :
    imdbId detail = some available.imdbId := by
  obtain ⟨id, isId, titled⟩ := Option.bind_eq_some_iff.mp built
  obtain ⟨name, _, isAvailable⟩ := Option.bind_eq_some_iff.mp titled
  cases isAvailable
  exact isId

theorem imdbId_of_availableFilm
    {calendar : Calendar}
    {detail : Json}
    {market : Market}
    {today : Int}
    {available : Available}
    (built : availableFilm calendar detail market today = some available) :
    imdbId detail = some available.imdbId := by
  unfold availableFilm at built
  split at built
  case h_1 releases _ =>
      obtain ⟨_, _, found⟩ := Option.bind_eq_some_iff.mp built
      obtain ⟨_, _, dated⟩ := Option.bind_eq_some_iff.mp found
      obtain ⟨_, _, isBuilt⟩ := Option.bind_eq_some_iff.mp dated
      exact imdbId_of_assembled isBuilt
  case h_2 =>
      obtain ⟨released, _, dated⟩ := Option.bind_eq_some_iff.mp built
      obtain ⟨_, _, isBuilt⟩ := Option.bind_eq_some_iff.mp dated
      exact imdbId_of_assembled isBuilt

theorem imdbId_of_availableSeries
    {calendar : Calendar}
    {detail : Json}
    {market : Market}
    {today : Int}
    {available : Available}
    (built : availableSeries calendar detail market today = some available) :
    imdbId detail = some available.imdbId := by
  obtain ⟨since, _, dated⟩ := Option.bind_eq_some_iff.mp built
  obtain ⟨_, _, isBuilt⟩ := Option.bind_eq_some_iff.mp dated
  exact imdbId_of_assembled isBuilt

/-- A title id has two letters and digits, as many as there are. -/
theorem isTitleId_iff
    {id : String} :
    isTitleId id = true ↔
      ∃ digits, id.toList = 't' :: 't' :: digits ∧ digits ≠ [] ∧
        ∀ digit ∈ digits, digit.isDigit = true := by
  unfold isTitleId
  split
  case h_1 digits same => simp [same]
  case h_2 other =>
      refine iff_of_false Bool.false_ne_true ?_
      rintro ⟨digits, same, _⟩
      exact other digits same

/-- A title id is an IMDb id to the bridge when it has ten digits at most. -/
theorem isImdbId_iff_of_isTitleId
    {id : String}
    (isTitle : isTitleId id = true) :
    isImdbId id.toList = true ↔ id.toList.length ≤ 12 := by
  obtain ⟨digits, same, solid, areDigits⟩ := isTitleId_iff.mp isTitle
  rw [isImdbId_iff, same]
  constructor
  · rintro ⟨others, isSame, _, few, _⟩
    cases isSame
    simp only [List.length_cons]
    omega
  · intro few
    simp only [List.length_cons] at few
    exact ⟨digits, rfl, solid, by omega, areDigits⟩

/-- The bridge opens a title id of ten digits at most, as either kind. -/
theorem opens_iff_of_isTitleId
    {id : String}
    (isTitle : isTitleId id = true) :
    (∀ mediaType, ∃ uri,
        stremioDetailUri id.toList mediaType = .ok uri) ↔
      id.toList.length ≤ 12 := by
  have single : ':' ∉ id.toList := by
    obtain ⟨digits, same, _, areDigits⟩ := isTitleId_iff.mp isTitle
    rw [same]
    refine notMem_of_written (fun character member => ?_) colon_not_written
    rcases List.mem_cons.mp member with rfl | rest
    · exact .inl rfl
    · rcases List.mem_cons.mp rest with rfl | among
      · exact .inl rfl
      · exact .inr (areDigits character among)
  rw [← isImdbId_iff_of_isTitleId isTitle]
  constructor
  · intro opens
    exact (opens_single_iff single .movie).mp (opens .movie)
  · intro isId mediaType
    exact (opens_single_iff single mediaType).mpr isId

theorem isTitleId_of_imdbId
    {detail : Json}
    {id : String}
    (isId : imdbId detail = some id) :
    isTitleId id = true := by
  obtain ⟨_, _, rest⟩ := Option.bind_eq_some_iff.mp isId
  obtain ⟨_, _, rest⟩ := Option.bind_eq_some_iff.mp rest
  obtain ⟨_, _, rest⟩ := Option.bind_eq_some_iff.mp rest
  dsimp only at rest
  split at rest
  case isTrue isTitle =>
      cases rest
      exact isTitle
  case isFalse other => cases rest

/-- The bridge opens an arrival exactly when its IMDb id has ten digits at
most.  Exactly the ids of videos are opened at all, ids and kinds of titles
differ in their URIs, and no URI has a character that means something else. -/
theorem arrivals_open_iff
    (calendar : Calendar) :
    (∀ detail market today available,
      availableFilm calendar detail market today = some available ∨
        availableSeries calendar detail market today = some available →
      ((∀ mediaType, ∃ uri, stremioDetailUri
          (arrivalRecord calendar available).metadata.videoId.toList
          mediaType = .ok uri) ↔
        ∀ id ∈ imdbId detail, id.toList.length ≤ 12)) ∧
    (∀ id, isTitleId id = true →
      ((∀ mediaType, ∃ uri,
          stremioDetailUri id.toList mediaType = .ok uri) ↔
        id.toList.length ≤ 12)) ∧
    (∀ videoId mediaType,
      (∃ uri, stremioDetailUri videoId mediaType = .ok uri) ↔
        ∃ video : Video, video.Valid ∧ video.id = videoId) ∧
    (∀ left right first second uri,
      stremioDetailUri left first = .ok uri →
      stremioDetailUri right second = .ok uri →
      left = right ∧ (':' ∉ left → first = second)) ∧
    ∀ videoId mediaType uri,
      stremioDetailUri videoId mediaType = .ok uri →
      ∀ character ∈ uri, Plain character := by
  refine ⟨?_, fun id => opens_iff_of_isTitleId, opens_iff,
    fun _ _ _ _ _ => stremioDetailUri_injective, ?_⟩
  · rintro detail market today available built
    have isId : imdbId detail = some available.imdbId :=
      built.elim imdbId_of_availableFilm imdbId_of_availableSeries
    refine (opens_iff_of_isTitleId (isTitleId_of_imdbId isId)).trans ?_
    rw [isId]
    exact ⟨fun few id same => Option.some.inj same ▸ few,
      fun all => all _ rfl⟩
  · intro videoId mediaType uri opens
    obtain ⟨video, valid, _, rfl⟩ := video_of_stremioDetailUri opens
    exact plain_uri valid mediaType

/-- A calendar of one day. -/
def oneDay : Calendar where
  date text := if text = "2026-10-01" then some 20727 else none
  instant _ := none
  year _ := 2026
  text _ := "2026-10-01"

/-- A series whose IMDb id has eleven digits. -/
def longDetail : Json :=
  .object
    [("name", .string "Serial"),
      ("first_air_date", .string "2026-10-01"),
      ("external_ids", .object [("imdb_id", .string "tt12345678901")])]

/-- It is an arrival that does not open. -/
theorem long_id_does_not_open :
    (availableSeries oneDay longDetail ⟨"BR", "pt-BR"⟩ 20727).map
        (fun available => (arrivalRecord oneDay available).metadata.videoId) =
      some "tt12345678901" ∧
    isTitleId "tt12345678901" = true ∧
    ∀ mediaType, ¬ ∃ uri,
      stremioDetailUri "tt12345678901".toList mediaType = .ok uri := by
  have single : ':' ∉ "tt12345678901".toList := by decide
  have long : isImdbId "tt12345678901".toList = false := by decide
  refine ⟨by decide +kernel, by decide, fun mediaType opens => ?_⟩
  rw [opens_single_iff single, long] at opens
  exact Bool.false_ne_true opens

end Arrivals
end Daemon
end Hearthdeck
