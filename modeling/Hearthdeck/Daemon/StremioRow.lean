import Hearthdeck.Daemon.ContinueWatching

/-!
# Which titles the row of Stremio has, and which episodes it names

The row is to have the first ten titles that can be published.  Ten titles are
taken before those without an id are left out, so a title without an id can
take the place of one with an id.

The episode a title is at is read from the id of a video, which is to be the
id of the title, a season and an episode.  Reading is looser than that: it
takes any number of separators behind the id, none included, signs, and what
follows the episode.
-/

namespace Hearthdeck
namespace Daemon
namespace Stremio

open Foundation Frontend

/-! ## The titles that can be published -/

/-- A title has an id. -/
def titled (item : Json) : Bool :=
  ((item.get "_id").bind Json.asStr).any fun id => !(trimmed id).isEmpty

/-- A title is not of another type, is not removed for good, was begun, and
has an id. -/
def Publishable (item : Json) : Prop :=
  (item.get "type").bind Json.asStr ≠ some "other" ∧
    ¬ (flag item "removed" = true ∧ flag item "temp" = false) ∧
    0 < timeOffset item ∧
    titled item = true

instance (item : Json) : Decidable (Publishable item) :=
  inferInstanceAs (Decidable (_ ∧ _))

theorem publishable_iff
    {item : Json} :
    Publishable item ↔
      inContinueWatching item = true ∧ titled item = true := by
  unfold Publishable inContinueWatching
  by_cases other : (item.get "type").bind Json.asStr = some "other"
  · simp [other]
  · rw [if_neg other]
    cases removed : flag item "removed" <;>
      cases temp : flag item "temp" <;> simp [other]

theorem isSome_catalogRecord (item : Json) :
    (catalogRecord item).isSome = titled item := by
  unfold catalogRecord titled
  cases (item.get "_id").bind Json.asStr with
  | none => rfl
  | some text =>
      dsimp only [Option.bind_eq_bind, Option.bind_some, Option.any_some]
      split
      case isTrue empty => simp [empty]
      case isFalse solid => simp [solid]

section Row

variable (parse : String → Option Int)

/-- The unfinished titles, the last change first. -/
def newest (items : List Json) : List Json :=
  sortByKey (newestFirst parse) (unfinished items)

/-- The titles that can be published, the last change first. -/
def newestPublishable (items : List Json) : List Json :=
  sortByKey (newestFirst parse)
    (items.filter fun item => decide (Publishable item))

theorem newestPublishable_eq (items : List Json) :
    newestPublishable parse items = (newest parse items).filter titled := by
  unfold newestPublishable newest unfinished
  rw [← sortByKey_filter, List.filter_filter]
  congr 1
  refine List.filter_congr fun item _ => ?_
  rw [Bool.eq_iff_iff, decide_eq_true_iff, publishable_iff, Bool.and_eq_true,
    and_comm]

/-- Records are made of the titles with an id only. -/
theorem filterMap_catalogRecord (items : List Json) :
    (items.filter titled).filterMap catalogRecord =
      items.filterMap catalogRecord := by
  rw [List.filterMap_filter]
  refine List.filterMap_congr fun item _ => ?_
  split
  case isTrue => rfl
  case isFalse untitled =>
      rw [← isSome_catalogRecord, Option.not_isSome_iff_eq_none] at untitled
      exact untitled.symm

theorem length_filterMap_catalogRecord (items : List Json) :
    ((items.filter titled).filterMap catalogRecord).length =
      (items.filter titled).length := by
  rw [List.filterMap_length_eq_length]
  intro item member
  rw [isSome_catalogRecord]
  exact (List.mem_filter.mp member).2

/-- No title without an id is among the first ten, or no title with one is
behind them. -/
def NoneDisplaced (items : List Json) : Prop :=
  (∀ item ∈ (newest parse items).take continueWatchingLimit,
      titled item = true) ∨
    ∀ item ∈ (newest parse items).drop continueWatchingLimit,
      titled item = false

/-- The row has the first ten titles that can be published exactly if no title
without an id displaces another. -/
theorem continueWatching_eq_iff
    {library : Json}
    {items : List Json}
    (answered : (library.get "result").bind Json.asArray = some items) :
    continueWatching parse library =
        .ok (((newestPublishable parse items).take
          continueWatchingLimit).filterMap catalogRecord) ↔
      NoneDisplaced parse items := by
  unfold NoneDisplaced
  rw [← filter_take_eq_iff, newestPublishable_eq]
  unfold continueWatching
  rw [answered]
  change Except.ok (((newest parse items).take
    continueWatchingLimit).filterMap catalogRecord) = _ ↔ _
  rw [Except.ok.injEq, ← filterMap_catalogRecord]
  generalize newest parse items = row
  have within : (row.filter titled).take continueWatchingLimit =
      ((row.filter titled).take continueWatchingLimit).filter titled := by
    rw [eq_comm, List.filter_eq_self]
    intro item member
    exact (List.mem_filter.mp (List.mem_of_mem_take member)).2
  constructor
  · intro same
    have lengths := congrArg List.length same
    rw [length_filterMap_catalogRecord, within,
      length_filterMap_catalogRecord, ← within] at lengths
    have front : (row.take continueWatchingLimit).filter titled <+:
        row.filter titled := (List.take_prefix _ row).filter titled
    exact (List.prefix_of_prefix_length_le front (List.take_prefix _ _)
      (le_of_eq lengths)).eq_of_length lengths
  · intro same
    rw [same]

end Row

/-! ## The episode a title is at -/

/-- The id of a title. -/
def titleId (item : Json) : Option String :=
  ((item.get "_id").bind Json.asStr).map trimmed

/-- The id of the video a title is at. -/
def videoId (item : Json) : Option String :=
  ((state item).get "video_id").bind Json.asStr

/-- What is behind the id of a title names a season and an episode. -/
def Names (rest : List Char) (season episode : Nat) : Prop :=
  ∃ first second,
    rest = ':' :: (first ++ ':' :: second) ∧
      parseDigits first = some season ∧ parseDigits second = some episode

/-- What is behind the id of a title names a number that does not fit. -/
def Large (rest : List Char) : Prop :=
  ∃ season episode, Names rest season episode ∧
    (2 ^ 64 ≤ season ∨ 2 ^ 64 ≤ episode)

/-- What is behind the id of a title is read as two numbers although there is
not one separator before them, or a sign, or something behind them. -/
def Loose (rest : List Char) : Prop :=
  ∃ separators first second tail,
    rest = List.replicate separators ':' ++
        (first ++ ':' :: (second ++ tail)) ∧
      (parseU64 first).isSome ∧ (parseU64 second).isSome ∧
      (tail = [] ∨ tail.head? = some ':') ∧
      (separators ≠ 1 ∨ '+' ∈ first ∨ '+' ∈ second ∨ tail ≠ [])

/-- A title is at a video of which another episode is read than it names. -/
def Misread (item : Json) : Prop :=
  ∃ id ∈ titleId item, ∃ video ∈ videoId item, ∃ rest,
    video.toList = id.toList ++ rest ∧ (Large rest ∨ Loose rest)

/-- How `season_episode` reads what is behind the id of a title. -/
def readNumbers (rest : List Char) : Option (Nat × Nat) := do
  let (season, others) ← splitOnce ':' (rest.dropWhile (· == ':'))
  let episode := others.takeWhile (· != ':')
  pure (← parseU64 season, ← parseU64 episode)

theorem parseDigits_eq_some
    {digits : List Char}
    {value : Nat}
    (reads : parseDigits digits = some value) :
    digits ≠ [] ∧ ∀ digit ∈ digits, digit.isDigit = true := by
  unfold parseDigits at reads
  split at reads
  case isTrue => cases reads
  case isFalse solid =>
      rw [Bool.or_eq_true, not_or, List.isEmpty_iff, Bool.not_eq_true',
        Bool.not_eq_false, List.all_eq_true] at solid
      exact solid

theorem naturalOf_eq_some
    {digits : List Char}
    {value : Nat} :
    naturalOf digits = some value ↔
      parseDigits digits = some value ∧ value < 2 ^ 64 := by
  unfold naturalOf
  rw [Option.filter_eq_some_iff, decide_eq_true_iff]

/-- A number is written with digits and a sign before them, if at all. -/
theorem parseU64_eq_some
    {text : List Char}
    {value : Nat} :
    parseU64 text = some value ↔
      ∃ digits,
        (text = digits ∨ text = '+' :: digits) ∧
          parseDigits digits = some value ∧ value < 2 ^ 64 := by
  unfold parseU64
  split
  case h_1 digits =>
      rw [naturalOf_eq_some]
      constructor
      · intro reads
        exact ⟨digits, .inr rfl, reads⟩
      · rintro ⟨others, rfl | same, reads, fits⟩
        · have isDigit := (parseDigits_eq_some reads).2 '+'
            List.mem_cons_self
          exact absurd isDigit (by decide)
        · cases same
          exact ⟨reads, fits⟩
  case h_2 unsigned =>
      rw [naturalOf_eq_some]
      constructor
      · intro reads
        exact ⟨text, .inl rfl, reads⟩
      · rintro ⟨others, rfl | rfl, reads⟩
        · exact reads
        · exact absurd rfl (unsigned others)

/-- A number has no separator and is not empty. -/
theorem solid_of_parseU64
    {text : List Char}
    {value : Nat}
    (reads : parseU64 text = some value) :
    text ≠ [] ∧ ':' ∉ text := by
  obtain ⟨digits, written, reads, _⟩ := parseU64_eq_some.mp reads
  obtain ⟨solid, areDigits⟩ := parseDigits_eq_some reads
  have plain : ':' ∉ digits := by
    intro inside
    exact absurd (areDigits _ inside) (by decide)
  rcases written with rfl | rfl
  · exact ⟨solid, plain⟩
  · refine ⟨List.cons_ne_nil _ _, ?_⟩
    rw [List.mem_cons, not_or]
    exact ⟨by decide, plain⟩

/-! ### Cutting at separators -/

theorem takeWhile_append_of_tail
    {separator : Char}
    {text tail : List Char}
    (plain : separator ∉ text)
    (ends : tail = [] ∨ tail.head? = some separator) :
    (text ++ tail).takeWhile (· != separator) = text := by
  have within : ∀ character ∈ text, (character != separator) = true := by
    intro character member
    rw [bne_iff_ne]
    rintro rfl
    exact plain member
  rw [List.takeWhile_append_of_pos within]
  rcases ends with rfl | starts
  · rw [List.takeWhile_nil, List.append_nil]
  · cases tail with
    | nil => cases starts
    | cons head tail =>
        cases starts
        rw [List.takeWhile_cons_of_neg (by simp), List.append_nil]

theorem dropWhile_replicate_append
    {separator : Char}
    (count : Nat)
    {text : List Char}
    (solid : text ≠ [])
    (plain : separator ∉ text)
    (back : List Char) :
    (List.replicate count separator ++ (text ++ back)).dropWhile
        (· == separator) = text ++ back := by
  have within : ∀ character ∈ List.replicate count separator,
      (character == separator) = true := by
    intro character member
    rw [beq_iff_eq]
    exact List.eq_of_mem_replicate member
  rw [List.dropWhile_append_of_pos within]
  cases text with
  | nil => exact absurd rfl solid
  | cons head text =>
      rw [List.mem_cons, not_or] at plain
      rw [List.cons_append, List.dropWhile_cons_of_neg]
      rw [beq_iff_eq]
      exact Ne.symm plain.1

/-- Two numbers that are cut out are read one after the other. -/
theorem readNumbers_of_solid
    (separators : Nat)
    {first second tail : List Char}
    (solid : first ≠ [])
    (plainFirst : ':' ∉ first)
    (plainSecond : ':' ∉ second)
    (ends : tail = [] ∨ tail.head? = some ':') :
    readNumbers (List.replicate separators ':' ++
        (first ++ ':' :: (second ++ tail))) =
      (parseU64 first).bind fun season =>
        (parseU64 second).map fun episode => (season, episode) := by
  unfold readNumbers
  rw [dropWhile_replicate_append separators solid plainFirst,
    splitOnce_append plainFirst]
  change (parseU64 first).bind (fun season =>
    (parseU64 ((second ++ tail).takeWhile (· != ':'))).bind fun episode =>
      some (season, episode)) = _
  rw [takeWhile_append_of_tail plainSecond ends]
  cases parseU64 first with
  | none => rfl
  | some season => cases parseU64 second <;> rfl

/-- What is read: separators, two numbers with one separator between them, and
nothing or a separator behind them. -/
theorem readNumbers_eq_some
    {rest : List Char}
    {season episode : Nat} :
    readNumbers rest = some (season, episode) ↔
      ∃ separators first second tail,
        rest = List.replicate separators ':' ++
            (first ++ ':' :: (second ++ tail)) ∧
          parseU64 first = some season ∧ parseU64 second = some episode ∧
          (tail = [] ∨ tail.head? = some ':') := by
  constructor
  · intro reads
    unfold readNumbers at reads
    obtain ⟨⟨first, others⟩, cut, reads⟩ := Option.bind_eq_some_iff.mp reads
    obtain ⟨_, readsFirst, reads⟩ := Option.bind_eq_some_iff.mp reads
    obtain ⟨_, readsSecond, reads⟩ := Option.bind_eq_some_iff.mp reads
    cases reads
    obtain ⟨whole, _⟩ := splitOnce_eq_some cut
    refine ⟨(rest.takeWhile (· == ':')).length, first,
      others.takeWhile (· != ':'), others.dropWhile (· != ':'), ?_,
      readsFirst, readsSecond, ?_⟩
    · have separators : rest.takeWhile (· == ':') =
          List.replicate (rest.takeWhile (· == ':')).length ':' := by
        rw [List.eq_replicate_iff]
        refine ⟨rfl, fun character member => ?_⟩
        exact eq_of_beq
          (List.all_eq_true.mp List.all_takeWhile character member)
      rw [List.takeWhile_append_dropWhile, ← whole, ← separators,
        List.takeWhile_append_dropWhile]
    · cases behind : others.dropWhile (· != ':') with
      | nil => exact .inl rfl
      | cons head tail =>
          right
          have stops := List.head?_dropWhile_not (· != ':') others
          rw [behind] at stops
          simpa using stops
  · rintro ⟨separators, first, second, tail, rfl, readsFirst, readsSecond,
      ends⟩
    obtain ⟨solid, plainFirst⟩ := solid_of_parseU64 readsFirst
    rw [readNumbers_of_solid separators solid plainFirst
      (solid_of_parseU64 readsSecond).2 ends, readsFirst, readsSecond]
    rfl

/-! ### Reading and naming -/

theorem readNumbers_of_names
    {rest : List Char}
    {season episode : Nat}
    (fits : season < 2 ^ 64 ∧ episode < 2 ^ 64)
    (names : Names rest season episode) :
    readNumbers rest = some (season, episode) := by
  obtain ⟨first, second, rfl, readsFirst, readsSecond⟩ := names
  refine readNumbers_eq_some.mpr ⟨1, first, second, [], ?_, ?_, ?_, .inl rfl⟩
  · rw [List.append_nil]
    rfl
  · exact parseU64_eq_some.mpr ⟨first, .inl rfl, readsFirst, fits.1⟩
  · exact parseU64_eq_some.mpr ⟨second, .inl rfl, readsSecond, fits.2⟩

/-- The digits of a number have no separator. -/
theorem solid_of_parseDigits
    {digits : List Char}
    {value : Nat}
    (reads : parseDigits digits = some value) :
    digits ≠ [] ∧ ':' ∉ digits ∧ '+' ∉ digits := by
  obtain ⟨solid, areDigits⟩ := parseDigits_eq_some reads
  refine ⟨solid, fun inside => ?_, fun inside => ?_⟩
  · exact absurd (areDigits _ inside) (by decide)
  · exact absurd (areDigits _ inside) (by decide)

/-- A number without a sign is its digits. -/
theorem parseDigits_of_unsigned
    {text : List Char}
    {value : Nat}
    (reads : parseU64 text = some value)
    (unsigned : '+' ∉ text) :
    parseDigits text = some value := by
  obtain ⟨digits, rfl | rfl, areDigits, _⟩ := parseU64_eq_some.mp reads
  · exact areDigits
  · exact absurd List.mem_cons_self unsigned

/-- A text is cut into two numbers in one way. -/
theorem cut_unique
    {separators : Nat}
    {first second tail digits others : List Char}
    (same : List.replicate separators ':' ++
        (first ++ ':' :: (second ++ tail)) =
      ':' :: (digits ++ ':' :: others))
    (solid : first ≠ [] ∧ ':' ∉ first)
    (ends : tail = [] ∨ tail.head? = some ':')
    (areDigits : digits ≠ [] ∧ ':' ∉ digits)
    (plainOthers : ':' ∉ others) :
    separators = 1 ∧ first = digits ∧ second = others ∧ tail = [] := by
  have behind := congrArg (List.dropWhile (· == ':')) same
  have one : ':' :: (digits ++ ':' :: others) =
      List.replicate 1 ':' ++ (digits ++ ':' :: others) := rfl
  rw [dropWhile_replicate_append separators solid.1 solid.2, one,
    dropWhile_replicate_append 1 areDigits.1 areDigits.2] at behind
  have cuts := congrArg (splitOnce ':') behind
  rw [splitOnce_append solid.2, splitOnce_append areDigits.2,
    Option.some.injEq, Prod.mk.injEq] at cuts
  obtain ⟨rfl, rest⟩ := cuts
  have ended : tail = [] := by
    rcases ends with none | starts
    · exact none
    · cases tail with
      | nil => rfl
      | cons head tail =>
          cases starts
          rw [← rest] at plainOthers
          exact absurd (List.mem_append_right _ List.mem_cons_self)
            plainOthers
  subst ended
  rw [List.append_nil] at rest
  subst rest
  have lengths := congrArg List.length same
  simp only [List.length_append, List.length_replicate, List.length_cons,
    List.append_nil] at lengths
  exact ⟨by omega, rfl, rfl, rfl⟩

/-- What is read is what is named, of every two numbers, exactly when no
number named is too large and nothing else is read. -/
theorem readNumbers_iff_names
    {rest : List Char} :
    (∀ season episode, readNumbers rest = some (season, episode) ↔
        Names rest season episode) ↔
      ¬ (Large rest ∨ Loose rest) := by
  constructor
  · rintro exactly (⟨season, episode, names, large⟩ |
      ⟨separators, first, second, tail, rfl, readsFirst, readsSecond, ends,
        loose⟩)
    · obtain ⟨_, first, second, _, _, readsFirst, readsSecond, _⟩ :=
        readNumbers_eq_some.mp ((exactly season episode).mpr names)
      obtain ⟨_, _, _, fitsFirst⟩ := parseU64_eq_some.mp readsFirst
      obtain ⟨_, _, _, fitsSecond⟩ := parseU64_eq_some.mp readsSecond
      omega
    · obtain ⟨season, readsFirst⟩ := Option.isSome_iff_exists.mp readsFirst
      obtain ⟨episode, readsSecond⟩ := Option.isSome_iff_exists.mp readsSecond
      have solid := solid_of_parseU64 readsFirst
      obtain ⟨digits, others, same, areDigits, areOthers⟩ :=
        (exactly season episode).mp (readNumbers_eq_some.mpr
          ⟨separators, first, second, tail, rfl, readsFirst, readsSecond,
            ends⟩)
      obtain ⟨digitsSolid, digitsPlain, unsigned⟩ :=
        solid_of_parseDigits areDigits
      obtain ⟨_, othersPlain, unsignedOthers⟩ :=
        solid_of_parseDigits areOthers
      obtain ⟨rfl, rfl, rfl, rfl⟩ := cut_unique same solid ends
        ⟨digitsSolid, digitsPlain⟩ othersPlain
      rcases loose with several | signed | signed | more
      · exact several rfl
      · exact unsigned signed
      · exact unsignedOthers signed
      · exact more rfl
  · intro regular season episode
    rw [not_or] at regular
    constructor
    · intro reads
      obtain ⟨separators, first, second, tail, same, readsFirst, readsSecond,
        ends⟩ := readNumbers_eq_some.mp reads
      have strict : ¬ (separators ≠ 1 ∨ '+' ∈ first ∨ '+' ∈ second ∨
          tail ≠ []) := by
        intro loose
        exact regular.2 ⟨separators, first, second, tail, same,
          Option.isSome_iff_exists.mpr ⟨_, readsFirst⟩,
          Option.isSome_iff_exists.mpr ⟨_, readsSecond⟩, ends, loose⟩
      simp only [not_or, ne_eq, not_not] at strict
      obtain ⟨rfl, unsigned, unsignedSecond, rfl⟩ := strict
      refine ⟨first, second, by rw [same, List.append_nil]; rfl, ?_, ?_⟩
      · exact parseDigits_of_unsigned readsFirst unsigned
      · exact parseDigits_of_unsigned readsSecond unsignedSecond
    · intro names
      refine readNumbers_of_names ?_ names
      by_contra large
      exact regular.1 ⟨season, episode, names, by omega⟩

/-! ## The row -/

/-- The id of the video a title is at is the id of the title, a season and an
episode. -/
def AtEpisode (item : Json) (season episode : Nat) : Prop :=
  ∃ id ∈ titleId item, ∃ video ∈ videoId item, ∃ rest,
    video.toList = id.toList ++ rest ∧ Names rest season episode

theorem seasonEpisode_eq
    (item : Json)
    (id : String) :
    seasonEpisode item id =
      (videoId item).bind fun video =>
        (stripped id video).bind fun rest => readNumbers rest.toList := rfl

theorem stripped_eq_some_iff
    {head text rest : String} :
    stripped head text = some rest ↔
      text.toList = head.toList ++ rest.toList := by
  unfold stripped
  split
  case isTrue isHead =>
      obtain ⟨others, whole⟩ := List.isPrefixOf_iff_prefix.mp isHead
      rw [← whole, List.drop_left, List.append_cancel_left_eq,
        Option.some.injEq, String.ext_iff, String.toList_ofList]
  case isFalse other =>
      refine iff_of_false (by simp) ?_
      intro whole
      exact other (List.isPrefixOf_iff_prefix.mpr ⟨_, whole.symm⟩)

theorem seasonEpisode_eq_some_iff
    {item : Json}
    {id : String}
    {season episode : Nat} :
    seasonEpisode item id = some (season, episode) ↔
      ∃ video ∈ videoId item, ∃ rest,
        video.toList = id.toList ++ rest ∧
          readNumbers rest = some (season, episode) := by
  rw [seasonEpisode_eq, Option.bind_eq_some_iff]
  refine exists_congr fun video => and_congr_right fun _ => ?_
  rw [Option.bind_eq_some_iff]
  constructor
  · rintro ⟨rest, strips, reads⟩
    exact ⟨rest.toList, stripped_eq_some_iff.mp strips, reads⟩
  · rintro ⟨rest, whole, reads⟩
    refine ⟨.ofList rest, stripped_eq_some_iff.mpr ?_, ?_⟩
    · rw [String.toList_ofList]
      exact whole
    · rw [String.toList_ofList]
      exact reads

theorem seasonEpisode_of_catalogRecord
    {item : Json}
    {record : CatalogRecord Metadata}
    (made : record ∈ catalogRecord item) :
    ∃ id, titleId item = some id ∧
      record.metadata.seasonEpisode = seasonEpisode item id := by
  unfold catalogRecord at made
  obtain ⟨text, hasId, made⟩ := Option.bind_eq_some_iff.mp made
  dsimp only at made
  split at made
  case isTrue nameless => cases made
  case isFalse named =>
      cases made
      refine ⟨trimmed text, ?_, rfl⟩
      unfold titleId
      rw [hasId]
      rfl

/-- A record has the episode that the video of its title names exactly if the
title is not misread. -/
theorem seasonEpisode_iff
    {item : Json}
    {record : CatalogRecord Metadata}
    (made : record ∈ catalogRecord item) :
    (∀ season episode,
      record.metadata.seasonEpisode = some (season, episode) ↔
        AtEpisode item season episode) ↔
      ¬ Misread item := by
  obtain ⟨id, hasId, same⟩ := seasonEpisode_of_catalogRecord made
  rw [same]
  unfold AtEpisode Misread
  simp only [seasonEpisode_eq_some_iff, hasId, Option.mem_def,
    Option.some.injEq, exists_eq_left']
  constructor
  · rintro exactly ⟨video, isVideo, rest, whole, misread⟩
    refine readNumbers_iff_names.mp (fun season episode => ?_) misread
    have apart := exactly season episode
    simp only [isVideo, Option.some.injEq, exists_eq_left', whole,
      List.append_cancel_left_eq] at apart
    exact apart
  · intro regular season episode
    refine exists_congr fun video => and_congr_right fun isVideo =>
      exists_congr fun rest => and_congr_right fun whole => ?_
    exact readNumbers_iff_names.mpr
      (fun misread => regular ⟨video, isVideo, rest, whole, misread⟩)
      season episode

section Row

variable (parse : String → Option Int)

/-- The row has the first ten titles that can be published, and every record
of it the episode that the video of its title names. -/
def SelectsRow (library : Json) (items : List Json) : Prop :=
  continueWatching parse library =
      .ok (((newestPublishable parse items).take
        continueWatchingLimit).filterMap catalogRecord) ∧
    ∀ item ∈ (newest parse items).take continueWatchingLimit,
      ∀ record ∈ catalogRecord item, ∀ season episode,
        record.metadata.seasonEpisode = some (season, episode) ↔
          AtEpisode item season episode

/-- The row of an account is what it is to be exactly if no title without an
id displaces another from it and no title of it is misread. -/
theorem selectsRow_iff
    {library : Json}
    {items : List Json}
    (answered : (library.get "result").bind Json.asArray = some items) :
    SelectsRow parse library items ↔
      NoneDisplaced parse items ∧
        ∀ item ∈ (newest parse items).take continueWatchingLimit,
          titled item = true → ¬ Misread item := by
  unfold SelectsRow
  rw [continueWatching_eq_iff parse answered]
  refine and_congr_right fun _ => forall₂_congr fun item _ => ?_
  rw [← isSome_catalogRecord]
  cases made : catalogRecord item with
  | none => simp
  | some record =>
      simp only [Option.mem_def, Option.some.injEq, forall_eq',
        Option.isSome_some, forall_const]
      exact seasonEpisode_iff (made ▸ rfl)

end Row

/-- A series that is at a video. -/
def series (id video : String) : Json :=
  .object
    [("_id", .string id), ("type", .string "series"),
      ("state", .object
        [("timeOffset", .number "60000"), ("video_id", .string video)])]

/-- The second season of a series, in its tenth episode. -/
def strain : Json := series "tt2654620" "tt2654620:2:10"

/-- What is behind the id of the series is not misread. -/
theorem strain_is_regular : ¬ Misread strain := by
  rintro ⟨id, isId, video, isVideo, rest, whole, misread⟩
  cases isId
  cases isVideo
  have named : (trimmed "tt2654620").toList = "tt2654620".toList := by decide
  have parts : "tt2654620:2:10".toList =
      "tt2654620".toList ++ [':', '2', ':', '1', '0'] := by decide
  rw [named, parts] at whole
  cases List.append_cancel_left whole
  refine readNumbers_iff_names.mp (fun season episode => ?_) misread
  have reads : readNumbers [':', '2', ':', '1', '0'] = some (2, 10) := by
    decide
  constructor
  · intro same
    cases reads.symm.trans same
    exact ⟨['2'], ['1', '0'], rfl, by decide, by decide⟩
  · rintro ⟨first, second, same, readsFirst, readsSecond⟩
    have plain := (solid_of_parseDigits readsFirst).2.1
    have cuts := splitOnce_append plain second
    rw [← @List.tail_cons _ ':' (first ++ ':' :: second), ← same] at cuts
    cases cuts
    cases readsFirst
    cases readsSecond
    exact reads

theorem selectsRow_iff_strain :
    SelectsRow (fun _ => none) (libraryOf [strain]) [strain] := by
  have row : newest (fun _ => none) [strain] = [strain] := by rfl
  refine (selectsRow_iff (fun _ => none) rfl).mpr ⟨.inl ?_, ?_⟩
  · decide
  · intro item member _
    rw [row] at member
    rw [List.mem_singleton.mp (List.mem_of_mem_take member)]
    exact strain_is_regular

/-- The video of another title, whose id begins with the id of this one. -/
def begun : Json := series "tt0149460" "tt01494601:4:7"

/-- Another episode than the video names is read of it. -/
theorem other_title_is_read :
    (continueWatching (fun _ => none) (libraryOf [begun])).map
        (List.map fun record => record.metadata.seasonEpisode) =
      .ok [some (1, 4)] ∧
    ¬ SelectsRow (fun _ => none) (libraryOf [begun]) [begun] := by
  refine ⟨by decide +kernel, ?_⟩
  rintro ⟨_, episodes⟩
  have row : newest (fun _ => none) [begun] = [begun] := by rfl
  rw [row] at episodes
  have reads := episodes begun List.mem_cons_self _ rfl 1 4
  obtain ⟨id, isId, video, isVideo, rest, whole, first, second, same, _⟩ :=
    reads.mp (by decide +kernel)
  cases isId
  cases isVideo
  have named : (trimmed "tt0149460").toList = "tt0149460".toList := by decide
  have parts : "tt01494601:4:7".toList =
      "tt0149460".toList ++ ['1', ':', '4', ':', '7'] := by decide
  rw [named, parts] at whole
  rw [← List.append_cancel_left whole] at same
  cases same

end Stremio
end Daemon
end Hearthdeck
