import Hearthdeck.Foundation.CivilDays

/-!
# Release dates of RomM

RomM reports the release of a game in seconds or in milliseconds since 1970,
and does not say which.  The daemon goes by the size of the number: above a
bound that seconds reach in 5138 it takes it for milliseconds.

Which year and which date an instant has is the business of another library,
and a parameter here.
-/

namespace Hearthdeck
namespace Daemon
namespace Romm

open Foundation

/-- `RELEASE_MILLIS_THRESHOLD`. -/
def releaseMillisThreshold : Int := 100000000000

/-- An `i64`. -/
def IsI64 (value : Int) : Prop := -2 ^ 63 ≤ value ∧ value < 2 ^ 63

instance (value : Int) : Decidable (IsI64 value) :=
  inferInstanceAs (Decidable (_ ∧ _))

/-- `RommGameMetadata`, as far as the release goes. -/
structure RommGameMetadata where
  firstReleaseDate : Option Int
  inRange : ∀ timestamp ∈ firstReleaseDate, IsI64 timestamp

/-- The metadata of a game with a release. -/
def RommGameMetadata.ofTimestamp
    (timestamp : Int)
    (inRange : IsI64 timestamp) : RommGameMetadata where
  firstReleaseDate := some timestamp
  inRange _ isOther := Option.some.inj isOther ▸ inRange

/-- What the arithmetic of an `i64` can run into. -/
inductive Fault
  | overflow
  deriving DecidableEq, Repr

/-- `i64::abs`. -/
def checkedAbs (value : Int) : Except Fault Int :=
  if value.natAbs < 2 ^ 63 then .ok value.natAbs else .error .overflow

/-- `release_seconds`. -/
def releaseSeconds (metadata : RommGameMetadata) : Except Fault (Option Int) :=
  match metadata.firstReleaseDate with
  | none => .ok none
  | some timestamp => do
      let magnitude ← checkedAbs timestamp
      if releaseMillisThreshold < magnitude then
        .ok (some (timestamp.tdiv 1000))
      else
        .ok (some timestamp)

/-- What `DateTime::from_timestamp` and the accessors of its answer make of a
number of seconds. -/
structure Calendar where
  year : Int → Option Int
  /-- The date in the form `%Y-%m-%d`. -/
  date : Int → Option String

/-- The last second of 9999. -/
def lastSecond : Int := 253402300799

/-- The calendar is the Gregorian one: a second has the year it lies in, and
all seconds of a day have one date. -/
structure Calendar.Lawful (calendar : Calendar) : Prop where
  years : ∀ seconds, 0 ≤ seconds → seconds ≤ lastSecond →
    ∃ year, calendar.year seconds = some year ∧
      86400 * Civil.daysBefore year ≤ seconds ∧
      seconds < 86400 * Civil.daysBefore (year + 1)
  daily : ∀ seconds other, 0 ≤ seconds → 0 ≤ other → seconds ≤ lastSecond →
    other ≤ lastSecond → seconds / 86400 = other / 86400 →
    calendar.date seconds = calendar.date other

variable (calendar : Calendar)

/-- `release_year`. -/
def releaseYear (metadata : RommGameMetadata) : Except Fault (Option Int) := do
  let seconds ← releaseSeconds metadata
  .ok (seconds.bind calendar.year)

/-- `release_date`. -/
def releaseDate
    (metadata : RommGameMetadata) : Except Fault (Option String) := do
  let seconds ← releaseSeconds metadata
  .ok (seconds.bind calendar.date)

/-! ## Seconds -/

variable {calendar} {metadata : RommGameMetadata} {timestamp : Int}

theorem checkedAbs_eq_ok
    (inRange : IsI64 timestamp)
    (above : timestamp ≠ -2 ^ 63) :
    checkedAbs timestamp = .ok timestamp.natAbs := by
  obtain ⟨low, high⟩ := inRange
  exact if_pos (by omega)

/-- A number above the bound is taken for milliseconds. -/
theorem releaseSeconds_eq
    (isTimestamp : metadata.firstReleaseDate = some timestamp)
    (above : timestamp ≠ -2 ^ 63) :
    releaseSeconds metadata =
      .ok (some (if releaseMillisThreshold < timestamp.natAbs then
        timestamp.tdiv 1000
      else
        timestamp)) := by
  have isOk := checkedAbs_eq_ok
    (metadata.inRange timestamp (Option.mem_def.mpr isTimestamp)) above
  rw [releaseSeconds, isTimestamp]
  dsimp only
  rw [isOk]
  exact (apply_ite (fun seconds => Except.ok (some seconds)) _ _ _).symm

/-- No number but the least makes the daemon overflow. -/
theorem exists_releaseSeconds
    (above : metadata.firstReleaseDate ≠ some (-2 ^ 63)) :
    ∃ seconds, releaseSeconds metadata = .ok seconds := by
  cases isTimestamp : metadata.firstReleaseDate with
  | none => exact ⟨none, by rw [releaseSeconds, isTimestamp]⟩
  | some timestamp =>
      refine ⟨_, releaseSeconds_eq isTimestamp fun least => above ?_⟩
      rw [isTimestamp, least]

theorem releaseSeconds_of_le
    (isTimestamp : metadata.firstReleaseDate = some timestamp)
    (nonneg : 0 ≤ timestamp)
    (within : timestamp ≤ releaseMillisThreshold) :
    releaseSeconds metadata = .ok (some timestamp) := by
  rw [releaseSeconds_eq isTimestamp (by omega), if_neg (by omega)]

theorem releaseSeconds_of_lt
    (isTimestamp : metadata.firstReleaseDate = some timestamp)
    (beyond : releaseMillisThreshold < timestamp) :
    releaseSeconds metadata = .ok (some (timestamp / 1000)) := by
  have nonneg : 0 ≤ timestamp := by
    rw [releaseMillisThreshold] at beyond
    omega
  rw [releaseSeconds_eq isTimestamp (by omega), if_pos (by omega),
    Int.tdiv_eq_ediv_of_nonneg nonneg]

/-! ## Either unit -/

/-- Two metadata give the same date and year. -/
def SameRelease (calendar : Calendar) (left right : RommGameMetadata) : Prop :=
  releaseDate calendar left = releaseDate calendar right ∧
    releaseYear calendar left = releaseYear calendar right

theorem sameRelease_of_seconds
    {left right : RommGameMetadata}
    (same : releaseSeconds left = releaseSeconds right) :
    SameRelease calendar left right := by
  rw [SameRelease, releaseDate, releaseDate, releaseYear, releaseYear, same]
  exact ⟨rfl, rfl⟩

/-- The first day lies in the first year. -/
theorem eq_1970
    {seconds year : Int}
    (nonneg : 0 ≤ seconds)
    (first : seconds < 86400)
    (starts : 86400 * Civil.daysBefore year ≤ seconds)
    (stops : seconds < 86400 * Civil.daysBefore (year + 1)) :
    year = 1970 := by
  have start : Civil.daysBefore 1970 = 0 := by decide
  have next : Civil.daysBefore (1970 + 1) = 365 := by decide
  have atMost : year < 1970 + 1 :=
    Civil.daysBefore_lt_iff.mp (by omega)
  have atLeast : 1970 < year + 1 :=
    Civil.daysBefore_lt_iff.mp (by omega)
  omega

/-- The first seconds of 1970 are of one day in either unit. -/
theorem sameRelease_of_first
    (lawful : calendar.Lawful)
    {instant : Int}
    {inSeconds inMillis : RommGameMetadata}
    (nonneg : 0 ≤ instant)
    (first : instant ≤ 86)
    (isSeconds : inSeconds.firstReleaseDate = some instant)
    (isMillis : inMillis.firstReleaseDate = some (1000 * instant)) :
    SameRelease calendar inSeconds inMillis := by
  have bound : 86000 ≤ releaseMillisThreshold := by decide
  have ends : 86000 ≤ lastSecond := by decide
  have seconds := releaseSeconds_of_le isSeconds nonneg (by omega)
  have millis := releaseSeconds_of_le isMillis (by omega) (by omega)
  have sameDate := lawful.daily instant (1000 * instant) nonneg (by omega)
    (by omega) (by omega) (by omega)
  obtain ⟨year, isYear, starts, stops⟩ :=
    lawful.years instant nonneg (by omega)
  obtain ⟨other, isOther, otherStarts, otherStops⟩ :=
    lawful.years (1000 * instant) (by omega) (by omega)
  have sameYear : year = other := by
    rw [eq_1970 nonneg (by omega) starts stops,
      eq_1970 (by omega) (by omega) otherStarts otherStops]
  rw [SameRelease, releaseDate, releaseDate, releaseYear, releaseYear, seconds,
    millis]
  refine ⟨congrArg Except.ok sameDate, congrArg Except.ok ?_⟩
  rw [Option.bind_some, Option.bind_some, isYear, isOther, sameYear]

/-- Up to the bound both units are read as the same seconds. -/
theorem sameRelease_of_le
    (lawful : calendar.Lawful)
    {instant : Int}
    {inSeconds inMillis : RommGameMetadata}
    (nonneg : 0 ≤ instant)
    (within : instant ≤ releaseMillisThreshold)
    (early : instant ≤ 86 ∨ 100000000 < instant)
    (isSeconds : inSeconds.firstReleaseDate = some instant)
    (isMillis : inMillis.firstReleaseDate = some (1000 * instant)) :
    SameRelease calendar inSeconds inMillis := by
  rcases early with first | late
  · exact sameRelease_of_first lawful nonneg first isSeconds isMillis
  · have beyond : releaseMillisThreshold < 1000 * instant := by
      rw [releaseMillisThreshold]
      omega
    apply sameRelease_of_seconds
    rw [releaseSeconds_of_le isSeconds nonneg within,
      releaseSeconds_of_lt isMillis beyond,
      Int.mul_ediv_cancel_left _ (by decide)]

/-- Above the bound a number of seconds is read as a thousandth of it, a day
of the twentieth century. -/
theorem years_ne
    (lawful : calendar.Lawful)
    {instant : Int}
    {inSeconds inMillis : RommGameMetadata}
    (last : instant ≤ lastSecond)
    (beyond : releaseMillisThreshold < instant)
    (isSeconds : inSeconds.firstReleaseDate = some instant)
    (isMillis : inMillis.firstReleaseDate = some (1000 * instant)) :
    releaseYear calendar inSeconds ≠ releaseYear calendar inMillis := by
  have positive : 0 < instant := by
    rw [releaseMillisThreshold] at beyond
    omega
  have seconds := releaseSeconds_of_lt isSeconds beyond
  have millis := releaseSeconds_of_lt isMillis (by omega)
  rw [Int.mul_ediv_cancel_left _ (by decide)] at millis
  obtain ⟨year, isYear, starts, stops⟩ :=
    lawful.years (instant / 1000) (by omega) (by omega)
  obtain ⟨other, isOther, otherStarts, otherStops⟩ :=
    lawful.years instant positive.le last
  have early : year < 1979 := by
    have start : Civil.daysBefore 1979 = 3287 := by decide
    rw [lastSecond] at last
    exact Civil.daysBefore_lt_iff.mp (by omega)
  have late : 5138 < other + 1 := by
    have start : Civil.daysBefore 5138 = 1157088 := by decide
    rw [releaseMillisThreshold] at beyond
    exact Civil.daysBefore_lt_iff.mp (by omega)
  rw [releaseYear, releaseYear, seconds, millis]
  intro same
  have sameYear := Except.ok.inj same
  rw [Option.bind_some, Option.bind_some, isYear, isOther] at sameYear
  have isSame := Option.some.inj sameYear
  omega

/-- An instant of a day from 1973 to 9999 means the same in seconds and in
milliseconds if and only if it is not above the bound; so does one of the first
instants of 1970, and nothing but the least number makes the daemon overflow. -/
theorem same_release_iff
    (calendar : Calendar)
    (lawful : calendar.Lawful) :
    (∀ (instant : Int) (inSeconds inMillis : RommGameMetadata),
      0 ≤ instant → instant ≤ lastSecond →
      (instant ≤ 86 ∨ 100000000 < instant) →
      inSeconds.firstReleaseDate = some instant →
      inMillis.firstReleaseDate = some (1000 * instant) →
      (SameRelease calendar inSeconds inMillis ↔
        instant ≤ releaseMillisThreshold)) ∧
    ∀ metadata : RommGameMetadata,
      metadata.firstReleaseDate ≠ some (-2 ^ 63) →
      ∃ seconds, releaseSeconds metadata = .ok seconds := by
  refine ⟨fun instant inSeconds inMillis nonneg last early isSeconds isMillis =>
    ?_, fun metadata above => exists_releaseSeconds above⟩
  by_cases within : instant ≤ releaseMillisThreshold
  · exact iff_of_true
      (sameRelease_of_le lawful nonneg within early isSeconds isMillis) within
  · refine iff_of_false (fun same => ?_) within
    exact years_ne lawful last (not_le.mp within) isSeconds isMillis same.2

/-- The Gregorian calendar, from 1970 on. -/
def gregorian : Calendar where
  year seconds :=
    if 0 ≤ seconds then
      some (Civil.yearAt (seconds / 86400).toNat)
    else
      none
  date seconds :=
    if 0 ≤ seconds then
      some (Civil.dateText (seconds / 86400).toNat)
    else
      none

theorem gregorian_lawful : gregorian.Lawful where
  years seconds nonneg _ := by
    refine ⟨_, if_pos nonneg, ?_⟩
    obtain ⟨starts, stops⟩ := Civil.yearAt_spec (seconds / 86400).toNat
    omega
  daily seconds other nonneg otherNonneg _ _ sameDay := by
    simp only [gregorian, nonneg, otherNonneg, sameDay]

/-- The release of a test of the source, in either unit. -/
theorem same_release_iff_in_1995 :
    SameRelease gregorian (.ofTimestamp 791596800 (by decide))
      (.ofTimestamp 791596800000 (by decide)) :=
  ((same_release_iff gregorian gregorian_lawful).1 791596800 _ _ (by decide)
    (by decide) (.inr (by decide)) rfl rfl).mpr (by decide)

/-- A second of 5138 is read as one of 1973. -/
theorem second_of_5138_is_read_as_of_1973 :
    releaseDate gregorian (.ofTimestamp 100000000001 (by decide)) =
        .ok (some "1973-03-03") ∧
      releaseDate gregorian (.ofTimestamp 100000000001000 (by decide)) =
        .ok (some "5138-11-16") ∧
      releaseYear gregorian (.ofTimestamp 100000000001 (by decide)) =
        .ok (some 1973) ∧
      releaseYear gregorian (.ofTimestamp 100000000001000 (by decide)) =
        .ok (some 5138) := by
  refine ⟨?_, ?_, ?_, ?_⟩ <;> decide +kernel

end Romm
end Daemon
end Hearthdeck
