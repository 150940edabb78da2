import Hearthdeck.Foundation.CalendarText
import Mathlib.Algebra.Order.Ring.Int
import Mathlib.Data.Nat.Find

/-!
# Days of the calendar

A day is the number of days since the start of 1970.  Its year is the last one
that starts on it or before, its month the last of the year that does, by the
Gregorian rule for leap years.
-/

namespace Hearthdeck
namespace Foundation
namespace Civil

/-- The day a year starts on. -/
def daysBefore (year : Int) : Int :=
  365 * (year - 1970) + (year - 1969) / 4 - (year - 1901) / 100 +
    (year - 1601) / 400

/-- Years start in their order. -/
theorem daysBefore_lt_iff
    {year next : Int} :
    daysBefore year < daysBefore next ↔ year < next := by
  simp only [daysBefore]
  constructor
  · intro starts
    by_contra later
    omega
  · intro earlier
    omega

/-- The year of a day.  No year is shorter than 365 days. -/
def yearAt (day : Nat) : Nat :=
  Nat.findGreatest (fun year => daysBefore year ≤ day) (1970 + day / 365)

/-- A day lies in its year. -/
theorem yearAt_spec (day : Nat) :
    daysBefore (yearAt day) ≤ day ∧
      (day : Int) < daysBefore (yearAt day + 1) := by
  have start : daysBefore ((1970 : Nat) : Int) ≤ day := by
    simp only [daysBefore]
    omega
  have reached : 1970 ≤ 1970 + day / 365 := Nat.le_add_right _ _
  refine ⟨Nat.findGreatest_spec (P := fun year : Nat =>
    daysBefore year ≤ day) reached start, ?_⟩
  by_contra later
  have within : yearAt day + 1 ≤ 1970 + day / 365 := by
    by_contra beyond
    simp only [daysBefore] at later
    omega
  have starts : daysBefore ((yearAt day + 1 : Nat) : Int) ≤ day := by
    push_cast
    exact not_lt.mp later
  have atLeast : yearAt day + 1 ≤ yearAt day :=
    Nat.le_findGreatest within starts
  omega

/-- A leap year has one day more. -/
def leap (year : Nat) : Bool :=
  daysBefore (year + 1) - daysBefore year = 366

/-- The day of its year a month starts on. -/
def daysBeforeMonth (leap : Bool) (month : Nat) : Nat :=
  ([0, 31, 59, 90, 120, 151, 181, 212, 243, 273, 304, 334].getD (month - 1) 0) +
    if leap && 2 < month then 1 else 0

/-- The month of a day of a year. -/
def monthAt (leap : Bool) (dayOfYear : Nat) : Nat :=
  Nat.findGreatest
    (fun month => 1 ≤ month ∧ daysBeforeMonth leap month ≤ dayOfYear) 12

/-- The date of a day, in the form `%Y-%m-%d`. -/
def dateText (day : Nat) : String :=
  let year := yearAt day
  let dayOfYear := (day - daysBefore year).toNat
  let month := monthAt (leap year) dayOfYear
  let inMonth := dayOfYear - daysBeforeMonth (leap year) month + 1
  .ofList (UtcInstant.yearText year ++ '-' :: (padded 2 month ++
    '-' :: padded 2 inMonth))

example : dateText 9162 = "1995-02-01" := by decide +kernel

end Civil
end Foundation
end Hearthdeck
