import Mathlib.Data.Prod.Lex
import Mathlib.Data.String.Basic

/-!
# Instants and how they are written

An instant of the proleptic calendar in universal time, to the nanosecond, and
its text: the date, the time, as many digits of the second as are needed in
groups of three, and the offset.  Years of up to four digits are written with
four, later ones with a sign.

Texts are compared character by character.  For years of four digits the order
of the texts is the order of the instants: all fields before the fraction have
a fixed width, and the sign of the offset is below the point and below every
digit.
-/

namespace Hearthdeck
namespace Foundation

/-! ## Numbers of a fixed width -/

/-- The character of a decimal digit. -/
def digit (value : Nat) : Char :=
  Char.ofNat (48 + value)

/-- A number with as many digits as are asked for. -/
def padded : Nat → Nat → List Char
  | 0, _ => []
  | width + 1, value => padded width (value / 10) ++ [digit (value % 10)]

@[simp] theorem length_padded (width value : Nat) :
    (padded width value).length = width := by
  induction width generalizing value with
  | zero => rfl
  | succ width inductionHypothesis =>
      rw [padded, List.length_append, inductionHypothesis]
      rfl

theorem toNat_digit
    {value : Nat}
    (small : value < 10) :
    (digit value).toNat = 48 + value := by
  unfold digit
  have valid : (48 + value).isValidChar := by
    left
    omega
  rw [Char.ofNat, dif_pos valid]
  rfl

theorem digit_lt_iff
    {left right : Nat}
    (smallLeft : left < 10)
    (smallRight : right < 10) :
    digit left < digit right ↔ left < right := by
  have compared : digit left < digit right ↔
      (digit left).toNat < (digit right).toNat := Iff.rfl
  rw [compared, toNat_digit smallLeft, toNat_digit smallRight]
  omega

/-- Behind two fronts of one length the order goes by the fronts first. -/
theorem append_lt_iff
    {left right first second : List Char}
    (same : left.length = right.length) :
    left ++ first < right ++ second ↔
      left < right ∨ left = right ∧ first < second := by
  induction left generalizing right with
  | nil =>
      have empty : right = [] := List.length_eq_zero_iff.mp same.symm
      subst empty
      simp
  | cons head left inductionHypothesis =>
      cases right with
      | nil => cases same
      | cons other right =>
          have lengths : left.length = right.length := by
            simpa using same
          rw [List.cons_append, List.cons_append, List.cons_lt_cons_iff,
            List.cons_lt_cons_iff, inductionHypothesis lengths,
            List.cons.injEq]
          tauto

/-- A number of a fixed width is written below a greater one. -/
theorem padded_lt_iff
    {width left right : Nat}
    (fitsLeft : left < 10 ^ width)
    (fitsRight : right < 10 ^ width) :
    padded width left < padded width right ↔ left < right := by
  induction width generalizing left right with
  | zero =>
      simp only [Nat.pow_zero, Nat.lt_one_iff] at fitsLeft fitsRight
      simp [padded, fitsLeft, fitsRight]
  | succ width inductionHypothesis =>
      rw [Nat.pow_succ] at fitsLeft fitsRight
      have frontLeft : left / 10 < 10 ^ width := by omega
      have frontRight : right / 10 < 10 ^ width := by omega
      have fronts := inductionHypothesis frontLeft frontRight
      have backs := inductionHypothesis frontRight frontLeft
      have lasts := digit_lt_iff (Nat.mod_lt left (by decide : 10 > 0))
        (Nat.mod_lt right (by decide : 10 > 0))
      rw [padded, padded, append_lt_iff (by simp), fronts,
        List.cons_lt_cons_iff]
      constructor
      · rintro (lower | ⟨equal, lower | ⟨_, nothing⟩⟩)
        · omega
        · have above := lasts.mp lower
          have level : ¬ left / 10 < right / 10 := by
            rw [← fronts, equal]
            exact List.lt_irrefl _
          have under : ¬ right / 10 < left / 10 := by
            rw [← backs, equal]
            exact List.lt_irrefl _
          omega
        · cases nothing
      · intro lower
        by_cases front : left / 10 < right / 10
        · exact Or.inl front
        · have level : left / 10 = right / 10 := by omega
          rw [level]
          exact Or.inr ⟨rfl, Or.inl (lasts.mpr (by omega))⟩

theorem padded_inj
    {width left right : Nat}
    (fitsLeft : left < 10 ^ width)
    (fitsRight : right < 10 ^ width) :
    padded width left = padded width right ↔ left = right := by
  constructor
  · intro equal
    have below := padded_lt_iff fitsLeft fitsRight
    have above := padded_lt_iff fitsRight fitsLeft
    rw [equal] at below above
    have irreflexive := List.lt_irrefl (padded width right)
    by_contra different
    rcases Nat.lt_or_gt_of_ne different with lower | higher
    · exact irreflexive (below.mpr lower)
    · exact irreflexive (above.mpr higher)
  · rintro rfl
    rfl

/-- A field of a fixed width with something behind it. -/
theorem field_lt_iff
    {width left right : Nat}
    (fitsLeft : left < 10 ^ width)
    (fitsRight : right < 10 ^ width)
    {first second : List Char} :
    padded width left ++ first < padded width right ++ second ↔
      left < right ∨ left = right ∧ first < second := by
  rw [append_lt_iff (by simp), padded_lt_iff fitsLeft fitsRight,
    padded_inj fitsLeft fitsRight]

/-- A wide field is two narrower ones. -/
theorem padded_add (front width value : Nat) :
    padded (front + width) value =
      padded front (value / 10 ^ width) ++
        padded width (value % 10 ^ width) := by
  induction width generalizing value with
  | zero => simp [padded]
  | succ width inductionHypothesis =>
      have power : 10 ^ (width + 1) = 10 * 10 ^ width := by
        rw [Nat.pow_succ, Nat.mul_comm]
      rw [← Nat.add_assoc, padded, padded, inductionHypothesis,
        Nat.div_div_eq_div_mul, ← power, List.append_assoc]
      congr 3
      · rw [power, Nat.mod_mul_right_div_self]
      · rw [power, Nat.mod_mul_right_mod]

/-! ## Fractions of a second -/

/-- The offset of universal time. -/
def offset : List Char := ['+', '0', '0', ':', '0', '0']

/-- The fraction of a second in groups of three digits, as many as are needed
and none for a whole second. -/
def fraction (nanos : Nat) : List Char :=
  if nanos = 0 then
    []
  else if nanos % 1000000 = 0 then
    '.' :: padded 3 (nanos / 1000000)
  else if nanos % 1000 = 0 then
    '.' :: padded 6 (nanos / 1000)
  else
    '.' :: padded 9 nanos

/-- Groups of three digits up to the last that is not zero, and the offset. -/
def groups : List Nat → List Char
  | [] => offset
  | group :: later =>
      if (group :: later).all (· == 0) then
        offset
      else
        padded 3 group ++ groups later

/-- The offset is below every digit. -/
theorem offset_lt_group (group : Nat) (later : List Char) :
    offset < padded 3 group ++ later := by
  have below : '+' < digit (group / 10 / 10 % 10) := by
    have compared : '+' < digit (group / 10 / 10 % 10) ↔
        '+'.toNat < (digit (group / 10 / 10 % 10)).toNat := Iff.rfl
    rw [compared, toNat_digit (Nat.mod_lt _ (by decide))]
    have plus : '+'.toNat = 43 := rfl
    omega
  exact List.cons_lt_cons_iff.mpr (Or.inl below)

theorem groups_of_all_zero
    {values : List Nat}
    (zero : values.all (· == 0) = true) :
    groups values = offset := by
  cases values with
  | nil => rfl
  | cons group later => exact if_pos zero

theorem not_lt_of_all_zero
    {left right : List Nat}
    (lengths : left.length = right.length)
    (zero : right.all (· == 0) = true) :
    ¬ left < right := by
  induction left generalizing right with
  | nil =>
      have empty : right = [] := List.length_eq_zero_iff.mp lengths.symm
      subst empty
      exact List.not_lt_nil []
  | cons first left inductionHypothesis =>
      cases right with
      | nil => cases lengths
      | cons second right =>
          simp only [List.all_cons, Bool.and_eq_true, beq_iff_eq] at zero
          obtain ⟨rfl, rest⟩ := zero
          rw [List.cons_lt_cons_iff]
          rintro (lower | ⟨_, lower⟩)
          · exact Nat.not_lt_zero _ lower
          · refine inductionHypothesis ?_ rest lower
            simpa using lengths

theorem lt_of_all_zero
    {left right : List Nat}
    (lengths : left.length = right.length)
    (zero : left.all (· == 0) = true)
    (other : right.all (· == 0) = false) :
    left < right := by
  induction left generalizing right with
  | nil =>
      have empty : right = [] := List.length_eq_zero_iff.mp lengths.symm
      subst empty
      cases other
  | cons first left inductionHypothesis =>
      cases right with
      | nil => cases lengths
      | cons second right =>
          simp only [List.all_cons, Bool.and_eq_true, beq_iff_eq] at zero
          obtain ⟨rfl, rest⟩ := zero
          rw [List.cons_lt_cons_iff]
          by_cases head : second = 0
          · subst head
            refine Or.inr ⟨rfl, inductionHypothesis ?_ rest ?_⟩
            · simpa using lengths
            · simpa using other
          · exact Or.inl (Nat.pos_of_ne_zero head)

/-- Groups are written in their order, also where the last ones are left
out. -/
theorem groups_lt_iff
    {left right : List Nat}
    (lengths : left.length = right.length)
    (fitsLeft : ∀ group ∈ left, group < 10 ^ 3)
    (fitsRight : ∀ group ∈ right, group < 10 ^ 3) :
    groups left < groups right ↔ left < right := by
  induction left generalizing right with
  | nil =>
      have empty : right = [] := List.length_eq_zero_iff.mp lengths.symm
      subst empty
      simp [groups]
  | cons first left inductionHypothesis =>
      cases right with
      | nil => cases lengths
      | cons second right =>
          cases zeroLeft : (first :: left).all (· == 0) with
          | true =>
              rw [groups_of_all_zero zeroLeft]
              cases zeroRight : (second :: right).all (· == 0) with
              | true =>
                  rw [groups_of_all_zero zeroRight]
                  exact iff_of_false (List.lt_irrefl _)
                    (not_lt_of_all_zero lengths zeroRight)
              | false =>
                  rw [groups, zeroRight, if_neg Bool.false_ne_true]
                  exact iff_of_true (offset_lt_group _ _)
                    (lt_of_all_zero lengths zeroLeft zeroRight)
          | false =>
              rw [groups, zeroLeft, if_neg Bool.false_ne_true]
              cases zeroRight : (second :: right).all (· == 0) with
              | true =>
                  rw [groups_of_all_zero zeroRight]
                  apply iff_of_false _ (not_lt_of_all_zero lengths zeroRight)
                  intro below
                  exact List.lt_irrefl _
                    (List.lt_trans below (offset_lt_group first _))
              | false =>
                  rw [groups, zeroRight, if_neg Bool.false_ne_true,
                    field_lt_iff (fitsLeft _ List.mem_cons_self)
                      (fitsRight _ List.mem_cons_self),
                    inductionHypothesis (by simpa using lengths)
                      (fun group member =>
                        fitsLeft group (List.mem_cons_of_mem _ member))
                      (fun group member =>
                        fitsRight group (List.mem_cons_of_mem _ member)),
                    List.cons_lt_cons_iff]

/-- The three groups of a fraction. -/
def groupsOf (nanos : Nat) : List Nat :=
  [nanos / 1000000, nanos / 1000 % 1000, nanos % 1000]

theorem fraction_append_offset (nanos : Nat) :
    fraction nanos ++ offset =
      if nanos = 0 then offset else '.' :: groups (groupsOf nanos) := by
  unfold fraction
  by_cases whole : nanos = 0
  · rw [if_pos whole, if_pos whole]
    rfl
  · rw [if_neg whole, if_neg whole]
    have six := padded_add 3 3 (nanos / 1000)
    have nine := padded_add 3 6 nanos
    have lower := padded_add 3 3 (nanos % 10 ^ 6)
    unfold groupsOf
    by_cases millis : nanos % 1000000 = 0
    · have first : nanos / 1000000 ≠ 0 := by omega
      have second : nanos / 1000 % 1000 = 0 := by omega
      have third : nanos % 1000 = 0 := by omega
      simp [millis, groups, first, second, third]
    · rw [if_neg millis]
      by_cases micros : nanos % 1000 = 0
      · have second : nanos / 1000 % 1000 ≠ 0 := by omega
        rw [if_pos micros, six]
        simp [groups, second, micros, Nat.div_div_eq_div_mul]
      · rw [if_neg micros, nine, lower]
        have middle : nanos % 1000000 / 1000 = nanos / 1000 % 1000 := by
          omega
        have last : nanos % 1000000 % 1000 = nanos % 1000 := by omega
        simp [groups, micros, middle, last]

/-- Fractions are written in their order. -/
theorem fraction_lt_iff
    {left right : Nat}
    (fitsLeft : left < 1000000000)
    (fitsRight : right < 1000000000) :
    fraction left ++ offset < fraction right ++ offset ↔ left < right := by
  have fits : ∀ {nanos : Nat}, nanos < 1000000000 →
      ∀ group ∈ groupsOf nanos, group < 10 ^ 3 := by
    intro nanos small group member
    simp only [groupsOf, List.mem_cons, List.not_mem_nil, or_false] at member
    omega
  have lengths : (groupsOf left).length = (groupsOf right).length := rfl
  have compared := groups_lt_iff lengths (fits fitsLeft) (fits fitsRight)
  have numbers : groupsOf left < groupsOf right ↔ left < right := by
    have splitLeft : left / 1000000 = left / 1000 / 1000 := by omega
    have splitRight : right / 1000000 = right / 1000 / 1000 := by omega
    simp only [groupsOf, List.cons_lt_cons_iff, List.not_lt_nil, and_false,
      or_false]
    omega
  rw [fraction_append_offset, fraction_append_offset]
  by_cases wholeLeft : left = 0
  · by_cases wholeRight : right = 0
    · rw [if_pos wholeLeft, if_pos wholeRight, wholeLeft, wholeRight]
      exact iff_of_false (List.lt_irrefl _) (Nat.lt_irrefl 0)
    · rw [if_pos wholeLeft, if_neg wholeRight]
      exact iff_of_true (List.cons_lt_cons_iff.mpr (Or.inl (by decide)))
        (by omega)
  · by_cases wholeRight : right = 0
    · rw [if_neg wholeLeft, if_pos wholeRight]
      apply iff_of_false _ (by omega)
      unfold offset
      rw [List.cons_lt_cons_iff]
      rintro (lower | ⟨same, _⟩)
      · exact absurd lower (by decide)
      · cases same
    · rw [if_neg wholeLeft, if_neg wholeRight, List.cons_lt_cons_iff,
        compared, numbers]
      exact ⟨fun lower => lower.elim (fun loop => absurd loop (by decide))
        And.right, fun lower => Or.inr ⟨rfl, lower⟩⟩

/-! ## Instants -/

/-- `year` has a leap day. -/
def leapYear (year : Nat) : Bool :=
  year % 4 == 0 && (year % 100 != 0 || year % 400 == 0)

/-- The days of a month. -/
def daysIn (year month : Nat) : Nat :=
  if month = 2 then
    if leapYear year then 29 else 28
  else if month = 4 ∨ month = 6 ∨ month = 9 ∨ month = 11 then
    30
  else
    31

theorem daysIn_le (year month : Nat) : daysIn year month ≤ 31 := by
  unfold daysIn
  split
  case isTrue february =>
      split
      case isTrue leap => decide
      case isFalse common => decide
  case isFalse other =>
      split
      case isTrue short => decide
      case isFalse long => decide

/-- An instant: a date, the second of the day, and the nanoseconds. -/
structure UtcInstant where
  year : Nat
  month : Nat
  day : Nat
  second : Nat
  nanos : Nat
  months : 1 ≤ month ∧ month ≤ 12
  days : 1 ≤ day ∧ day ≤ daysIn year month
  seconds : second < 86400
  fractions : nanos < 1000000000
  deriving DecidableEq

namespace UtcInstant

/-- The fields, from the greatest to the smallest. -/
def fields (instant : UtcInstant) : Nat ×ₗ Nat ×ₗ Nat ×ₗ Nat ×ₗ Nat :=
  toLex (instant.year, toLex (instant.month, toLex (instant.day,
    toLex (instant.second, instant.nanos))))

theorem fields_injective : Function.Injective fields := by
  intro left right same
  obtain ⟨year, month, day, second, nanos, _, _, _, _⟩ := left
  obtain ⟨year', month', day', second', nanos', _, _, _, _⟩ := right
  simp only [fields, EmbeddingLike.apply_eq_iff_eq, Prod.mk.injEq] at same
  obtain ⟨rfl, rfl, rfl, rfl, rfl⟩ := same
  rfl

instance : LinearOrder UtcInstant :=
  LinearOrder.lift' fields fields_injective

theorem lt_iff (left right : UtcInstant) :
    left < right ↔
      left.year < right.year ∨ left.year = right.year ∧
        (left.month < right.month ∨ left.month = right.month ∧
          (left.day < right.day ∨ left.day = right.day ∧
            (left.second < right.second ∨ left.second = right.second ∧
              left.nanos < right.nanos))) := by
  change left.fields < right.fields ↔ _
  simp only [fields, Prod.Lex.toLex_lt_toLex]

/-- The beginning of the next day, with a given second of it. -/
def nextDay
    (instant : UtcInstant)
    (second : Nat)
    (seconds : second < 86400) : UtcInstant :=
  if within : instant.day < daysIn instant.year instant.month then
    { instant with
      day := instant.day + 1
      second := second
      days := ⟨by omega, within⟩
      seconds := seconds }
  else if withinYear : instant.month < 12 then
    { instant with
      month := instant.month + 1
      day := 1
      second := second
      months := ⟨by omega, withinYear⟩
      days := ⟨Nat.le_refl 1, by unfold daysIn; split_ifs <;> decide⟩
      seconds := seconds }
  else
    { instant with
      year := instant.year + 1
      month := 1
      day := 1
      second := second
      months := ⟨Nat.le_refl 1, by decide⟩
      days := ⟨Nat.le_refl 1, by
        rw [daysIn, if_neg (by decide), if_neg (by decide)]
        decide⟩
      seconds := seconds }

/-- Less than a day later. -/
def plusSeconds
    (instant : UtcInstant)
    (seconds : Nat)
    (short : seconds < 86400) : UtcInstant :=
  if within : instant.second + seconds < 86400 then
    { instant with
      second := instant.second + seconds
      seconds := within }
  else
    instant.nextDay (instant.second + seconds - 86400)
      (by have := instant.seconds; omega)

theorem year_le_plusSeconds
    (instant : UtcInstant)
    (seconds : Nat)
    (short : seconds < 86400) :
    instant.year ≤ (instant.plusSeconds seconds short).year := by
  unfold plusSeconds
  split
  case isTrue within => exact Nat.le_refl _
  case isFalse beyond =>
      unfold nextDay
      split
      case isTrue within => exact Nat.le_refl _
      case isFalse last =>
          split
          case isTrue withinYear => exact Nat.le_refl _
          case isFalse december => exact Nat.le_succ _

/-! ## Texts -/

/-- A year, with a sign if it has more than four digits. -/
def yearText (year : Nat) : List Char :=
  if year ≤ 9999 then padded 4 year else '+' :: Nat.toDigits 10 year

/-- `to_rfc3339`, with the digits of the second that are needed. -/
def toRfc3339 (instant : UtcInstant) : String :=
  .ofList (yearText instant.year ++ '-' :: (padded 2 instant.month ++
    '-' :: (padded 2 instant.day ++ 'T' :: (padded 2 (instant.second / 3600) ++
      ':' :: (padded 2 (instant.second / 60 % 60) ++
        ':' :: (padded 2 (instant.second % 60) ++
          (fraction instant.nanos ++ offset)))))))

theorem cons_lt_cons_same
    {head : Char}
    {left right : List Char} :
    head :: left < head :: right ↔ left < right := by
  rw [List.cons_lt_cons_iff]
  constructor
  · rintro (loop | ⟨_, lower⟩)
    · exact absurd loop (Nat.lt_irrefl _)
    · exact lower
  · intro lower
    exact Or.inr ⟨rfl, lower⟩

/-- In the years of four digits the texts are in the order of the instants. -/
theorem toRfc3339_lt_iff
    {left right : UtcInstant}
    (fourLeft : left.year ≤ 9999)
    (fourRight : right.year ≤ 9999) :
    left.toRfc3339 < right.toRfc3339 ↔ left < right := by
  have monthLeft := left.months
  have monthRight := right.months
  have dayLeft := le_trans left.days.2 (daysIn_le _ _)
  have dayRight := le_trans right.days.2 (daysIn_le _ _)
  have secondLeft := left.seconds
  have secondRight := right.seconds
  rw [String.lt_iff_toList_lt]
  unfold toRfc3339 yearText
  rw [String.toList_ofList, String.toList_ofList, if_pos fourLeft,
    if_pos fourRight, field_lt_iff (by omega) (by omega), cons_lt_cons_same,
    field_lt_iff (by omega) (by omega), cons_lt_cons_same,
    field_lt_iff (by omega) (by omega), cons_lt_cons_same,
    field_lt_iff (by omega) (by omega), cons_lt_cons_same,
    field_lt_iff (by omega) (by omega), cons_lt_cons_same,
    field_lt_iff (by omega) (by omega),
    fraction_lt_iff left.fractions right.fractions, lt_iff]
  omega

/-! ## Reading -/

/-- The number that digits write. -/
def valueOf (digits : List Char) : Nat :=
  digits.foldl (fun value char => 10 * value + (char.toNat - 48)) 0

theorem valueOf_padded
    {width value : Nat}
    (fits : value < 10 ^ width) :
    valueOf (padded width value) = value := by
  induction width generalizing value with
  | zero =>
      simp only [Nat.pow_zero, Nat.lt_one_iff] at fits
      rw [fits]
      rfl
  | succ width inductionHypothesis =>
      rw [Nat.pow_succ] at fits
      have front := @inductionHypothesis (value / 10) (by omega)
      unfold valueOf at front ⊢
      rw [padded, List.foldl_append, front]
      change 10 * (value / 10) + ((digit (value % 10)).toNat - 48) = value
      rw [toNat_digit (Nat.mod_lt _ (by decide))]
      omega

/-- The nanoseconds that a fraction writes, if there is one. -/
def nanosOf : List Char → Nat
  | '.' :: later =>
      let digits := later.takeWhile Char.isDigit
      valueOf digits * 10 ^ (9 - digits.length)
  | _ => 0

/-- The instant with given fields, if there is one. -/
def ofFields (year month day second nanos : Nat) : Option UtcInstant :=
  if valid : (1 ≤ month ∧ month ≤ 12) ∧
      (1 ≤ day ∧ day ≤ daysIn year month) ∧
      second < 86400 ∧ nanos < 1000000000 then
    some ⟨year, month, day, second, nanos, valid.1, valid.2.1, valid.2.2.1,
      valid.2.2.2⟩
  else
    none

/-- Read a text as it is written for a year of four digits. -/
def ofRfc3339 (text : String) : Option UtcInstant :=
  let field (start width : Nat) :=
    valueOf ((text.toList.drop start).take width)
  ofFields (field 0 4) (field 5 2) (field 8 2)
    (field 11 2 * 3600 + field 14 2 * 60 + field 17 2)
    (nanosOf (text.toList.drop 19))

theorem isDigit_digit
    {value : Nat}
    (small : value < 10) :
    (digit value).isDigit = true := by
  have between : 48 ≤ (digit value).toNat ∧ (digit value).toNat ≤ 57 := by
    rw [toNat_digit small]
    omega
  simpa [Char.isDigit, UInt32.le_iff_toNat_le] using between

theorem takeWhile_padded (width value : Nat) :
    (padded width value ++ offset).takeWhile Char.isDigit =
      padded width value := by
  have digits : ∀ char ∈ padded width value, char.isDigit = true := by
    induction width generalizing value with
    | zero => nofun
    | succ width inductionHypothesis =>
        intro char member
        rcases List.mem_append.mp member with front | last
        · exact inductionHypothesis _ char front
        · rw [List.mem_singleton.mp last]
          exact isDigit_digit (Nat.mod_lt _ (by decide))
  rw [List.takeWhile_append_of_pos digits]
  have none : offset.takeWhile Char.isDigit = [] := by rfl
  rw [none, List.append_nil]

theorem nanosOf_fraction
    {nanos : Nat}
    (fits : nanos < 1000000000) :
    nanosOf (fraction nanos ++ offset) = nanos := by
  unfold fraction
  split
  case isTrue whole =>
      rw [whole]
      rfl
  case isFalse part =>
      split
      case isTrue millis =>
          rw [List.cons_append, nanosOf, takeWhile_padded, length_padded,
            valueOf_padded (by omega)]
          omega
      case isFalse finer =>
          split
          case isTrue micros =>
              rw [List.cons_append, nanosOf, takeWhile_padded, length_padded,
                valueOf_padded (by omega)]
              omega
          case isFalse finest =>
              rw [List.cons_append, nanosOf, takeWhile_padded, length_padded,
                valueOf_padded (by omega)]
              omega

/-- What is written for a year of four digits is read back. -/
theorem ofRfc3339_toRfc3339
    {instant : UtcInstant}
    (four : instant.year ≤ 9999) :
    ofRfc3339 instant.toRfc3339 = some instant := by
  have month := instant.months
  have day := le_trans instant.days.2 (daysIn_le _ _)
  have second := instant.seconds
  unfold ofRfc3339 toRfc3339 yearText
  rw [String.toList_ofList, if_pos four]
  have beyond : ∀ {width value count : Nat}, width ≤ count →
      (padded width value).drop count = [] := by
    intro width value count wide
    rw [List.drop_eq_nil_iff, length_padded]
    exact wide
  simp [List.drop_append, beyond]
  rw [valueOf_padded (by omega), valueOf_padded (by omega),
    valueOf_padded (by omega), valueOf_padded (by omega),
    valueOf_padded (by omega), valueOf_padded (by omega),
    nanosOf_fraction instant.fractions]
  have whole : instant.second / 3600 * 3600 +
      instant.second / 60 % 60 * 60 + instant.second % 60 =
        instant.second := by omega
  rw [whole]
  exact dif_pos ⟨instant.months, instant.days, second, instant.fractions⟩

end UtcInstant
end Foundation
end Hearthdeck
