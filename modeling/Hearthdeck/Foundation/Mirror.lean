import Mathlib.Data.List.Nodup
import Hearthdeck.Foundation.Flight

/-!
# Copies kept fresh by notices and numbered reads

A value lives elsewhere and changes there; a copy of it is kept by reading.
Every change is followed by a notice, and a notice that arrives begins a read.
The reads are numbered, and only the latest one counts: its answer replaces
the copy, its failure begins another read.  While such a retry is under way,
notices begin nothing.

The ages count the changes.  They say which state of the value a reading or
the copy is from, and up to which change the notices have arrived.
-/

namespace Hearthdeck
namespace Foundation

universe u

/-- A value and the copy that is kept of it. -/
structure Mirror (Value : Type u) where
  /-- The value, and the number of its changes. -/
  value : Value
  age : Nat
  /-- The notices on their way, with the age they were sent at. -/
  notices : List Nat
  /-- The age the notices that arrived tell of. -/
  heard : Nat
  /-- The number of the latest read. -/
  latest : Nat
  /-- Whether the latest read repeats one that failed. -/
  retrying : Bool
  /-- The reads on their way, with what they found and how old it was. -/
  flights : List (Flight Nat (Value × Nat))
  /-- The copy, and the age it is from. -/
  held : Value
  heldAge : Nat

namespace Mirror

variable {Value : Type u}

/-- The value changes, and a notice is sent. -/
def change (mirror : Mirror Value) (value : Value) : Mirror Value :=
  { mirror with
    value := value
    age := mirror.age + 1
    notices := mirror.notices ++ [mirror.age + 1] }

/-- A notice is sent although nothing changed. -/
def announce (mirror : Mirror Value) : Mirror Value :=
  { mirror with notices := mirror.notices ++ [mirror.age] }

/-- A read is begun, which makes it the latest. -/
def begin (mirror : Mirror Value) : Mirror Value :=
  { mirror with
    latest := mirror.latest + 1
    flights := mirror.flights ++ [Flight.sent (mirror.latest + 1)] }

/-- A read is begun unless one is being repeated. -/
def refresh (mirror : Mirror Value) : Mirror Value :=
  if mirror.retrying then mirror else mirror.begin

/-- The next notice arrives. -/
def hear (mirror : Mirror Value) : Mirror Value :=
  match mirror.notices with
  | [] => mirror
  | notice :: notices =>
      { mirror with
        notices := notices
        heard := max mirror.heard notice }.refresh

/-- A read finds the value as it is now. -/
def readAt (mirror : Mirror Value) (index : Nat) : Mirror Value :=
  { mirror with
    flights := mirror.flights.modify index
      (Flight.look fun _ => (mirror.value, mirror.age)) }

/-- A read that has found a value is answered. -/
def succeed (mirror : Mirror Value) (index : Nat) : Mirror Value :=
  match mirror.flights[index]? with
  | some ⟨number, some (value, age)⟩ =>
      let answered :=
        { mirror with flights := mirror.flights.eraseIdx index }
      if number = mirror.latest then
        { answered with
          retrying := false
          held := value
          heldAge := age }
      else
        answered
  | _ => mirror

/-- A read fails. -/
def fail (mirror : Mirror Value) (index : Nat) : Mirror Value :=
  match mirror.flights[index]? with
  | some flight =>
      let failed :=
        { mirror with flights := mirror.flights.eraseIdx index }
      if flight.request = mirror.latest then
        { failed with retrying := true }.begin
      else
        failed
  | none => mirror

/-! ## One chain of reads -/

/-- The numbers on their way are distinct and none is above the latest, and a
read that is repeated is on its way. -/
structure Chained (mirror : Mirror Value) : Prop where
  bounded : ∀ flight ∈ mirror.flights, flight.request ≤ mirror.latest
  distinct : (mirror.flights.map Flight.request).Nodup
  waits : mirror.retrying = true →
    mirror.latest ∈ mirror.flights.map Flight.request

theorem Chained.count_le_one
    {mirror : Mirror Value}
    (chained : mirror.Chained)
    (number : Nat) :
    (mirror.flights.map Flight.request).count number ≤ 1 :=
  List.nodup_iff_count_le_one.mp chained.distinct number

/-- A read that is delivered is the only one of its number. -/
theorem Chained.not_mem_eraseIdx
    {mirror : Mirror Value}
    (chained : mirror.Chained)
    {index : Nat}
    {flight : Flight Nat (Value × Nat)}
    (found : mirror.flights[index]? = some flight) :
    flight.request ∉ (mirror.flights.eraseIdx index).map Flight.request := by
  have numbered := ((Flight.perm_of_getElem? found).map
    Flight.request).nodup_iff.mpr chained.distinct
  rw [List.map_cons, List.nodup_cons] at numbered
  exact numbered.1

theorem nodup_eraseIdx
    {flights : List (Flight Nat (Value × Nat))}
    (distinct : (flights.map Flight.request).Nodup)
    (index : Nat) :
    ((flights.eraseIdx index).map Flight.request).Nodup := by
  rw [← List.eraseIdx_map]
  exact distinct.eraseIdx index

theorem Chained.begin
    {mirror : Mirror Value}
    (bounded : ∀ flight ∈ mirror.flights, flight.request ≤ mirror.latest)
    (distinct : (mirror.flights.map Flight.request).Nodup) :
    mirror.begin.Chained where
  bounded := by
    intro flight member
    rcases List.mem_append.mp member with earlier | new
    · exact Nat.le_succ_of_le (bounded flight earlier)
    · rw [List.mem_singleton.mp new]
      exact Nat.le_refl _
  distinct := by
    change ((mirror.flights ++ [_]).map Flight.request).Nodup
    rw [List.map_append, List.map_singleton, List.nodup_append]
    refine ⟨distinct, List.nodup_singleton _, ?_⟩
    intro number sent new last same
    obtain ⟨flight, member, rfl⟩ := List.mem_map.mp sent
    have below := bounded flight member
    rw [List.mem_singleton.mp last] at same
    change flight.request = mirror.latest + 1 at same
    omega
  waits := by
    intro _
    change _ ∈ (mirror.flights ++ [_]).map Flight.request
    rw [List.map_append]
    exact List.mem_append_right _ (List.mem_singleton.mpr rfl)

theorem Chained.refresh
    {mirror : Mirror Value}
    (chained : mirror.Chained) :
    mirror.refresh.Chained := by
  unfold Mirror.refresh
  split
  case isTrue => exact chained
  case isFalse => exact Chained.begin chained.bounded chained.distinct

theorem Chained.hear
    {mirror : Mirror Value}
    (chained : mirror.Chained) :
    mirror.hear.Chained := by
  unfold Mirror.hear
  split
  case h_1 => exact chained
  case h_2 notice notices =>
      exact Chained.refresh
        ⟨chained.bounded, chained.distinct, chained.waits⟩

theorem Chained.readAt
    {mirror : Mirror Value}
    (chained : mirror.Chained)
    (index : Nat) :
    (mirror.readAt index).Chained where
  bounded := by
    intro flight member
    rcases Flight.mem_modify_look member with
      same | ⟨earlier, stood, -, rfl⟩
    · exact chained.bounded flight same
    · exact chained.bounded earlier stood
  distinct := by
    change ((mirror.flights.modify index _).map Flight.request).Nodup
    rw [Flight.map_request_modify_look]
    exact chained.distinct
  waits := by
    change _ → _ ∈ (mirror.flights.modify index _).map Flight.request
    rw [Flight.map_request_modify_look]
    exact chained.waits

/-- A read that is not the latest can go. -/
theorem Chained.forget
    {mirror : Mirror Value}
    (chained : mirror.Chained)
    {index : Nat}
    {flight : Flight Nat (Value × Nat)}
    (found : mirror.flights[index]? = some flight)
    (old : flight.request ≠ mirror.latest) :
    { mirror with flights := mirror.flights.eraseIdx index }.Chained where
  bounded := by
    intro other member
    exact chained.bounded other (List.mem_of_mem_eraseIdx member)
  distinct := nodup_eraseIdx chained.distinct index
  waits := by
    intro retrying
    have waiting := ((Flight.perm_of_getElem? found).map
      Flight.request).mem_iff.mpr (chained.waits retrying)
    rw [List.map_cons, List.mem_cons] at waiting
    exact waiting.resolve_left (Ne.symm old)

/-- With the latest read answered, nothing is repeated. -/
theorem Chained.accept
    {mirror : Mirror Value}
    (chained : mirror.Chained)
    (index : Nat)
    (value : Value)
    (age : Nat) :
    { mirror with
      flights := mirror.flights.eraseIdx index
      retrying := false
      held := value
      heldAge := age }.Chained where
  bounded := by
    intro other member
    exact chained.bounded other (List.mem_of_mem_eraseIdx member)
  distinct := nodup_eraseIdx chained.distinct index
  waits := by
    intro retrying
    cases retrying

theorem Chained.succeed
    {mirror : Mirror Value}
    (chained : mirror.Chained)
    (index : Nat) :
    (mirror.succeed index).Chained := by
  unfold Mirror.succeed
  split
  case h_2 => exact chained
  case h_1 number value age found =>
      dsimp only
      split
      case isFalse old => exact chained.forget found old
      case isTrue latest => exact chained.accept index value age

theorem Chained.fail
    {mirror : Mirror Value}
    (chained : mirror.Chained)
    (index : Nat) :
    (mirror.fail index).Chained := by
  unfold Mirror.fail
  split
  case h_2 => exact chained
  case h_1 flight found =>
      dsimp only
      split
      case isFalse old => exact chained.forget found old
      case isTrue latest =>
          apply Chained.begin
          · intro other member
            exact chained.bounded other (List.mem_of_mem_eraseIdx member)
          · exact nodup_eraseIdx chained.distinct index

/-! ## No change is missed -/

/-- A notice arrives while a read is repeated that has already found an older
value. -/
def Misses (mirror : Mirror Value) : Prop :=
  mirror.retrying = true ∧
    ∃ notice notices, mirror.notices = notice :: notices ∧
      ∃ flight ∈ mirror.flights, flight.request = mirror.latest ∧
        ∃ value age, flight.reading = some (value, age) ∧ age < notice

/-- A value that is said to be from an age was the value at that age. -/
structure Dated
    (present : Value)
    (now : Nat)
    (value : Value)
    (age : Nat) : Prop where
  old : age ≤ now
  current : age = now → value = present

/-- The latest read is on its way and will find, or has found, what the
notices that arrived tell of. -/
structure Awaits (mirror : Mirror Value) : Prop where
  waits : mirror.latest ∈ mirror.flights.map Flight.request
  finds : ∀ flight ∈ mirror.flights, flight.request = mirror.latest →
    ∀ value age, flight.reading = some (value, age) → mirror.heard ≤ age

/-- The latest read is answered, and the copy is as new as the notices that
arrived. -/
structure Settles (mirror : Mirror Value) : Prop where
  answered : mirror.latest ∉ mirror.flights.map Flight.request
  copied : mirror.heard ≤ mirror.heldAge
  dated : Dated mirror.value mirror.age mirror.held mirror.heldAge

/-- A notice of the last change arrived or is on its way, and what was read
is what the value was. -/
structure Informed (mirror : Mirror Value) : Prop where
  told : mirror.heard = mirror.age ∨ mirror.age ∈ mirror.notices
  early : mirror.heard ≤ mirror.age
  sent : ∀ notice ∈ mirror.notices, notice ≤ mirror.age
  readings : ∀ flight ∈ mirror.flights, ∀ value age,
    flight.reading = some (value, age) →
      Dated mirror.value mirror.age value age

/-- Every change is in the copy, or the latest read brings it, or a notice of
it is on its way. -/
structure Current (mirror : Mirror Value) : Prop where
  chained : mirror.Chained
  informed : mirror.Informed
  coming : mirror.Awaits ∨ mirror.Settles

/-- With nothing on its way the copy is the value. -/
theorem Current.held_eq
    {mirror : Mirror Value}
    (current : mirror.Current)
    (quiet : mirror.flights = [])
    (heard : mirror.notices = []) :
    mirror.held = mirror.value := by
  have told := current.informed.told
  rw [heard] at told
  have settles : mirror.Settles := by
    rcases current.coming with awaits | settles
    · have waits := awaits.waits
      rw [quiet] at waits
      cases waits
    · exact settles
  apply settles.dated.current
  apply Nat.le_antisymm settles.dated.old
  rw [← told.resolve_right List.not_mem_nil]
  exact settles.copied

theorem Dated.later
    {present value : Value}
    {now age : Nat}
    (dated : Dated present now value age)
    (next : Value) :
    Dated next (now + 1) value age where
  old := Nat.le_succ_of_le dated.old
  current := by
    intro same
    have old := dated.old
    omega

theorem Current.change
    {mirror : Mirror Value}
    (current : mirror.Current)
    (value : Value) :
    (mirror.change value).Current where
  chained := ⟨current.chained.bounded, current.chained.distinct,
    current.chained.waits⟩
  informed :=
    { told := Or.inr (List.mem_append_right _ (List.mem_singleton.mpr rfl))
      early := Nat.le_succ_of_le current.informed.early
      sent := by
        intro notice member
        rcases List.mem_append.mp member with earlier | new
        · exact Nat.le_succ_of_le (current.informed.sent notice earlier)
        · rw [List.mem_singleton.mp new]
          exact Nat.le_refl _
      readings := by
        intro flight member found age reading
        exact (current.informed.readings flight member found age
          reading).later value }
  coming := by
    rcases current.coming with awaits | settles
    · exact Or.inl ⟨awaits.waits, awaits.finds⟩
    · exact Or.inr ⟨settles.answered, settles.copied,
        settles.dated.later value⟩

theorem Current.announce
    {mirror : Mirror Value}
    (current : mirror.Current) :
    mirror.announce.Current where
  chained := ⟨current.chained.bounded, current.chained.distinct,
    current.chained.waits⟩
  informed :=
    { told := Or.inr (List.mem_append_right _ (List.mem_singleton.mpr rfl))
      early := current.informed.early
      sent := by
        intro notice member
        rcases List.mem_append.mp member with earlier | new
        · exact current.informed.sent notice earlier
        · rw [List.mem_singleton.mp new]
          exact Nat.le_refl _
      readings := current.informed.readings }
  coming := by
    rcases current.coming with awaits | settles
    · exact Or.inl ⟨awaits.waits, awaits.finds⟩
    · exact Or.inr ⟨settles.answered, settles.copied, settles.dated⟩

/-- A read that is begun finds everything that was told. -/
theorem Current.begin
    {mirror : Mirror Value}
    (bounded : ∀ flight ∈ mirror.flights, flight.request ≤ mirror.latest)
    (distinct : (mirror.flights.map Flight.request).Nodup)
    (informed : mirror.Informed) :
    mirror.begin.Current where
  chained := Chained.begin bounded distinct
  informed :=
    { told := informed.told
      early := informed.early
      sent := informed.sent
      readings := by
        intro flight member value age reading
        rcases List.mem_append.mp member with earlier | new
        · exact informed.readings flight earlier value age reading
        · rw [List.mem_singleton.mp new] at reading
          cases reading }
  coming := by
    refine Or.inl ⟨?_, ?_⟩
    · change _ ∈ (mirror.flights ++ [_]).map Flight.request
      rw [List.map_append]
      exact List.mem_append_right _ (List.mem_singleton.mpr rfl)
    · intro flight member latest value age reading
      rcases List.mem_append.mp member with earlier | new
      · have below := bounded flight earlier
        change flight.request = mirror.latest + 1 at latest
        omega
      · rw [List.mem_singleton.mp new] at reading
        cases reading

theorem Current.refresh
    {mirror : Mirror Value}
    (current : mirror.Current) :
    mirror.refresh.Current := by
  unfold Mirror.refresh
  split
  case isTrue => exact current
  case isFalse =>
      exact Current.begin current.chained.bounded current.chained.distinct
        current.informed

theorem Current.hear
    {mirror : Mirror Value}
    (current : mirror.Current)
    (kept : ¬ mirror.Misses) :
    mirror.hear.Current := by
  unfold Mirror.hear
  split
  case h_1 => exact current
  case h_2 notice notices waiting =>
      have informed := current.informed
      have within : notice ≤ mirror.age :=
        informed.sent notice (by rw [waiting]; exact List.mem_cons_self)
      have told : { mirror with
          notices := notices
          heard := max mirror.heard notice }.Informed :=
        { told := by
            rcases informed.told with all | coming
            · exact Or.inl (by
                simp only [all]
                exact Nat.max_eq_left within)
            · rw [waiting] at coming
              rcases List.mem_cons.mp coming with now | later
              · exact Or.inl (by
                  simp only [now]
                  exact Nat.max_eq_right (now ▸ informed.early))
              · exact Or.inr later
          early := Nat.max_le.mpr ⟨informed.early, within⟩
          sent := by
            intro other member
            exact informed.sent other
              (by rw [waiting]; exact List.mem_cons_of_mem _ member)
          readings := informed.readings }
      unfold Mirror.refresh
      split
      case isFalse =>
          exact Current.begin current.chained.bounded
            current.chained.distinct told
      case isTrue retrying =>
          refine ⟨⟨current.chained.bounded, current.chained.distinct,
            current.chained.waits⟩, told, Or.inl ⟨?_, ?_⟩⟩
          · exact current.chained.waits retrying
          · intro flight member latest value age reading
            have fresh : mirror.heard ≤ age := by
              rcases current.coming with awaits | settles
              · exact awaits.finds flight member latest value age reading
              · exact absurd (current.chained.waits retrying)
                  settles.answered
            refine Nat.max_le.mpr ⟨fresh, ?_⟩
            by_contra older
            exact kept ⟨retrying, notice, notices, waiting, flight, member,
              latest, value, age, reading, Nat.lt_of_not_le older⟩

theorem Current.readAt
    {mirror : Mirror Value}
    (current : mirror.Current)
    (index : Nat) :
    (mirror.readAt index).Current where
  chained := current.chained.readAt index
  informed :=
    { told := current.informed.told
      early := current.informed.early
      sent := current.informed.sent
      readings := by
        intro flight member value age reading
        rcases Flight.mem_modify_look member with
          same | ⟨earlier, stood, unread, rfl⟩
        · exact current.informed.readings flight same value age reading
        · cases reading
          exact ⟨Nat.le_refl _, fun _ => rfl⟩ }
  coming := by
    rcases current.coming with awaits | settles
    · refine Or.inl ⟨?_, ?_⟩
      · change _ ∈ (mirror.flights.modify index _).map Flight.request
        rw [Flight.map_request_modify_look]
        exact awaits.waits
      · intro flight member latest value age reading
        rcases Flight.mem_modify_look member with
          same | ⟨earlier, stood, unread, rfl⟩
        · exact awaits.finds flight same latest value age reading
        · cases reading
          exact current.informed.early
    · refine Or.inr ⟨?_, settles.copied, settles.dated⟩
      change _ ∉ (mirror.flights.modify index _).map Flight.request
      rw [Flight.map_request_modify_look]
      exact settles.answered

theorem Informed.eraseIdx
    {mirror : Mirror Value}
    (informed : mirror.Informed)
    (index : Nat) :
    { mirror with flights := mirror.flights.eraseIdx index }.Informed where
  told := informed.told
  early := informed.early
  sent := informed.sent
  readings := by
    intro flight member value age reading
    exact informed.readings flight (List.mem_of_mem_eraseIdx member) value
      age reading

/-- A read that is not the latest changes nothing when it is delivered. -/
theorem Current.forget
    {mirror : Mirror Value}
    (current : mirror.Current)
    {index : Nat}
    {flight : Flight Nat (Value × Nat)}
    (found : mirror.flights[index]? = some flight)
    (old : flight.request ≠ mirror.latest) :
    { mirror with flights := mirror.flights.eraseIdx index }.Current where
  chained := current.chained.forget found old
  informed := current.informed.eraseIdx index
  coming := by
    rcases current.coming with awaits | settles
    · refine Or.inl ⟨?_, ?_⟩
      · have waiting := ((Flight.perm_of_getElem? found).map
          Flight.request).mem_iff.mpr awaits.waits
        rw [List.map_cons, List.mem_cons] at waiting
        exact waiting.resolve_left (Ne.symm old)
      · intro other member
        exact awaits.finds other (List.mem_of_mem_eraseIdx member)
    · refine Or.inr ⟨?_, settles.copied, settles.dated⟩
      intro sent
      obtain ⟨other, member, same⟩ := List.mem_map.mp sent
      exact settles.answered
        (List.mem_map.mpr ⟨other, List.mem_of_mem_eraseIdx member, same⟩)

theorem Current.succeed
    {mirror : Mirror Value}
    (current : mirror.Current)
    (index : Nat) :
    (mirror.succeed index).Current := by
  unfold Mirror.succeed
  split
  case h_2 => exact current
  case h_1 number value age found =>
      have member := List.mem_of_getElem? found
      dsimp only
      split
      case isFalse old => exact current.forget found old
      case isTrue latest =>
          have informed := current.informed.eraseIdx index
          have fresh : mirror.heard ≤ age := by
            rcases current.coming with awaits | settles
            · exact awaits.finds _ member latest value age rfl
            · exact absurd (List.mem_map.mpr ⟨_, member, latest⟩)
                settles.answered
          refine ⟨current.chained.accept index value age,
            ⟨informed.told, informed.early, informed.sent,
              informed.readings⟩, Or.inr ⟨?_, fresh, ?_⟩⟩
          · have gone := current.chained.not_mem_eraseIdx found
            rw [latest] at gone
            exact gone
          · exact current.informed.readings _ member value age rfl

theorem Current.fail
    {mirror : Mirror Value}
    (current : mirror.Current)
    (index : Nat) :
    (mirror.fail index).Current := by
  unfold Mirror.fail
  split
  case h_2 => exact current
  case h_1 flight found =>
      dsimp only
      split
      case isFalse old => exact current.forget found old
      case isTrue latest =>
          have informed := current.informed.eraseIdx index
          apply Current.begin
          · intro other member
            exact current.chained.bounded other
              (List.mem_of_mem_eraseIdx member)
          · exact nodup_eraseIdx current.chained.distinct index
          · exact ⟨informed.told, informed.early, informed.sent,
              informed.readings⟩

/-! ## Everything that can happen -/

/-- One operation on a value and its copy. -/
inductive Move (Value : Type u)
  | stay
  | change (value : Value)
  | announce
  | begin
  | refresh
  | hear
  | readAt (index : Nat)
  | succeed (index : Nat)
  | fail (index : Nat)

def move (mirror : Mirror Value) : Move Value → Mirror Value
  | .stay => mirror
  | .change value => mirror.change value
  | .announce => mirror.announce
  | .begin => mirror.begin
  | .refresh => mirror.refresh
  | .hear => mirror.hear
  | .readAt index => mirror.readAt index
  | .succeed index => mirror.succeed index
  | .fail index => mirror.fail index

theorem Chained.move
    {mirror : Mirror Value}
    (chained : mirror.Chained)
    (move : Move Value) :
    (mirror.move move).Chained := by
  cases move with
  | stay => exact chained
  | change value =>
      exact ⟨chained.bounded, chained.distinct, chained.waits⟩
  | announce => exact ⟨chained.bounded, chained.distinct, chained.waits⟩
  | begin => exact Chained.begin chained.bounded chained.distinct
  | refresh => exact chained.refresh
  | hear => exact chained.hear
  | readAt index => exact chained.readAt index
  | succeed index => exact chained.succeed index
  | fail index => exact chained.fail index

theorem Current.move
    {mirror : Mirror Value}
    (current : mirror.Current)
    (move : Move Value)
    (kept : move = .hear → ¬ mirror.Misses) :
    (mirror.move move).Current := by
  cases move with
  | stay => exact current
  | change value => exact current.change value
  | announce => exact current.announce
  | begin =>
      exact Current.begin current.chained.bounded current.chained.distinct
        current.informed
  | refresh => exact current.refresh
  | hear => exact current.hear (kept rfl)
  | readAt index => exact current.readAt index
  | succeed index => exact current.succeed index
  | fail index => exact current.fail index

/-- Only the answer of the latest read replaces the copy. -/
theorem held_move
    (mirror : Mirror Value)
    (move : Move Value)
    (replaced : (mirror.move move).held ≠ mirror.held) :
    ∃ index value age, move = .succeed index ∧
      mirror.flights[index]? = some ⟨mirror.latest, some (value, age)⟩ ∧
      (mirror.move move).held = value := by
  have refreshed : ∀ mirror : Mirror Value,
      mirror.refresh.held = mirror.held := by
    intro mirror
    unfold Mirror.refresh
    split
    case isTrue => rfl
    case isFalse => rfl
  cases move with
  | stay => exact absurd rfl replaced
  | change value => exact absurd rfl replaced
  | announce => exact absurd rfl replaced
  | begin => exact absurd rfl replaced
  | refresh => exact absurd (refreshed mirror) replaced
  | hear =>
      refine absurd ?_ replaced
      change mirror.hear.held = mirror.held
      unfold Mirror.hear
      split
      case h_1 => rfl
      case h_2 => exact refreshed _
  | readAt index => exact absurd rfl replaced
  | fail index =>
      refine absurd ?_ replaced
      change (mirror.fail index).held = mirror.held
      unfold Mirror.fail
      split
      case h_2 => rfl
      case h_1 =>
          dsimp only
          split
          case isTrue => rfl
          case isFalse => rfl
  | succeed index =>
      change (mirror.succeed index).held ≠ mirror.held at replaced
      change ∃ index value age, _ ∧ _ ∧ (mirror.succeed _).held = value
      unfold Mirror.succeed at replaced ⊢
      split at replaced
      case h_2 => exact absurd rfl replaced
      case h_1 number value age found =>
          dsimp only at replaced
          split at replaced
          case isFalse => exact absurd rfl replaced
          case isTrue latest =>
              subst latest
              refine ⟨index, value, age, rfl, found, ?_⟩
              dsimp only
              rw [if_pos rfl]

end Mirror
end Foundation
end Hearthdeck
