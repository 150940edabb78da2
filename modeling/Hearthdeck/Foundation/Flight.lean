import Mathlib.Data.List.Perm.Basic
import Mathlib.Data.List.InsertIdx

/-!
# Requests on their way

A request that was sent is on its way until its answer is delivered.  What it
is answered with is read at some instant in between.  The requests on their
way are kept as a list and addressed by position, so that a run chooses which
of them is read or delivered next.
-/

namespace Hearthdeck
namespace Foundation

universe u v

/-- A request on its way, and what was read for it so far. -/
structure Flight (Request : Type u) (Reading : Type v) where
  request : Request
  reading : Option Reading
  deriving DecidableEq, Repr

namespace Flight

variable {Request : Type u} {Reading : Type v}

/-- A request nothing was read for yet. -/
def sent (request : Request) : Flight Request Reading where
  request := request
  reading := none

/-- Read for a request.  Only the first reading counts. -/
def look
    (seen : Request → Reading)
    (flight : Flight Request Reading) : Flight Request Reading :=
  { flight with reading := flight.reading.or (some (seen flight.request)) }

/-- The element at a position and the others are all there are. -/
theorem perm_of_getElem?
    {Item : Type u}
    {items : List Item}
    {index : Nat}
    {item : Item}
    (found : items[index]? = some item) :
    (item :: items.eraseIdx index).Perm items := by
  obtain ⟨inside, rfl⟩ := List.getElem?_eq_some_iff.mp found
  exact List.getElem_cons_eraseIdx_perm inside

/-- How many elements have a property, told from one element and the
others. -/
theorem countP_of_getElem?
    {Item : Type u}
    {items : List Item}
    {index : Nat}
    {item : Item}
    (found : items[index]? = some item)
    (property : Item → Bool) :
    items.countP property =
      (items.eraseIdx index).countP property +
        if property item then 1 else 0 := by
  rw [← (perm_of_getElem? found).countP_eq, List.countP_cons]

/-- What stands in a list after a change at one position. -/
theorem mem_modify
    {Item : Type u}
    {items : List Item}
    {index : Nat}
    {change : Item → Item}
    {item : Item}
    (member : item ∈ items.modify index change) :
    item ∈ items ∨ ∃ earlier ∈ items, item = change earlier := by
  obtain ⟨position, found⟩ := List.mem_iff_getElem?.mp member
  rw [List.getElem?_modify] at found
  obtain ⟨earlier, stood, rfl⟩ := Option.map_eq_some_iff.mp found
  split
  case isTrue => exact Or.inr ⟨earlier, List.mem_of_getElem? stood, rfl⟩
  case isFalse => exact Or.inl (List.mem_of_getElem? stood)

/-- Reading leaves the requests alone. -/
@[simp] theorem map_request_modify_look
    (flights : List (Flight Request Reading))
    (index : Nat)
    (seen : Request → Reading) :
    (flights.modify index (look seen)).map request =
      flights.map request := by
  apply List.ext_getElem?
  intro position
  rw [List.getElem?_map, List.getElem?_map, List.getElem?_modify,
    Option.map_eq_map, Option.map_map]
  congr 1
  funext flight
  simp only [Function.comp_apply]
  split
  case isTrue => rfl
  case isFalse => rfl

/-- A flight after a reading: it is as it was, or it was read for now. -/
theorem mem_modify_look
    {flights : List (Flight Request Reading)}
    {index : Nat}
    {seen : Request → Reading}
    {flight : Flight Request Reading}
    (member : flight ∈ flights.modify index (look seen)) :
    flight ∈ flights ∨
      ∃ earlier ∈ flights, earlier.reading = none ∧
        flight = ⟨earlier.request, some (seen earlier.request)⟩ := by
  rcases mem_modify member with same | ⟨earlier, stood, rfl⟩
  · exact Or.inl same
  · cases taken : earlier.reading with
    | none =>
        refine Or.inr ⟨earlier, stood, taken, ?_⟩
        rw [look, taken]
        rfl
    | some reading =>
        have same : earlier.look seen = earlier := by
          obtain ⟨request, known⟩ := earlier
          cases taken
          rfl
        rw [same]
        exact Or.inl stood

end Flight
end Foundation
end Hearthdeck
