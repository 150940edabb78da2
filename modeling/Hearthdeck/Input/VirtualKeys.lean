import Hearthdeck.Input.Capture
import Hearthdeck.Input.MapperLog

/-!
# Keys of the virtual device

The mapper decides which keys are down; the kernel shows what the device
accepted.  The two part only where an error is caught: opening the game
keyboard stops the mapper first, and if the device refuses these releases the
broker goes on without them.  The invariant keeps the list of everything the
broker handed to the device, of which the output is the accepted part, and
lets only open controllers hold keys, and only while a desktop application
owns them.
-/

namespace Hearthdeck
namespace Input

open Foundation Effect Foundation.History Mapper

/-! ## What one controller can do to the mapper -/

/-- A call made for one controller: it keeps the mapper and its log together,
never starts or stops the mapper, and records nothing for other
controllers. -/
structure Serves
    (device : PadId)
    (call : Mapper → Mapper × List OutputEvent) : Prop where
  /-- The mapper still agrees with its log. -/
  faithful : ∀ {mapper log held}, Faithful mapper log held →
    ∃ held', Faithful (call mapper).1 (log ++ (call mapper).2) held'
  /-- The mapper runs as before. -/
  active : ∀ mapper, (call mapper).1.active = mapper.active
  /-- A new source is one of the controller's. -/
  sources : ∀ mapper source key,
    (call mapper).1.sources.lookup source = some key →
      source.1 = device ∨ mapper.sources.lookup source = some key
  /-- A new stick is the controller's. -/
  sticks : ∀ mapper other, other ∈ (call mapper).1.rightSticks →
    other = device ∨ other ∈ mapper.rightSticks

/-- Whatever it emits, stopping or starting the mapper leaves it so. -/
theorem setActive_active
    (mapper : Mapper)
    (order : HashOrder)
    (active : Bool) :
    (mapper.setActive order active).1.active = active := by
  unfold Mapper.setActive
  split
  case isTrue same => exact same
  case isFalse other => split <;> simp_all

/-- Events handed to the virtual device, with the number of the question that
tells whether it takes them. -/
structure Emission where
  /-- Number of the question. -/
  question : Nat
  /-- Events handed over together. -/
  events : List OutputEvent

/-- Everything handed to the device. -/
def handed (emissions : List Emission) : List OutputEvent :=
  emissions.flatMap Emission.events

theorem handed_append (first second : List Emission) :
    handed (first ++ second) = handed first ++ handed second :=
  List.flatMap_append

namespace Broker

variable (outside : Outside)

/-- The device did not take the emission. -/
def Refused (emission : Emission) : Prop :=
  outside.failure emission.question ≠ none

instance : DecidablePred (Refused outside) :=
  fun _ => inferInstanceAs (Decidable (outside.failure _ ≠ none))

/-- What the device took. -/
def accepted (emissions : List Emission) : List OutputEvent :=
  handed (emissions.filter fun emission => ¬Refused outside emission)

theorem accepted_append (first second : List Emission) :
    accepted outside (first ++ second) =
      accepted outside first ++ accepted outside second := by
  rw [accepted, List.filter_append, handed_append]
  rfl

/-- The broker outlives the refusal of an emission only where a keyboard
adapter is configured, and only of releases. -/
structure Excused (emission : Emission) : Prop where
  adapter : outside.adapter ≠ none
  releases : ∀ event ∈ emission.events, ∃ key, event = .key key false

/-- A controller is open. -/
def Opened (broker : Broker) (device : PadId) : Prop :=
  ∃ pad ∈ broker.pads, pad.id = device

/-- The mapper, its log, the open controllers and their owner go together. -/
structure Served
    (opened : PadId → Prop)
    (owner : Owner)
    (mapper : Mapper)
    (log : List OutputEvent) : Prop where
  /-- The mapper agrees with the log. -/
  faithful : ∃ held, Faithful mapper log held
  /-- Only open controllers hold keys. -/
  sources : ∀ source key, mapper.sources.lookup source = some key →
    opened source.1
  /-- Only open controllers move the pointer. -/
  sticks : ∀ device ∈ mapper.rightSticks, opened device
  /-- The mapper runs only for a desktop application. -/
  owner : mapper.active = true → owner = .desktop

/-- The output is the part of the emissions that the device took. -/
structure Recorded (broker : Broker) (emissions : List Emission) : Prop where
  /-- The device took everything but the refused emissions. -/
  output : broker.output = accepted outside emissions
  /-- Emissions are older than the next question. -/
  asked : ∀ emission ∈ emissions, emission.question < broker.asked
  /-- Every refusal is excused. -/
  excused : ∀ emission ∈ emissions,
    Refused outside emission → Excused outside emission

/-- The invariant of the virtual device. -/
def Upright (broker : Broker) : Prop :=
  ∃ emissions, Recorded outside broker emissions ∧
    Served (Opened broker) broker.state.owner broker.mapper
      (handed emissions)

/-! ## What does not concern the device -/

/-- Mapper, output and owner are the same, and no controller is closed. -/
structure Still (before after : Broker) : Prop where
  mapper : after.mapper = before.mapper
  output : after.output = before.output
  owner : after.state.owner = before.state.owner
  asked : before.asked ≤ after.asked
  opened : ∀ device, Opened before device → Opened after device

instance : IsPreorder Broker Still where
  refl _ := ⟨rfl, rfl, rfl, Nat.le_refl _, fun _ opened => opened⟩
  trans _ _ _ first second :=
    ⟨second.mapper.trans first.mapper, second.output.trans first.output,
      second.owner.trans first.owner,
      Nat.le_trans first.asked second.asked,
      fun device opened => second.opened device (first.opened device opened)⟩

variable {outside}

theorem Recorded.still
    {before after : Broker}
    {emissions : List Emission}
    (recorded : Recorded outside before emissions)
    (output : after.output = before.output)
    (asked : before.asked ≤ after.asked) :
    Recorded outside after emissions where
  output := output.trans recorded.output
  asked := fun emission member =>
    Nat.lt_of_lt_of_le (recorded.asked emission member) asked
  excused := recorded.excused

theorem Served.still
    {before after : Broker}
    {mapper : Mapper}
    {log : List OutputEvent}
    (served : Served (Opened before) before.state.owner mapper log)
    (still : Still before after) :
    Served (Opened after) after.state.owner mapper log where
  faithful := served.faithful
  sources := fun source key found =>
    still.opened _ (served.sources source key found)
  sticks := fun device member =>
    still.opened _ (served.sticks device member)
  owner := fun running => still.owner.trans (served.owner running)

theorem Upright.still
    {before after : Broker}
    (upright : Upright outside before)
    (still : Still before after) :
    Upright outside after := by
  obtain ⟨emissions, recorded, served⟩ := upright
  refine ⟨emissions, recorded.still still.output still.asked, ?_⟩
  rw [still.mapper]
  exact served.still still

variable (outside)

section Grabs

variable {Pad : Type}

end Grabs

/-- An emission that the device refused for an excuse. -/
theorem Recorded.lost
    {outside : Outside}
    {broker : Broker}
    {emissions : List Emission}
    (recorded : Recorded outside broker emissions)
    {events : List OutputEvent}
    (refused : Refused outside ⟨broker.asked, events⟩)
    (excused : Excused outside ⟨broker.asked, events⟩) :
    Recorded outside { broker with asked := broker.asked + 1 }
      (emissions ++ [⟨broker.asked, events⟩]) where
  output := by
    have last : accepted outside [⟨broker.asked, events⟩] = [] := by
      simp [accepted, handed, refused]
    rw [accepted_append, last, List.append_nil, ← recorded.output]
  asked := by
    intro emission member
    rcases List.mem_append.mp member with earlier | last
    · exact Nat.lt_succ_of_lt (recorded.asked emission earlier)
    · rw [List.mem_singleton.mp last]
      exact Nat.lt_succ_self _
  excused := by
    intro emission member isRefused
    rcases List.mem_append.mp member with earlier | last
    · exact recorded.excused emission earlier isRefused
    · rw [List.mem_singleton.mp last]
      exact excused

/-- The mapper and the controllers are as they were. -/
structure Shows (before after : Broker) : Prop where
  mapper : after.mapper = before.mapper
  pads : after.pads = before.pads

/-- The mapper was called and its events were handed over. -/
structure Calls
    (call : HashOrder → Mapper → Mapper × List OutputEvent)
    (before after : Broker) : Prop where
  mapper : ∃ order, after.mapper = (call order before.mapper).1
  pads : after.pads = before.pads

section Served

variable
  {opened : PadId → Prop}
  {owner : Owner}
  {mapper : Mapper}
  {log : List OutputEvent}

/-- A call for an open controller. -/
theorem Served.serve
    (served : Served opened owner mapper log)
    {device : PadId}
    {call : Mapper → Mapper × List OutputEvent}
    (serves : Serves device call)
    (isOpen : opened device) :
    Served opened owner (call mapper).1 (log ++ (call mapper).2) where
  faithful := by
    obtain ⟨held, faithful⟩ := served.faithful
    exact serves.faithful faithful
  sources := by
    intro source key found
    rcases serves.sources mapper source key found with own | earlier
    · exact own ▸ isOpen
    · exact served.sources source key earlier
  sticks := by
    intro other member
    rcases serves.sticks mapper other member with own | earlier
    · exact own ▸ isOpen
    · exact served.sticks other earlier
  owner := by
    rw [serves.active]
    exact served.owner

/-- Stopping the mapper, or starting it for a desktop application. -/
theorem Served.setActive
    (served : Served opened owner mapper log)
    (order : HashOrder)
    (active : Bool)
    (owned : active = true → owner = .desktop) :
    Served opened owner (mapper.setActive order active).1
      (log ++ (mapper.setActive order active).2) where
  faithful := by
    obtain ⟨held, faithful⟩ := served.faithful
    exact ⟨_, faithful.setActive order active⟩
  sources := by
    intro source key
    unfold Mapper.setActive
    split
    · exact served.sources source key
    split
    · exact served.sources source key
    · simp
  sticks := by
    intro device
    unfold Mapper.setActive
    split
    · exact served.sticks device
    split
    · exact served.sticks device
    · simp
  owner := by
    rw [setActive_active]
    exact owned

/-- A stopped mapper holds nothing, whoever owns the controllers and whichever
of them are open. -/
theorem Served.stopped
    (served : Served opened owner mapper log)
    (inactive : mapper.active = false)
    (opened' : PadId → Prop)
    (owner' : Owner) :
    Served opened' owner' mapper log := by
  obtain ⟨held, faithful⟩ := served.faithful
  obtain ⟨noSources, noSticks⟩ := faithful.tracks.inactive inactive
  refine ⟨⟨held, faithful⟩, ?_, ?_, ?_⟩
  · simp [noSources]
  · simp [noSticks]
  · simp [inactive]

end Served

variable (outside : Outside)

variable {ids : List PadId}

/-- Pointer motion is no key. -/
theorem keyLog_mouseTick
    (mapper : Mapper)
    (key : OutputKey) :
    keyLog key mapper.mouseTick.toList = [] := by
  unfold mouseTick
  split
  · dsimp only
    split <;> rfl
  · rfl

theorem Served.movePointer
    {opened : PadId → Prop}
    {owner : Owner}
    {mapper : Mapper}
    {log : List OutputEvent}
    (served : Served opened owner mapper log) :
    Served opened owner mapper (log ++ mapper.mouseTick.toList) where
  faithful := by
    obtain ⟨held, tracks, represents⟩ := served.faithful
    refine ⟨held, tracks.extend tracks.counted (fun key => ?_)
      tracks.inactive, represents⟩
    exact Or.inl ⟨keyLog_mouseTick mapper key, Iff.rfl⟩
  sources := served.sources
  sticks := served.sticks
  owner := served.owner

variable {outside}

/-- A refused emission takes no press away. -/
theorem Recorded.down
    {broker : Broker}
    {emissions : List Emission}
    (recorded : Recorded outside broker emissions)
    (key : OutputKey)
    (down : latest (keyLog key (handed emissions)) = true) :
    latest (keyLog key broker.output) = true := by
  have excused := recorded.excused
  rw [recorded.output]
  clear recorded
  induction emissions using List.reverseRecOn with
  | nil => exact down
  | append_singleton earlier last inductionHypothesis =>
      have before := inductionHypothesis
      rw [handed_append, keyLog_append, latest_append] at down
      rw [accepted_append, keyLog_append, latest_append]
      by_cases refused : Refused outside last
      · -- Nothing of it arrives, and it released no key that is down.
        have nothing : accepted outside [last] = [] := by
          simp [accepted, handed, refused]
        have silent : keyLog key (handed [last]) = [] := by
          by_contra some
          rw [if_neg some] at down
          have released : ∀ value ∈ keyLog key (handed [last]),
              value = false := by
            intro value member
            obtain ⟨event, eventMember, read⟩ := List.mem_filterMap.mp member
            obtain ⟨other, rfl⟩ := (excused last (by simp) refused).releases
              event (by simpa [handed] using eventMember)
            dsimp only at read
            split at read
            · exact (Option.some.inj read).symm
            · cases read
          rw [latest, List.getLastD_eq_getLast?,
            List.getLast?_eq_some_getLast some] at down
          have isFalse := released _ (List.getLast_mem some)
          simp [isFalse] at down
        rw [if_pos silent] at down
        rw [nothing, keyLog_nil, if_pos rfl]
        exact before down fun emission member =>
          excused emission (by simp [member])
      · have arrives : accepted outside [last] = handed [last] := by
          simp [accepted, refused]
        rw [arrives]
        split at down
        case isTrue silent =>
          rw [if_pos silent]
          exact before down fun emission member =>
            excused emission (by simp [member])
        case isFalse some =>
          rw [if_neg some]
          exact down

end Broker
end Input
end Hearthdeck
