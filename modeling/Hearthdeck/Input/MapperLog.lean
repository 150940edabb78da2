import Hearthdeck.Foundation.History
import Hearthdeck.Input.Mapping
import Mathlib.Data.Finset.Basic

/-!
# The compatibility mapper never leaves a stuck key

The mapper keeps its counts apart from its sources and drains them without
going through the sources.  The invariant `Tracks` ties the three to the log
of everything the mapper has emitted: a key's count is the number of its
sources, and the key is down in the log exactly while that number is positive.
Above it, `Held` says what the mapper is for, the set of controls that are
held while the mapper serves an application.
-/

namespace Hearthdeck
namespace Input
namespace Mapper

open Foundation Foundation.History

/-- Presses and releases of one key in a list of emitted events. -/
def keyLog (key : OutputKey) (events : List OutputEvent) : List Bool :=
  events.filterMap fun event =>
    match event with
    | .key other pressed => if other = key then some pressed else none
    | .mouseMove _ _ => none

/-- Number of sources of one key in a source table. -/
def keySources (sources : Table Source OutputKey) (key : OutputKey) : Nat :=
  Table.count (fun _ value => value == key) sources

/-- Number of held sources of one key. -/
def sourceCount (mapper : Mapper) (key : OutputKey) : Nat :=
  keySources mapper.sources key

/-- The state of the mapper agrees with the log of what it emitted. -/
structure Tracks (mapper : Mapper) (log : List OutputEvent) : Prop where
  /-- A key is counted exactly when it has sources, and by their number. -/
  counted : ∀ key, mapper.outputCounts.lookup key =
    if mapper.sourceCount key = 0 then none
    else some (mapper.sourceCount key)
  /-- Presses and releases of every key alternate, presses first. -/
  alternates : ∀ key, Alternates (keyLog key log)
  /-- A key is down in the log exactly when it has a source. -/
  down : ∀ key, latest (keyLog key log) = true ↔ 0 < mapper.sourceCount key
  /-- An inactive mapper has forgotten every source and every stick. -/
  inactive : mapper.active = false →
    mapper.sources = ∅ ∧ mapper.rightSticks = ∅

@[simp] theorem keyLog_nil (key : OutputKey) : keyLog key [] = [] := rfl

theorem keyLog_append
    (key : OutputKey)
    (first second : List OutputEvent) :
    keyLog key (first ++ second) = keyLog key first ++ keyLog key second :=
  List.filterMap_append

@[simp] theorem keyLog_key_self
    (key : OutputKey)
    (pressed : Bool) :
    keyLog key [.key key pressed] = [pressed] := by
  simp [keyLog]

theorem keyLog_key_other
    {key other : OutputKey}
    (different : other ≠ key)
    (pressed : Bool) :
    keyLog key [.key other pressed] = [] := by
  simp [keyLog, different]

/-- Releasing a duplicate-free list of keys releases each of them once. -/
theorem keyLog_releases
    (key : OutputKey)
    (keys : List OutputKey)
    (nodup : keys.Nodup) :
    keyLog key (keys.map fun released => .key released false) =
      if key ∈ keys then [false] else [] := by
  induction keys with
  | nil => rfl
  | cons first keys inductionHypothesis =>
      have firstAbsent : first ∉ keys := (List.nodup_cons.mp nodup).1
      have rest := inductionHypothesis (List.nodup_cons.mp nodup).2
      rw [List.map_cons, ← List.singleton_append, keyLog_append, rest]
      by_cases same : first = key
      · subst same
        simp [firstAbsent]
      · rw [keyLog_key_other same]
        simp [Ne.symm same]

/-- The freshly started mapper agrees with the empty log. -/
theorem tracks_start : Tracks machine.start [] where
  counted := fun key => by simp [machine, sourceCount, keySources]
  alternates := fun key => by simp
  down := fun key => by simp [machine, sourceCount, keySources]
  inactive := fun _ => ⟨rfl, rfl⟩

/-- A held source makes the count of its key positive. -/
theorem sourceCount_pos
    {mapper : Mapper}
    {source : Source}
    {key : OutputKey}
    (held : mapper.sources.lookup source = some key) :
    0 < mapper.sourceCount key := by
  rw [sourceCount, keySources, Table.count_pos_iff]
  exact ⟨source, key, held, by simp⟩

/-! ## One rule for all calls -/

/-- What a call may do to one key: leave it up or down and emit nothing, or
emit the one event that turns it over. -/
def TurnsOver
    (before after : Mapper)
    (events : List OutputEvent)
    (key : OutputKey) : Prop :=
  (keyLog key events = [] ∧
      (0 < after.sourceCount key ↔ 0 < before.sourceCount key)) ∨
    ∃ pressed, keyLog key events = [pressed] ∧
      (0 < after.sourceCount key ↔ pressed = true) ∧
      (0 < before.sourceCount key ↔ pressed = false)

/-- A call that recounts correctly and turns over the keys it changes keeps
the agreement with the log. -/
theorem Tracks.extend
    {before after : Mapper}
    {log events : List OutputEvent}
    (tracks : Tracks before log)
    (counted : ∀ key, after.outputCounts.lookup key =
      if after.sourceCount key = 0 then none
      else some (after.sourceCount key))
    (turns : ∀ key, TurnsOver before after events key)
    (inactive : after.active = false →
      after.sources = ∅ ∧ after.rightSticks = ∅) :
    Tracks after (log ++ events) where
  counted := counted
  alternates := by
    intro key
    rw [keyLog_append]
    rcases turns key with ⟨silent, _⟩ | ⟨pressed, edge, _, was⟩
    · rw [silent, List.append_nil]
      exact tracks.alternates key
    · rw [edge, alternates_concat]
      refine ⟨tracks.alternates key, ?_⟩
      have down := tracks.down key
      cases pressed <;> simp_all
  down := by
    intro key
    rw [keyLog_append]
    rcases turns key with ⟨silent, same⟩ | ⟨pressed, edge, now, _⟩
    · rw [silent, List.append_nil, tracks.down key, same]
    · rw [edge, latest_concat, now]
  inactive := inactive

/-- A call that emits nothing and changes neither sources nor counts keeps
the agreement. -/
theorem Tracks.unchanged
    {before after : Mapper}
    {log : List OutputEvent}
    (tracks : Tracks before log)
    (sources : after.sources = before.sources)
    (counts : after.outputCounts = before.outputCounts)
    (inactive : after.active = false →
      after.sources = ∅ ∧ after.rightSticks = ∅) :
    Tracks after (log ++ []) := by
  have sameCount : ∀ key, after.sourceCount key = before.sourceCount key := by
    intro key
    rw [sourceCount, sourceCount, sources]
  refine tracks.extend ?_ ?_ inactive
  · intro key
    rw [counts, sameCount]
    exact tracks.counted key
  · intro key
    left
    rw [sameCount]
    exact ⟨rfl, Iff.rfl⟩

/-- An active mapper owes nothing to the clause about inactive ones. -/
theorem not_inactive
    {mapper : Mapper}
    (active : mapper.active = true) :
    mapper.active = false →
      mapper.sources = ∅ ∧ mapper.rightSticks = ∅ := by
  intro inactive
  rw [active] at inactive
  cases inactive

/-! ## Sources -/

/-- Counts after a source is forgotten. -/
theorem keySources_erase
    {sources : Table Source OutputKey}
    {source : Source}
    {key : OutputKey}
    (held : sources.lookup source = some key)
    (other : OutputKey) :
    keySources (sources.erase source) other + (if key = other then 1 else 0) =
      keySources sources other := by
  have split := Table.count_erase_of_lookup_eq_some
    (fun _ value => value == other) sources source key held
  simpa [keySources] using split

/-- Counts after a new source is recorded. -/
theorem keySources_insert
    {sources : Table Source OutputKey}
    {source : Source}
    (absent : sources.lookup source = none)
    (key other : OutputKey) :
    keySources (sources.insert source key) other =
      keySources sources other + (if key = other then 1 else 0) := by
  have split := Table.count_insert_of_lookup_eq_none
    (fun _ value => value == other) sources source key absent
  simpa [keySources] using split

/-- Recording a source again under its own key changes no count. -/
theorem keySources_insert_same
    {sources : Table Source OutputKey}
    {source : Source}
    {key : OutputKey}
    (held : sources.lookup source = some key)
    (other : OutputKey) :
    keySources (sources.insert source key) other =
      keySources sources other := by
  have same : (sources.erase source).insert source key =
      sources.insert source key := by
    apply AList.ext
    rw [AList.entries_insert, AList.entries_insert]
    change _ :: List.kerase source (List.kerase source _) = _
    rw [List.kerase_of_notMem_keys
      (List.notMem_keys_kerase source sources.nodupKeys)]
  rw [← same, keySources_insert (AList.lookup_erase source sources)]
  exact keySources_erase held other

/-- Releasing a source forgets that source, and else only counts anew. -/
theorem releaseSource_eq
    (mapper : Mapper)
    (source : Source) :
    ∃ counts, (mapper.releaseSource source).1 =
      { mapper with
        sources := mapper.sources.erase source
        outputCounts := counts } := by
  unfold releaseSource
  cases held : mapper.sources.lookup source with
  | none =>
      have absent : source ∉ mapper.sources := AList.lookup_eq_none.mp held
      have same : mapper.sources.erase source = mapper.sources :=
        AList.ext (List.kerase_of_notMem_keys absent)
      exact ⟨mapper.outputCounts, by rw [same]⟩
  | some key =>
      cases found : mapper.outputCounts.lookup key with
      | none => exact ⟨mapper.outputCounts, by simp [found]⟩
      | some count =>
          simp only [found]
          split
          case isTrue last => exact ⟨_, rfl⟩
          case isFalse shared => exact ⟨_, rfl⟩

@[simp] theorem releaseSource_active
    (mapper : Mapper)
    (source : Source) :
    (mapper.releaseSource source).1.active = mapper.active := by
  obtain ⟨counts, released⟩ := mapper.releaseSource_eq source
  rw [released]

@[simp] theorem releaseSource_rightSticks
    (mapper : Mapper)
    (source : Source) :
    (mapper.releaseSource source).1.rightSticks = mapper.rightSticks := by
  obtain ⟨counts, released⟩ := mapper.releaseSource_eq source
  rw [released]

theorem releaseSource_sources
    (mapper : Mapper)
    (source : Source) :
    (mapper.releaseSource source).1.sources =
      mapper.sources.erase source := by
  obtain ⟨counts, released⟩ := mapper.releaseSource_eq source
  rw [released]

/-- Releasing a source keeps the agreement with the log. -/
theorem Tracks.releaseSource
    {mapper : Mapper}
    {log : List OutputEvent}
    (tracks : Tracks mapper log)
    (source : Source) :
    Tracks (mapper.releaseSource source).1
      (log ++ (mapper.releaseSource source).2) := by
  have inactive : (mapper.releaseSource source).1.active = false →
      (mapper.releaseSource source).1.sources = ∅ ∧
        (mapper.releaseSource source).1.rightSticks = ∅ := by
    intro stopped
    rw [releaseSource_active] at stopped
    obtain ⟨noSources, noSticks⟩ := tracks.inactive stopped
    rw [releaseSource_sources, releaseSource_rightSticks, noSources]
    exact ⟨rfl, noSticks⟩
  revert inactive
  unfold Mapper.releaseSource
  cases held : mapper.sources.lookup source with
  | none => exact fun inactive => tracks.unchanged rfl rfl inactive
  | some key =>
      have positive := sourceCount_pos held
      have recount : ∀ other, _ = mapper.sourceCount other :=
        keySources_erase held
      have counted := tracks.counted key
      rw [if_neg (by omega)] at counted
      simp only [counted]
      by_cases last : mapper.sourceCount key - 1 = 0
      · -- The last source of the key: the count goes and the key is released.
        rw [if_pos last]
        refine fun inactive => tracks.extend ?_ ?_ inactive
        · intro other
          have otherCount := recount other
          change (mapper.outputCounts.erase key).lookup other =
            if keySources (mapper.sources.erase source) other = 0 then none
            else some (keySources (mapper.sources.erase source) other)
          rw [Table.lookup_erase_eq_ite]
          by_cases same : other = key
          · subst same
            rw [if_pos rfl] at otherCount
            rw [if_pos rfl, if_pos (by omega)]
          · rw [if_neg (Ne.symm same), Nat.add_zero] at otherCount
            rw [if_neg same, otherCount]
            exact tracks.counted other
        · intro other
          have otherCount := recount other
          by_cases same : key = other
          · subst same
            rw [if_pos rfl] at otherCount
            refine Or.inr ⟨false, keyLog_key_self key false, ?_,
              by simp [positive]⟩
            change 0 < keySources (mapper.sources.erase source) _ ↔ _
            simp only [Bool.false_eq_true, iff_false]
            omega
          · rw [if_neg same, Nat.add_zero] at otherCount
            refine Or.inl ⟨keyLog_key_other same false, ?_⟩
            change 0 < keySources (mapper.sources.erase source) _ ↔ _
            rw [otherCount]
      · -- Other sources hold the key down: only the count changes.
        rw [if_neg last]
        refine fun inactive => tracks.extend ?_ ?_ inactive
        · intro other
          have otherCount := recount other
          change (mapper.outputCounts.insert key _).lookup other =
            if keySources (mapper.sources.erase source) other = 0 then none
            else some (keySources (mapper.sources.erase source) other)
          rw [Table.lookup_insert_eq_ite]
          by_cases same : other = key
          · subst same
            rw [if_pos rfl] at otherCount
            rw [if_pos rfl, if_neg (by omega)]
            congr 1
            omega
          · rw [if_neg (Ne.symm same), Nat.add_zero] at otherCount
            rw [if_neg same, otherCount]
            exact tracks.counted other
        · intro other
          have otherCount := recount other
          refine Or.inl ⟨rfl, ?_⟩
          change 0 < keySources (mapper.sources.erase source) _ ↔ _
          by_cases same : key = other
          · subst same
            rw [if_pos rfl] at otherCount
            omega
          · rw [if_neg same, Nat.add_zero] at otherCount
            rw [otherCount]

/-- Pressing or releasing a source of an active mapper keeps the agreement
with the log, provided a pressed source is not recorded under another key. -/
theorem Tracks.setSource
    {mapper : Mapper}
    {log : List OutputEvent}
    (tracks : Tracks mapper log)
    (active : mapper.active = true)
    (source : Source)
    (key : OutputKey)
    (pressed : Bool)
    (stable : ∀ other, mapper.sources.lookup source = some other →
      other = key) :
    Tracks (mapper.setSource source key pressed).1
      (log ++ (mapper.setSource source key pressed).2) := by
  cases pressed with
  | false => exact tracks.releaseSource source
  | true =>
      unfold Mapper.setSource
      cases previous : mapper.sources.lookup source with
      | some other =>
          -- A repeated press replaces the source by itself.
          obtain rfl := stable other previous
          have sameCount : ∀ counted,
              keySources (mapper.sources.insert source other) counted =
                mapper.sourceCount counted :=
            keySources_insert_same previous
          refine tracks.extend ?_ ?_ (not_inactive active)
          · intro counted
            change mapper.outputCounts.lookup counted =
              if keySources (mapper.sources.insert source other) counted = 0
              then none
              else some
                (keySources (mapper.sources.insert source other) counted)
            rw [sameCount]
            exact tracks.counted counted
          · intro counted
            refine Or.inl ⟨rfl, ?_⟩
            change 0 < keySources (mapper.sources.insert source other) _ ↔ _
            rw [sameCount]
      | none =>
          have recount : ∀ other,
              keySources (mapper.sources.insert source key) other =
                mapper.sourceCount other + (if key = other then 1 else 0) :=
            keySources_insert previous key
          have counted := tracks.counted key
          have current : (mapper.outputCounts.lookup key).getD 0 =
              mapper.sourceCount key := by
            rw [counted]
            by_cases zero : mapper.sourceCount key = 0 <;> simp [zero]
          simp only [Option.isSome_none, Bool.false_eq_true, if_false, current,
            if_true]
          have recounted : ∀ other,
              (mapper.outputCounts.insert key
                  (mapper.sourceCount key + 1)).lookup other =
                if keySources (mapper.sources.insert source key) other = 0
                then none
                else some
                  (keySources (mapper.sources.insert source key) other) := by
            intro other
            rw [Table.lookup_insert_eq_ite, recount other]
            by_cases same : other = key
            · subst same
              simp
            · rw [if_neg same, if_neg (Ne.symm same), Nat.add_zero]
              exact tracks.counted other
          by_cases first : mapper.sourceCount key + 1 = 1
          · -- The first source of the key: the key is pressed.
            rw [if_pos first]
            refine tracks.extend recounted ?_ (not_inactive active)
            intro other
            have otherCount := recount other
            by_cases same : key = other
            · subst same
              rw [if_pos rfl] at otherCount
              refine Or.inr ⟨true, keyLog_key_self key true, ?_, ?_⟩
              · change 0 < keySources (mapper.sources.insert source key) _ ↔ _
                simp [otherCount]
              · simp only [Bool.true_eq_false, iff_false]
                omega
            · rw [if_neg same, Nat.add_zero] at otherCount
              refine Or.inl ⟨keyLog_key_other same true, ?_⟩
              change 0 < keySources (mapper.sources.insert source key) _ ↔ _
              rw [otherCount]
          · rw [if_neg first]
            refine tracks.extend recounted ?_ (not_inactive active)
            intro other
            have otherCount := recount other
            refine Or.inl ⟨rfl, ?_⟩
            change 0 < keySources (mapper.sources.insert source key) _ ↔ _
            by_cases same : key = other
            · subst same
              rw [if_pos rfl] at otherCount
              omega
            · rw [if_neg same, Nat.add_zero] at otherCount
              rw [otherCount]

/-! ## What the mapper is for -/

/-- The controls that are held while the mapper serves an application. -/
structure Held where
  /-- Whether the mapper serves an application. -/
  active : Bool := false
  /-- Controls pressed since then and neither released nor removed. -/
  controls : Finset Source := ∅

namespace Held

/-- A control is pressed or released. -/
def touch
    (held : Held)
    (device : PadId)
    (control : Control)
    (pressed : Bool) : Held :=
  if held.active then
    { held with controls :=
        if pressed then insert (device, control) held.controls
        else held.controls.erase (device, control) }
  else
    held

/-- The effect of a call on the held controls. -/
def step (held : Held) : Call → Held
  | .setActive _ active =>
      if held.active = active then held
      else if active then { held with active := true }
      else { active := false, controls := ∅ }
  | .button device control pressed => held.touch device control pressed
  | .directionalAxis device negative positive value =>
      (held.touch device negative (decide (value < -deadzone))).touch
        device positive (decide (value > deadzone))
  | .rightStickAxis _ _ _ => held
  | .removeDevice _ device =>
      { held with
        controls := held.controls.filter fun source => source.1 ≠ device }

/-- The held controls after a list of calls. -/
def after (calls : List Call) : Held :=
  calls.foldl step {}

@[simp] theorem after_concat
    (calls : List Call)
    (call : Call) :
    after (calls ++ [call]) = (after calls).step call := by
  simp [after]

end Held

/-- The sources of the mapper are the held controls that have a key. -/
structure Represents (mapper : Mapper) (held : Held) : Prop where
  /-- Both agree on whether an application is served. -/
  active : mapper.active = held.active
  /-- A source is recorded exactly for a held control with a key. -/
  sources : ∀ source key, mapper.sources.lookup source = some key ↔
    source ∈ held.controls ∧ outputFor source.2 = some key

/-- The mapper agrees with its log and with the held controls. -/
structure Faithful
    (mapper : Mapper)
    (log : List OutputEvent)
    (held : Held) : Prop where
  /-- Counts, sources and log agree. -/
  tracks : Tracks mapper log
  /-- Sources are the held controls. -/
  represents : Represents mapper held

/-! ## Calls -/

/-- Setting a source changes that source, and else only counts anew. -/
theorem setSource_eq
    (mapper : Mapper)
    (source : Source)
    (key : OutputKey)
    (pressed : Bool) :
    ∃ counts, (mapper.setSource source key pressed).1 =
      { mapper with
        sources :=
          if pressed then mapper.sources.insert source key
          else mapper.sources.erase source
        outputCounts := counts } := by
  cases pressed with
  | false => exact releaseSource_eq mapper source
  | true =>
      unfold setSource
      cases mapper.sources.lookup source with
      | some other => exact ⟨_, rfl⟩
      | none =>
          simp only [Option.isSome_none, Bool.false_eq_true, if_false, if_true]
          split
          case isTrue first => exact ⟨_, rfl⟩
          case isFalse shared => exact ⟨_, rfl⟩

theorem setSource_sources
    (mapper : Mapper)
    (source : Source)
    (key : OutputKey)
    (pressed : Bool) :
    (mapper.setSource source key pressed).1.sources =
      if pressed then mapper.sources.insert source key
      else mapper.sources.erase source := by
  obtain ⟨counts, set⟩ := mapper.setSource_eq source key pressed
  rw [set]

theorem setSource_active
    (mapper : Mapper)
    (source : Source)
    (key : OutputKey)
    (pressed : Bool) :
    (mapper.setSource source key pressed).1.active = mapper.active := by
  obtain ⟨counts, set⟩ := mapper.setSource_eq source key pressed
  rw [set]

/-- A button edge does to the mapper what it does to the held controls. -/
theorem Faithful.button
    {mapper : Mapper}
    {log : List OutputEvent}
    {held : Held}
    (faithful : Faithful mapper log held)
    (device : PadId)
    (control : Control)
    (pressed : Bool) :
    Faithful (mapper.button device control pressed).1
      (log ++ (mapper.button device control pressed).2)
      (held.touch device control pressed) := by
  obtain ⟨tracks, represents⟩ := faithful
  have sameActive := represents.active
  unfold Mapper.button Held.touch
  cases active : mapper.active with
  | false =>
      rw [← sameActive, active]
      exact ⟨tracks.unchanged rfl rfl tracks.inactive, represents⟩
  | true =>
      rw [← sameActive, active]
      simp only [if_true]
      cases keyed : outputFor control with
      | none =>
          -- A control without a key is held but has no source.
          refine ⟨tracks.unchanged rfl rfl tracks.inactive, active, ?_⟩
          rintro ⟨otherDevice, otherControl⟩ key
          rw [represents.sources]
          constructor
          · rintro ⟨member, output⟩
            have different : otherControl ≠ control := by
              rintro rfl
              simp [keyed] at output
            cases pressed <;> simp_all
          · rintro ⟨member, output⟩
            have different : otherControl ≠ control := by
              rintro rfl
              simp [keyed] at output
            cases pressed <;> simp_all
      | some key =>
          have stable : ∀ other,
              mapper.sources.lookup (device, control) = some other →
                other = key := by
            intro other found
            have output := ((represents.sources _ _).mp found).2
            simp only [keyed] at output
            exact (Option.some.inj output).symm
          refine ⟨tracks.setSource active (device, control) key pressed stable,
            (setSource_active _ _ _ _).trans active, ?_⟩
          intro source other
          rw [setSource_sources]
          cases pressed with
          | true =>
              simp only [if_true, Table.lookup_insert_eq_ite,
                Finset.mem_insert]
              by_cases same : source = (device, control)
              · subst same
                simp [keyed]
              · simp [same, represents.sources]
          | false =>
              simp only [Bool.false_eq_true, if_false,
                Table.lookup_erase_eq_ite, Finset.mem_erase]
              by_cases same : source = (device, control)
              · simp [same]
              · simp [same, represents.sources]

/-- An axis movement does to the mapper what it does to the held controls. -/
theorem Faithful.directionalAxis
    {mapper : Mapper}
    {log : List OutputEvent}
    {held : Held}
    (faithful : Faithful mapper log held)
    (device : PadId)
    (negative positive : Control)
    (value : Int) :
    Faithful (mapper.directionalAxis device negative positive value).1
      (log ++ (mapper.directionalAxis device negative positive value).2)
      ((held.touch device negative (decide (value < -deadzone))).touch
        device positive (decide (value > deadzone))) := by
  unfold Mapper.directionalAxis
  cases active : mapper.active with
  | false =>
      have heldInactive : held.active = false :=
        faithful.represents.active.symm.trans active
      have untouched : ∀ control pressed,
          held.touch device control pressed = held := by
        intro control pressed
        simp [Held.touch, heldInactive]
      simp only [Bool.false_eq_true, if_false, List.append_nil, untouched]
      exact faithful
  | true =>
      simp only [if_true, ← List.append_assoc]
      exact (faithful.button device negative _).button device positive _

/-- Stopping releases every key that is down; starting releases nothing. -/
theorem Faithful.setActive
    {mapper : Mapper}
    {log : List OutputEvent}
    {held : Held}
    (faithful : Faithful mapper log held)
    (order : HashOrder)
    (active : Bool) :
    Faithful (mapper.setActive order active).1
      (log ++ (mapper.setActive order active).2)
      (held.step (.setActive order active)) := by
  obtain ⟨tracks, represents⟩ := faithful
  unfold Mapper.setActive Held.step
  rw [← represents.active]
  by_cases same : mapper.active = active
  · simp only [same, if_true, List.append_nil]
    exact ⟨tracks, represents⟩
  · simp only [same, if_false]
    cases active with
    | true =>
        simp only [if_true]
        exact ⟨tracks.unchanged rfl rfl (not_inactive rfl),
          rfl, represents.sources⟩
    | false =>
        simp only [Bool.false_eq_true, if_false]
        refine ⟨tracks.extend ?_ ?_ (fun _ => ⟨rfl, rfl⟩), rfl, ?_⟩
        · intro key
          simp [sourceCount, keySources]
        · intro key
          have nodup : (order.visit mapper.outputCounts.keys).Nodup :=
            (order.visit_perm _).nodup_iff.mpr mapper.outputCounts.keys_nodup
          have released : key ∈ order.visit mapper.outputCounts.keys ↔
              mapper.sourceCount key ≠ 0 := by
            rw [HashOrder.mem_visit, ← AList.mem_keys, ← AList.lookup_isSome,
              tracks.counted key]
            by_cases zero : mapper.sourceCount key = 0 <;> simp [zero]
          have empty : ¬0 < keySources (∅ : Table Source OutputKey) key := by
            simp [keySources]
          unfold TurnsOver
          rw [keyLog_releases key _ nodup]
          by_cases zero : mapper.sourceCount key = 0
          · rw [if_neg (fun visited => released.mp visited zero)]
            refine Or.inl ⟨rfl, ?_⟩
            simp only [zero, Nat.lt_irrefl, iff_false]
            exact empty
          · rw [if_pos (released.mpr zero)]
            refine Or.inr ⟨false, rfl, ?_, ?_⟩
            · simp only [Bool.false_eq_true, iff_false]
              exact empty
            · simp only [iff_true]
              omega
        · intro source key
          simp

/-! ## Removing a device -/

/-- Releasing a list of sources keeps the agreement with the log. -/
theorem Tracks.releaseSources
    {mapper : Mapper}
    {log : List OutputEvent}
    (tracks : Tracks mapper log)
    (sources : List Source) :
    Tracks (mapper.releaseSources sources).1
      (log ++ (mapper.releaseSources sources).2) := by
  induction sources generalizing mapper log with
  | nil =>
      simp only [Mapper.releaseSources, List.append_nil]
      exact tracks
  | cons source sources inductionHypothesis =>
      simp only [Mapper.releaseSources, ← List.append_assoc]
      exact inductionHypothesis (tracks.releaseSource source)

/-- Releasing a list of sources touches neither activity nor sticks. -/
theorem releaseSources_frame
    (mapper : Mapper)
    (sources : List Source) :
    (mapper.releaseSources sources).1.active = mapper.active ∧
      (mapper.releaseSources sources).1.rightSticks = mapper.rightSticks := by
  induction sources generalizing mapper with
  | nil => exact ⟨rfl, rfl⟩
  | cons source sources inductionHypothesis =>
      have rest := inductionHypothesis (mapper.releaseSource source).1
      rw [releaseSource_active, releaseSource_rightSticks] at rest
      exact rest

/-- Releasing a list of sources forgets exactly the listed ones. -/
theorem releaseSources_lookup
    (mapper : Mapper)
    (sources : List Source)
    (source : Source) :
    (mapper.releaseSources sources).1.sources.lookup source =
      if source ∈ sources then none else mapper.sources.lookup source := by
  induction sources generalizing mapper with
  | nil => simp [releaseSources]
  | cons first sources inductionHypothesis =>
      simp only [releaseSources, inductionHypothesis, releaseSource_sources,
        Table.lookup_erase_eq_ite, List.mem_cons]
      by_cases listed : source ∈ sources <;>
        by_cases same : source = first <;>
        simp [listed, same]

/-- After a device is removed no source of it is left, and every other
source is. -/
theorem removeDevice_lookup
    (mapper : Mapper)
    (order : HashOrder)
    (device : PadId)
    (source : Source) :
    (mapper.removeDevice order device).1.sources.lookup source =
      if source.1 = device then none else mapper.sources.lookup source := by
  unfold removeDevice
  rw [releaseSources_lookup]
  by_cases own : source.1 = device
  · cases held : mapper.sources.lookup source with
    | none => simp
    | some key =>
        have member : source ∈ mapper.sources.keys :=
          AList.mem_keys.mp (AList.lookup_isSome.mp (by simp [held]))
        simp [own, member]
  · simp [own]

/-- After a device is removed its stick is gone, and every other stick
stays. -/
theorem removeDevice_rightSticks
    (mapper : Mapper)
    (order : HashOrder)
    (device : PadId) :
    (mapper.removeDevice order device).1.rightSticks =
      mapper.rightSticks.erase device :=
  (releaseSources_frame _ _).2

theorem removeDevice_active
    (mapper : Mapper)
    (order : HashOrder)
    (device : PadId) :
    (mapper.removeDevice order device).1.active = mapper.active :=
  (releaseSources_frame _ _).1

/-- Removing a device does to the mapper what it does to the held
controls. -/
theorem Faithful.removeDevice
    {mapper : Mapper}
    {log : List OutputEvent}
    {held : Held}
    (faithful : Faithful mapper log held)
    (order : HashOrder)
    (device : PadId) :
    Faithful (mapper.removeDevice order device).1
      (log ++ (mapper.removeDevice order device).2)
      (held.step (.removeDevice order device)) := by
  obtain ⟨tracks, represents⟩ := faithful
  have withoutStick : Tracks
      { mapper with rightSticks := mapper.rightSticks.erase device }
      (log ++ []) := by
    refine tracks.unchanged rfl rfl ?_
    intro stopped
    obtain ⟨noSources, noSticks⟩ := tracks.inactive stopped
    refine ⟨noSources, ?_⟩
    simp only [noSticks]
    rfl
  rw [List.append_nil] at withoutStick
  refine ⟨withoutStick.releaseSources _,
    (removeDevice_active mapper order device).trans represents.active, ?_⟩
  intro source key
  rw [removeDevice_lookup]
  by_cases own : source.1 = device
  · simp [own, Held.step]
  · simp [own, Held.step, represents.sources]

/-- Every call keeps the mapper, its log and the held controls together. -/
theorem Faithful.step
    {mapper : Mapper}
    {log : List OutputEvent}
    {held : Held}
    (faithful : Faithful mapper log held)
    (call : Call) :
    Faithful (mapper.step call).1 (log ++ (mapper.step call).2)
      (held.step call) := by
  cases call with
  | setActive order active => exact faithful.setActive order active
  | button device control pressed =>
      exact faithful.button device control pressed
  | directionalAxis device negative positive value =>
      exact faithful.directionalAxis device negative positive value
  | removeDevice order device => exact faithful.removeDevice order device
  | rightStickAxis device horizontal value =>
      obtain ⟨tracks, represents⟩ := faithful
      simp only [Mapper.step, Mapper.rightStickAxis, Held.step]
      cases active : mapper.active with
      | false =>
          simp only [Bool.false_eq_true, if_false, List.append_nil]
          exact ⟨tracks, represents⟩
      | true =>
          simp only [if_true]
          exact ⟨tracks.unchanged rfl rfl (not_inactive rfl),
            active.symm.trans represents.active, represents.sources⟩

/-- Everything the mapper emits over a list of calls. -/
def emitted (calls : List Call) : List OutputEvent :=
  machine.outputsFrom machine.start calls

/-- After every list of calls the mapper, its log and the held controls
agree. -/
theorem faithful_run (calls : List Call) :
    Faithful (machine.run calls) (emitted calls) (Held.after calls) := by
  induction calls using List.reverseRecOn with
  | nil =>
      exact ⟨tracks_start, rfl, fun source key => by
        simp [Held.after, machine]⟩
  | append_singleton calls call inductionHypothesis =>
      rw [Machine.run_concat, Held.after_concat, emitted,
        Machine.outputsFrom_append, Machine.outputsFrom_cons,
        Machine.outputsFrom_nil, List.append_nil]
      exact inductionHypothesis.step call

/-! ## Main result -/

/-- The calls that remove a list of devices, each in its own hash order. -/
def removeDevices (removals : List (HashOrder × PadId)) : List Call :=
  removals.map fun removal => .removeDevice removal.1 removal.2

theorem removeDevices_concat
    (removals : List (HashOrder × PadId))
    (removal : HashOrder × PadId) :
    removeDevices (removals ++ [removal]) =
      removeDevices removals ++ [.removeDevice removal.1 removal.2] := by
  simp [removeDevices]

/-- Removing devices leaves exactly the controls of the other devices
held. -/
theorem mem_controls_removeDevices
    (calls : List Call)
    (removals : List (HashOrder × PadId))
    (source : Source) :
    source ∈ (Held.after (calls ++ removeDevices removals)).controls ↔
      source ∈ (Held.after calls).controls ∧
        source.1 ∉ removals.map Prod.snd := by
  induction removals using List.reverseRecOn with
  | nil => simp [removeDevices]
  | append_singleton removals removal inductionHypothesis =>
      rw [removeDevices_concat, ← List.append_assoc, Held.after_concat,
        Held.step]
      simp only [Finset.mem_filter, inductionHypothesis, List.map_append,
        List.map_cons, List.map_nil, List.mem_append, List.mem_singleton,
        not_or, and_assoc]

/-- Removing devices leaves exactly the sticks of the other devices. -/
theorem rightSticks_removeDevices
    (calls : List Call)
    (removals : List (HashOrder × PadId))
    (device : PadId) :
    (machine.run (calls ++ removeDevices removals)).rightSticks.lookup
        device =
      if device ∈ removals.map Prod.snd then none
      else (machine.run calls).rightSticks.lookup device := by
  induction removals using List.reverseRecOn with
  | nil => simp [removeDevices]
  | append_singleton removals removal inductionHypothesis =>
      rw [removeDevices_concat, ← List.append_assoc, Machine.run_concat]
      change ((machine.run (calls ++ removeDevices removals)).removeDevice
        removal.1 removal.2).1.rightSticks.lookup device = _
      rw [removeDevice_rightSticks, Table.lookup_erase_eq_ite,
        inductionHypothesis]
      have listed : device ∈ (removals ++ [removal]).map Prod.snd ↔
          device ∈ removals.map Prod.snd ∨ device = removal.2 := by
        simp
      simp only [listed]
      by_cases same : device = removal.2
      · rw [if_pos same, if_pos (Or.inr same)]
      · rw [if_neg same]
        simp only [same, or_false]

/-- A key is down in the log exactly when a held control maps to it. -/
theorem key_down_iff
    (calls : List Call)
    (key : OutputKey) :
    latest (keyLog key (emitted calls)) = true ↔
      ∃ device control,
        (device, control) ∈ (Held.after calls).controls ∧
          outputFor control = some key := by
  have faithful := faithful_run calls
  rw [faithful.tracks.down, sourceCount, keySources, Table.count_pos_iff]
  constructor
  · rintro ⟨⟨device, control⟩, value, found, isKey⟩
    obtain rfl : value = key := by simpa using isKey
    exact ⟨device, control, (faithful.represents.sources _ _).mp found⟩
  · rintro ⟨device, control, held⟩
    exact ⟨(device, control), key,
      (faithful.represents.sources _ _).mpr held, by simp⟩

/-- Without a stick there is no pointer motion. -/
theorem mouseTick_of_no_sticks
    {mapper : Mapper}
    (noSticks : ∀ device, mapper.rightSticks.lookup device = none) :
    mapper.mouseTick = none := by
  have empty : mapper.rightSticks.entries = [] := by
    rw [List.eq_nil_iff_forall_not_mem]
    rintro ⟨device, position⟩ member
    have found := AList.mem_lookup_iff.mpr member
    rw [noSticks] at found
    cases found
  simp [mouseTick, empty]

/-- Over every list of calls, the counts are the numbers of held sources and
never zero, every key's presses and releases alternate, a key is down exactly
while a held control maps to it, and nothing is down or moves once the mapper
is inactive or the devices are removed. -/
theorem mapper_keys_never_stick (calls : List Call) :
    (∀ key,
      ((machine.run calls).outputCounts.lookup key).getD 0 =
          (machine.run calls).sourceCount key ∧
        (machine.run calls).outputCounts.lookup key ≠ some 0) ∧
    (∀ key, Alternates (keyLog key (emitted calls))) ∧
    (∀ key, latest (keyLog key (emitted calls)) = true ↔
      ∃ device control,
        (device, control) ∈ (Held.after calls).controls ∧
          outputFor control = some key) ∧
    ((machine.run calls).active = false →
      (∀ key, latest (keyLog key (emitted calls)) = false) ∧
        (machine.run calls).mouseTick = none) ∧
    (∀ removals : List (HashOrder × PadId),
      (∀ key,
        latest (keyLog key
            (emitted (calls ++ removeDevices removals))) = true →
          ∃ device control,
            device ∉ removals.map Prod.snd ∧
              (device, control) ∈ (Held.after calls).controls ∧
              outputFor control = some key) ∧
      (∀ device ∈ removals.map Prod.snd,
        (machine.run (calls ++ removeDevices removals)).rightSticks.lookup
          device = none) ∧
      ((∀ device,
          ((∃ control, (device, control) ∈ (Held.after calls).controls) ∨
            device ∈ (machine.run calls).rightSticks) →
          device ∈ removals.map Prod.snd) →
        (∀ key,
          latest (keyLog key
            (emitted (calls ++ removeDevices removals))) = false) ∧
        (machine.run (calls ++ removeDevices removals)).mouseTick =
          none)) := by
  have faithful := faithful_run calls
  have remaining : ∀ (removals : List (HashOrder × PadId)) key,
      latest (keyLog key (emitted (calls ++ removeDevices removals))) = true →
        ∃ device control,
          device ∉ removals.map Prod.snd ∧
            (device, control) ∈ (Held.after calls).controls ∧
            outputFor control = some key := by
    intro removals key down
    obtain ⟨device, control, held, output⟩ := (key_down_iff _ key).mp down
    rw [mem_controls_removeDevices] at held
    exact ⟨device, control, held.2, held.1, output⟩
  refine ⟨?_, faithful.tracks.alternates, key_down_iff calls, ?_, ?_⟩
  · intro key
    rw [faithful.tracks.counted key]
    by_cases zero : (machine.run calls).sourceCount key = 0 <;> simp [zero]
  · intro stopped
    obtain ⟨noSources, noSticks⟩ := faithful.tracks.inactive stopped
    constructor
    · intro key
      rw [← Bool.not_eq_true, faithful.tracks.down, sourceCount, noSources]
      simp [keySources]
    · simp [mouseTick, stopped]
  · intro removals
    refine ⟨remaining removals, ?_, ?_⟩
    · intro device removed
      rw [rightSticks_removeDevices, if_pos removed]
    · intro allRemoved
      constructor
      · intro key
        rw [← Bool.not_eq_true]
        intro down
        obtain ⟨device, control, kept, held, _⟩ := remaining removals key down
        exact kept (allRemoved device (Or.inl ⟨control, held⟩))
      · apply mouseTick_of_no_sticks
        intro device
        rw [rightSticks_removeDevices]
        by_cases removed : device ∈ removals.map Prod.snd
        · rw [if_pos removed]
        · rw [if_neg removed, AList.lookup_eq_none]
          exact fun present => removed (allRemoved device (Or.inr present))

end Mapper
end Input
end Hearthdeck
