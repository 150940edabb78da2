import Mathlib.Data.List.Pairwise
import Mathlib.Data.List.Sort

/-!
# Sorting by a key

A stable sort by a key puts the items in the order of their keys and leaves
those of one key in the order they came in.  With the places they came from
beside them, the sorted items are in a strict order, and where an item ends up
is told by how many items precede it.
-/

namespace Hearthdeck
namespace Foundation

universe u v

variable {Item : Type u} {Key : Type v} [LinearOrder Key] (key : Item → Key)

/-- A stable sort by a key. -/
def sortByKey (items : List Item) : List Item :=
  items.insertionSort fun left right => key left ≤ key right

theorem perm_sortByKey (items : List Item) :
    (sortByKey key items).Perm items :=
  List.perm_insertionSort _ items

/-- A list in the strict order of the keys is what every rearrangement of it is
sorted to. -/
theorem sortByKey_eq_of_perm
    {items ordered : List Item}
    (perm : items.Perm ordered)
    (strict : ordered.Pairwise fun left right => key left < key right) :
    sortByKey key items = ordered := by
  have total : Std.Total fun left right : Item => key left ≤ key right :=
    ⟨fun left right => le_total (key left) (key right)⟩
  have trans : IsTrans Item fun left right => key left ≤ key right :=
    ⟨fun _ _ _ => le_trans⟩
  have sorted := List.pairwise_insertionSort
    (fun left right : Item => key left ≤ key right) items
  have same := (perm_sortByKey key items).trans perm
  refine List.Perm.eq_of_pairwise ?_ sorted (strict.imp le_of_lt) same
  intro left right inSorted inOrdered le ge
  by_contra different
  have among := same.mem_iff.mp inSorted
  have apart : ordered.Pairwise fun left right => key left ≠ key right :=
    strict.imp ne_of_lt
  have symmetric : Std.Symm fun left right : Item => key left ≠ key right :=
    ⟨fun _ _ => Ne.symm⟩
  exact apart.forall among inOrdered different (le_antisymm le ge)

/-- An item with the place it came from precedes another. -/
def Precedes (left right : Item × Nat) : Prop :=
  key left.1 < key right.1 ∨ key left.1 = key right.1 ∧ left.2 < right.2

instance (left right : Item × Nat) : Decidable (Precedes key left right) :=
  inferInstanceAs (Decidable (_ ∨ _))

variable {key} in
theorem Precedes.asymm
    {left right : Item × Nat}
    (precedes : Precedes key left right) :
    ¬ Precedes key right left := by
  rintro (lower | ⟨same, later⟩)
  · rcases precedes with higher | ⟨same, _⟩
    · exact lt_asymm lower higher
    · exact absurd same (ne_of_gt lower)
  · rcases precedes with higher | ⟨_, earlier⟩
    · exact absurd same (ne_of_gt higher)
    · omega

/-- The items with the places they came from, sorted. -/
def ranked (items : List Item) : List (Item × Nat) :=
  sortByKey (fun entry => key entry.1) items.zipIdx

theorem perm_ranked (items : List Item) :
    (ranked key items).Perm items.zipIdx :=
  perm_sortByKey _ _

theorem map_fst_ranked (items : List Item) :
    (ranked key items).map Prod.fst = sortByKey key items := by
  unfold ranked sortByKey
  rw [List.map_insertionSort _ fun left right => key left ≤ key right]
  · rw [List.zipIdx_map_fst]
  · intro _ _ _ _
    exact Iff.rfl

/-- Inserting an item that came before all others keeps the strict order. -/
theorem pairwise_orderedInsert
    {first : Item × Nat}
    {entries : List (Item × Nat)}
    (earlier : ∀ entry ∈ entries, first.2 < entry.2)
    (ordered : entries.Pairwise (Precedes key)) :
    (entries.orderedInsert (fun left right => key left.1 ≤ key right.1)
      first).Pairwise (Precedes key) := by
  induction entries with
  | nil => exact List.pairwise_singleton _ _
  | cons entry entries inductionHypothesis =>
      obtain ⟨head, rest⟩ := List.pairwise_cons.mp ordered
      rw [List.orderedInsert_cons]
      split
      case isTrue fits =>
          refine List.pairwise_cons.mpr ⟨?_, ordered⟩
          intro other member
          have later := earlier other member
          have above : key entry.1 ≤ key other.1 := by
            rcases List.mem_cons.mp member with rfl | behind
            · exact le_refl _
            · rcases head other behind with lower | ⟨same, _⟩
              · exact le_of_lt lower
              · exact le_of_eq same
          rcases lt_or_eq_of_le (le_trans fits above) with lower | same
          · exact Or.inl lower
          · exact Or.inr ⟨same, later⟩
      case isFalse high =>
          refine List.pairwise_cons.mpr ⟨?_, inductionHypothesis
            (fun other member => earlier other (List.mem_cons_of_mem _ member))
            rest⟩
          intro other member
          rcases (List.mem_orderedInsert _).mp member with rfl | behind
          · exact Or.inl (not_le.mp high)
          · exact head other behind

theorem pairwise_ranked (items : List Item) :
    (ranked key items).Pairwise (Precedes key) := by
  unfold ranked sortByKey
  generalize 0 = start
  induction items generalizing start with
  | nil => exact List.Pairwise.nil
  | cons item items inductionHypothesis =>
      rw [List.zipIdx_cons, List.insertionSort_cons]
      apply pairwise_orderedInsert key _ (inductionHypothesis (start + 1))
      intro entry member
      rw [List.mem_insertionSort] at member
      have later := List.le_snd_of_mem_zipIdx member
      omega

/-- In a strictly ordered list the first items are those with few before
them. -/
theorem mem_take_iff_countP
    {Entry : Type u}
    {before : Entry → Entry → Prop}
    [DecidableRel before]
    (asymm : ∀ left right, before left right → ¬ before right left)
    {entries : List Entry}
    (ordered : entries.Pairwise before)
    (count : Nat)
    (entry : Entry) :
    entry ∈ entries.take count ↔
      entry ∈ entries ∧
        (entries.countP fun other => before other entry) < count := by
  induction entries generalizing count with
  | nil => simp
  | cons first entries inductionHypothesis =>
      obtain ⟨head, rest⟩ := List.pairwise_cons.mp ordered
      cases count with
      | zero => simp
      | succ count =>
          rw [List.take_succ_cons, List.mem_cons, List.mem_cons,
            inductionHypothesis rest, List.countP_cons]
          by_cases here : entry = first
          · subst here
            have none :
                (entries.countP fun other => before other entry) = 0 := by
              rw [List.countP_eq_zero]
              intro other member
              simpa using asymm entry other (head other member)
            have itself : ¬ before entry entry := fun loop =>
              asymm entry entry loop loop
            simp [none, itself]
          · constructor
            · rintro (rfl | ⟨member, few⟩)
              · exact absurd rfl here
              · refine ⟨Or.inr member, ?_⟩
                split <;> omega
            · rintro ⟨rfl | member, few⟩
              · exact absurd rfl here
              · rw [if_pos (by simpa using head entry member)] at few
                exact Or.inr ⟨member, by omega⟩

/-- In a strictly ordered list a relation holds of every item and those behind
it exactly if it holds of every two of which one comes before the other. -/
theorem pairwise_iff_of_ordered
    {Entry : Type u}
    {before related : Entry → Entry → Prop}
    (asymm : ∀ left right, before left right → ¬ before right left)
    {entries : List Entry}
    (ordered : entries.Pairwise before) :
    entries.Pairwise related ↔
      ∀ left ∈ entries, ∀ right ∈ entries, before left right →
        related left right := by
  constructor
  · intro holds left inLeft right inRight precedes
    have either : entries.Pairwise fun left right =>
        (before left right ∧ related left right) ∨
          (before right left ∧ related right left) :=
      (ordered.and holds).imp Or.inl
    have symmetric : Std.Symm fun left right =>
        (before left right ∧ related left right) ∨
          (before right left ∧ related right left) :=
      ⟨fun _ _ => Or.symm⟩
    have different : left ≠ right := by
      rintro rfl
      exact asymm left left precedes precedes
    rcases either.forall inLeft inRight different with here | there
    · exact here.2
    · exact absurd there.1 (asymm left right precedes)
  · intro holds
    refine ordered.imp_of_mem ?_
    intro left right inLeft inRight precedes
    exact holds left inLeft right inRight precedes

/-! ## Leaving items out -/

theorem filter_orderedInsert_of_neg
    {keep : Item → Bool}
    {first : Item}
    (left : keep first = false)
    (items : List Item) :
    (items.orderedInsert (fun left right => key left ≤ key right)
      first).filter keep = items.filter keep := by
  induction items with
  | nil => simp [left]
  | cons item items inductionHypothesis =>
      rw [List.orderedInsert_cons]
      split
      · rw [List.filter_cons_of_neg (by simp [left])]
      · rw [List.filter_cons, List.filter_cons, inductionHypothesis]

theorem filter_orderedInsert_of_pos
    {keep : Item → Bool}
    {first : Item}
    (kept : keep first = true)
    {items : List Item}
    (sorted : items.Pairwise fun left right => key left ≤ key right) :
    (items.orderedInsert (fun left right => key left ≤ key right)
      first).filter keep =
      (items.filter keep).orderedInsert
        (fun left right => key left ≤ key right) first := by
  induction items with
  | nil => simp [kept]
  | cons item items inductionHypothesis =>
      obtain ⟨head, rest⟩ := List.pairwise_cons.mp sorted
      rw [List.orderedInsert_cons]
      split
      case isTrue fits =>
          have least : ∀ other ∈ (item :: items).filter keep,
              key first ≤ key other := by
            intro other member
            rcases List.mem_cons.mp (List.mem_of_mem_filter member) with
              rfl | behind
            · exact fits
            · exact le_trans fits (head other behind)
          rw [List.filter_cons_of_pos kept]
          cases remaining : (item :: items).filter keep with
          | nil => rfl
          | cons next others =>
              rw [remaining] at least
              rw [List.orderedInsert_cons,
                if_pos (least next List.mem_cons_self)]
      case isFalse high =>
          rw [List.filter_cons, List.filter_cons, inductionHypothesis rest]
          split
          · rw [List.orderedInsert_cons, if_neg high]
          · rfl

/-- Items may be left out before they are sorted or after. -/
theorem sortByKey_filter
    (keep : Item → Bool)
    (items : List Item) :
    sortByKey key (items.filter keep) = (sortByKey key items).filter keep := by
  have total : Std.Total fun left right : Item => key left ≤ key right :=
    ⟨fun left right => le_total (key left) (key right)⟩
  have trans : IsTrans Item fun left right => key left ≤ key right :=
    ⟨fun _ _ _ => le_trans⟩
  unfold sortByKey
  induction items with
  | nil => rfl
  | cons item items inductionHypothesis =>
      rw [List.insertionSort_cons, List.filter_cons]
      split
      case isTrue kept =>
          rw [List.insertionSort_cons, inductionHypothesis,
            filter_orderedInsert_of_pos key kept
              (List.pairwise_insertionSort _ items)]
      case isFalse left =>
          rw [inductionHypothesis, filter_orderedInsert_of_neg key
            (Bool.eq_false_of_not_eq_true left)]

omit [LinearOrder Key] in
/-- Items may be left out before the first ones are taken or after, exactly
if none of the first ones is left out or all of the others are. -/
theorem filter_take_eq_iff
    (keep : Item → Bool)
    (count : Nat)
    (items : List Item) :
    (items.take count).filter keep = (items.filter keep).take count ↔
      (∀ item ∈ items.take count, keep item = true) ∨
        ∀ item ∈ items.drop count, keep item = false := by
  have parts : items.filter keep =
      (items.take count).filter keep ++ (items.drop count).filter keep := by
    rw [← List.filter_append, List.take_append_drop]
  have few : ((items.take count).filter keep).length ≤ count :=
    le_trans (List.length_filter_le _ _) (List.length_take_le _ _)
  rw [parts, List.take_append, List.take_of_length_le few]
  constructor
  · intro same
    by_cases full : ((items.take count).filter keep).length = count
    · left
      rw [← List.filter_eq_self]
      apply List.filter_sublist.eq_of_length_le
      rw [full]
      exact List.length_take_le _ _
    · right
      have none : ((items.drop count).filter keep).take
          (count - ((items.take count).filter keep).length) = [] := by
        simpa using same
      rcases List.take_eq_nil_iff.mp none with zero | empty
      · omega
      · intro item member
        exact Bool.eq_false_of_not_eq_true
          (List.filter_eq_nil_iff.mp empty item member)
  · rintro (all | others)
    · rw [List.filter_eq_self.mpr all]
      by_cases long : count ≤ items.length
      · rw [List.length_take_of_le long, Nat.sub_self, List.take_zero,
          List.append_nil]
      · rw [List.drop_of_length_le (by omega), List.filter_nil,
          List.take_nil, List.append_nil]
    · have none : (items.drop count).filter keep = [] :=
        List.filter_eq_nil_iff.mpr fun item member => by
          simp [others item member]
      rw [none, List.take_nil, List.append_nil]

/-- What is cut off an ordered list comes behind all that is kept, and then as
many are kept as may be. -/
theorem mem_take_or_behind
    {Item : Type u}
    {before : Item → Item → Prop}
    {items : List Item}
    (ordered : items.Pairwise before)
    (count : Nat)
    {item : Item}
    (member : item ∈ items) :
    item ∈ items.take count ∨
      (items.take count).length = count ∧
        ∀ kept ∈ items.take count, before kept item := by
  rw [← List.take_append_drop count items, List.pairwise_append] at ordered
  rw [← List.take_append_drop count items, List.mem_append] at member
  refine member.imp_right fun dropped => ⟨?_, ?_⟩
  · rw [List.length_take, Nat.min_eq_left]
    by_contra short
    rw [List.drop_of_length_le (by omega)] at dropped
    exact List.not_mem_nil dropped
  · exact fun kept among => ordered.2.2 kept among item dropped

/-! ## Finding by a key -/

/-- Of a list whose entries have different keys, the entry with the key of a
member is the member. -/
theorem find?_key_eq_some
    {Item : Type u}
    {Key : Type v}
    [DecidableEq Key]
    (key : Item → Key)
    {items : List Item}
    {item : Item}
    (member : item ∈ items)
    (apart : ∀ other ∈ items, key other = key item → other = item) :
    (items.find? fun other => key other = key item) = some item := by
  have found : (items.find? fun other =>
      decide (key other = key item)).isSome := by
    rw [List.find?_isSome]
    exact ⟨item, member, decide_eq_true rfl⟩
  obtain ⟨other, finds⟩ := Option.isSome_iff_exists.mp found
  have same : decide (key other = key item) = true := by
    simpa using List.find?_some finds
  rw [finds, apart other (List.mem_of_find?_eq_some finds)
    (of_decide_eq_true same)]

end Foundation
end Hearthdeck
