import Mathlib.Data.List.Basic

/-!
# Names that repeat

Items of a list are named in order.  The first item of a name keeps it, and a
later one is given another name, its label.  What is compared are the names
the items come with, so a label may be the name of an item, or a label given
before.
-/

namespace Hearthdeck
namespace Foundation

universe u v

variable {Item : Type u} {Name : Type v} [DecidableEq Name]

/-- The names that items are given, when some names were seen before. -/
def settle
    (name label : Item → Name)
    (seen : List Name) : List Item → List Name
  | [] => []
  | item :: later =>
      if name item ∈ seen then
        label item :: settle name label seen later
      else
        name item :: settle name label (name item :: seen) later

/-- The items whose name was seen before them. -/
def repeats
    (name : Item → Name)
    (seen : List Name) : List Item → List Item
  | [] => []
  | item :: later =>
      if name item ∈ seen then
        item :: repeats name seen later
      else
        repeats name (name item :: seen) later

variable {name label : Item → Name} {seen : List Name} {items : List Item}

theorem mem_of_mem_repeats
    {item : Item}
    (repeated : item ∈ repeats name seen items) :
    item ∈ items := by
  induction items generalizing seen with
  | nil => simp [repeats] at repeated
  | cons head later inductionHypothesis =>
      rw [repeats] at repeated
      split at repeated
      case isTrue known =>
          rcases List.mem_cons.mp repeated with rfl | further
          · exact List.mem_cons_self
          · exact List.mem_cons_of_mem _ (inductionHypothesis further)
      case isFalse new =>
          exact List.mem_cons_of_mem _ (inductionHypothesis repeated)

/-- A repeat comes after an item of its name, or its name was seen before. -/
theorem mem_repeats_iff
    {item : Item} :
    item ∈ repeats name seen items ↔
      ∃ before after, items = before ++ item :: after ∧
        (name item ∈ seen ∨ name item ∈ before.map name) := by
  induction items generalizing seen with
  | nil => simp [repeats]
  | cons head later inductionHypothesis =>
      constructor
      · intro repeated
        rw [repeats] at repeated
        split at repeated
        case isTrue known =>
            rcases List.mem_cons.mp repeated with rfl | further
            · exact ⟨[], later, rfl, .inl known⟩
            · obtain ⟨before, after, rfl, met⟩ :=
                inductionHypothesis.mp further
              refine ⟨head :: before, after, rfl, met.imp_right fun inside =>
                List.mem_cons_of_mem _ inside⟩
        case isFalse new =>
            obtain ⟨before, after, rfl, met⟩ :=
              inductionHypothesis.mp repeated
            refine ⟨head :: before, after, rfl, ?_⟩
            rcases met with inSeen | inside
            · rcases List.mem_cons.mp inSeen with same | known
              · rw [List.map_cons, same]
                exact .inr List.mem_cons_self
              · exact .inl known
            · exact .inr (List.mem_cons_of_mem _ inside)
      · rintro ⟨before, after, cut, met⟩
        cases before with
        | nil =>
            cases cut
            have known : name item ∈ seen := by simpa using met
            rw [repeats, if_pos known]
            exact List.mem_cons_self
        | cons first before =>
            cases cut
            rw [repeats]
            split
            case isTrue known =>
                refine List.mem_cons_of_mem _ (inductionHypothesis.mpr
                  ⟨before, after, rfl, ?_⟩)
                rcases met with inSeen | inside
                · exact .inl inSeen
                · rw [List.map_cons, List.mem_cons] at inside
                  rcases inside with same | further
                  · rw [same]
                    exact .inl known
                  · exact .inr further
            case isFalse new =>
                refine inductionHypothesis.mpr ⟨before, after, rfl, ?_⟩
                rw [List.mem_cons]
                rcases met with inSeen | inside
                · exact .inl (.inr inSeen)
                · rw [List.map_cons, List.mem_cons] at inside
                  exact inside.imp_left .inl

/-- A name is given as a label, or to the first item that comes with it. -/
theorem mem_settle_iff
    {given : Name} :
    given ∈ settle name label seen items ↔
      (∃ item ∈ repeats name seen items, label item = given) ∨
        given ∉ seen ∧ given ∈ items.map name := by
  induction items generalizing seen with
  | nil => simp [settle, repeats]
  | cons head later inductionHypothesis =>
      rw [settle, repeats]
      split
      case isTrue known =>
          have other : given ∉ seen → given ≠ name head := by
            rintro new rfl
            exact new known
          simp only [List.mem_cons, inductionHypothesis, List.map_cons,
            exists_eq_or_imp, eq_comm (a := given) (b := label head)]
          grind
      case isFalse new =>
          simp only [List.mem_cons, inductionHypothesis, List.map_cons]
          grind

/-- The given names are distinct, and new, exactly when no label is known or a
name that an item comes with. -/
theorem nodup_settle_iff_of_seen
    (apart : items.Pairwise fun left right => label left ≠ label right) :
    ((settle name label seen items).Nodup ∧
        ∀ given ∈ settle name label seen items, given ∉ seen) ↔
      ∀ item ∈ repeats name seen items,
        label item ∉ seen ∧ label item ∉ items.map name := by
  induction items generalizing seen with
  | nil => simp [settle, repeats]
  | cons head later inductionHypothesis =>
      obtain ⟨first, rest⟩ := List.pairwise_cons.mp apart
      rw [settle, repeats]
      split
      case isTrue known =>
          have others : ∀ item,
              label item ∉ seen → label item ≠ name head := by
            intro item new same
            exact new (same ▸ known)
          have lone : ∀ item ∈ repeats name seen later,
              label item ≠ label head := fun item repeated =>
            (first item (mem_of_mem_repeats repeated)).symm
          have unlabelled : label head ∉ seen →
              (label head ∉ settle name label seen later ↔
                label head ∉ later.map name) := by
            intro new
            rw [mem_settle_iff, not_or, and_iff_right, not_and]
            · exact forall_prop_of_true new
            · rintro ⟨item, repeated, same⟩
              exact lone item repeated same
          have deeper := @inductionHypothesis seen rest
          rw [List.nodup_cons, List.forall_mem_cons, List.forall_mem_cons,
            List.map_cons, List.mem_cons, not_or]
          constructor
          · rintro ⟨⟨unlike, nodup⟩, new, unseen⟩
            refine ⟨⟨new, others head new, (unlabelled new).mp unlike⟩,
              ?_⟩
            intro item repeated
            have labelled := deeper.mp ⟨nodup, unseen⟩ item repeated
            rw [List.mem_cons, not_or]
            exact ⟨labelled.1, others item labelled.1, labelled.2⟩
          · rintro ⟨⟨new, _, unnamed⟩, labelled⟩
            have both := deeper.mpr fun item repeated =>
              ⟨(labelled item repeated).1, fun inside =>
                (labelled item repeated).2 (List.mem_cons_of_mem _ inside)⟩
            exact ⟨⟨(unlabelled new).mpr unnamed, both.1⟩, new, both.2⟩
      case isFalse new =>
          have deeper := @inductionHypothesis (name head :: seen) rest
          rw [List.nodup_cons, List.forall_mem_cons, List.map_cons]
          constructor
          · rintro ⟨⟨unlike, nodup⟩, _, unseen⟩ item repeated
            have labelled := deeper.mp ⟨nodup, fun given inside => by
              rw [List.mem_cons, not_or]
              refine ⟨?_, unseen given inside⟩
              rintro rfl
              exact unlike inside⟩ item repeated
            rw [List.mem_cons, not_or] at labelled ⊢
            exact ⟨labelled.1.2, labelled.1.1, labelled.2⟩
          · intro labelled
            have both := deeper.mpr fun item repeated => by
              have parts := labelled item repeated
              rw [List.mem_cons, not_or] at parts ⊢
              exact ⟨⟨parts.2.1, parts.1⟩, parts.2.2⟩
            refine ⟨⟨fun inside => both.2 _ inside List.mem_cons_self,
              both.1⟩, new, fun given inside known => ?_⟩
            exact both.2 given inside (List.mem_cons_of_mem _ known)

/-- The given names are distinct exactly when no label is a name that an item
comes with. -/
theorem nodup_settle_iff
    (apart : items.Pairwise fun left right => label left ≠ label right) :
    (settle name label [] items).Nodup ↔
      ∀ item ∈ repeats name [] items, label item ∉ items.map name := by
  have all : (settle name label [] items).Nodup ∧
      (∀ given ∈ settle name label [] items, given ∉ []) ↔
        ∀ item ∈ repeats name [] items,
          label item ∉ [] ∧ label item ∉ items.map name :=
    nodup_settle_iff_of_seen apart
  simpa using all

/-- An item whose name was seen is given its label. -/
theorem eq_label_of_mem_zip
    {item : Item}
    {given : Name}
    (paired : (item, given) ∈ items.zip (settle name label seen items))
    (known : name item ∈ seen) :
    given = label item := by
  induction items generalizing seen with
  | nil => simp [settle] at paired
  | cons head later inductionHypothesis =>
      rw [settle] at paired
      split at paired
      case isTrue headKnown =>
          rw [List.zip_cons_cons, List.mem_cons] at paired
          rcases paired with same | further
          · cases same
            rfl
          · exact inductionHypothesis further known
      case isFalse headNew =>
          rw [List.zip_cons_cons, List.mem_cons] at paired
          rcases paired with same | further
          · cases same
            exact absurd known headNew
          · exact inductionHypothesis further (List.mem_cons_of_mem _ known)

/-- Two items of one name are given different names. -/
theorem pairwise_zip_settle
    (apart : items.Pairwise fun left right => label left ≠ label right)
    (changes : ∀ item, label item ≠ name item) :
    (items.zip (settle name label seen items)).Pairwise fun left right =>
      name left.1 = name right.1 → left.2 ≠ right.2 := by
  induction items generalizing seen with
  | nil => simp [settle]
  | cons head later inductionHypothesis =>
      obtain ⟨first, rest⟩ := List.pairwise_cons.mp apart
      rw [settle]
      split
      case isTrue known =>
          refine List.pairwise_cons.mpr ⟨?_, inductionHypothesis rest⟩
          rintro ⟨item, given⟩ paired same
          rw [eq_label_of_mem_zip paired (same ▸ known)]
          exact first item (List.of_mem_zip paired).1
      case isFalse new =>
          refine List.pairwise_cons.mpr ⟨?_, inductionHypothesis rest⟩
          rintro ⟨item, given⟩ paired same
          have known : name item ∈ name head :: seen := by
            rw [← same]
            exact List.mem_cons_self
          rw [eq_label_of_mem_zip paired known, same]
          exact (changes item).symm

end Foundation
end Hearthdeck
