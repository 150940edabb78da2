import Mathlib.Data.List.Basic

/-!
# Stems and extensions

A file name is a list of characters or bytes, and its extension is what stands
behind its last dot.  A dot at the front starts no extension.  Everything
before the extension is the stem.
-/

namespace Hearthdeck
namespace Foundation
namespace FileName

universe u

variable {Symbol : Type u} [DecidableEq Symbol]

/-- What stands before and behind the last dot. -/
def splitLast (dot : Symbol) : List Symbol → Option (List Symbol × List Symbol)
  | [] => none
  | head :: later =>
      match splitLast dot later with
      | some (before, after) => some (head :: before, after)
      | none => if head = dot then some ([], later) else none

/-- The stem of a name. -/
def stem (dot : Symbol) (name : List Symbol) : List Symbol :=
  match splitLast dot name with
  | some ([], _) => name
  | some (before, _) => before
  | none => name

/-- The extension of a name. -/
def extension (dot : Symbol) (name : List Symbol) : Option (List Symbol) :=
  match splitLast dot name with
  | some ([], _) => none
  | some (_, after) => some after
  | none => none

/-- The name with another extension. -/
def withExtension
    (dot : Symbol)
    (name other : List Symbol) : List Symbol :=
  stem dot name ++ dot :: other

/-- Only a name without a dot is not split. -/
theorem splitLast_eq_none_iff
    {dot : Symbol}
    {name : List Symbol} :
    splitLast dot name = none ↔ dot ∉ name := by
  induction name with
  | nil => simp [splitLast]
  | cons head later inductionHypothesis =>
      rw [List.mem_cons, not_or, ← inductionHypothesis, splitLast]
      cases splitLast dot later with
      | none =>
          by_cases same : head = dot
          · simp [same]
          · simp [same, Ne.symm same]
      | some parts => simp

/-- What has no dot behind its last is split there. -/
theorem splitLast_append
    {dot : Symbol}
    {after : List Symbol}
    (plain : dot ∉ after)
    (before : List Symbol) :
    splitLast dot (before ++ dot :: after) = some (before, after) := by
  induction before with
  | nil =>
      simp only [List.nil_append, splitLast,
        splitLast_eq_none_iff.mpr plain, if_true]
  | cons head later inductionHypothesis =>
      simp only [List.cons_append, splitLast, inductionHypothesis]

/-- A split name is its parts, and no dot is behind the last. -/
theorem eq_of_splitLast
    {dot : Symbol}
    {name before after : List Symbol}
    (split : splitLast dot name = some (before, after)) :
    name = before ++ dot :: after ∧ dot ∉ after := by
  induction name generalizing before with
  | nil => cases split
  | cons head later inductionHypothesis =>
      simp only [splitLast] at split
      split at split
      case h_1 front back found =>
          cases split
          obtain ⟨same, plain⟩ := inductionHypothesis found
          exact ⟨by rw [same]; rfl, plain⟩
      case h_2 missing =>
          split at split
          case isFalse other => cases split
          case isTrue same =>
              cases split
              exact ⟨by rw [same]; rfl, splitLast_eq_none_iff.mp missing⟩

/-- A name is its stem, or its stem with a dot and its extension. -/
theorem eq_stem_or
    (dot : Symbol)
    (name : List Symbol) :
    name = stem dot name ∨
      ∃ after, stem dot name ≠ [] ∧ name = stem dot name ++ dot :: after := by
  unfold stem
  cases split : splitLast dot name with
  | none => exact Or.inl rfl
  | some parts =>
      obtain ⟨before, after⟩ := parts
      cases before with
      | nil => exact Or.inl rfl
      | cons head before =>
          exact Or.inr ⟨after, List.cons_ne_nil head before,
            (eq_of_splitLast split).1⟩

theorem stem_ne_nil
    {name : List Symbol}
    (solid : name ≠ [])
    (dot : Symbol) :
    stem dot name ≠ [] := by
  rcases eq_stem_or dot name with whole | ⟨_, front, _⟩
  · rw [← whole]
    exact solid
  · exact front

end FileName
end Foundation
end Hearthdeck
