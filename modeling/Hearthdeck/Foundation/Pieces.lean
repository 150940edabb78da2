import Mathlib.Data.List.Basic

/-!
# Pieces between separators

A list is cut at every separator in it.  There is a piece before the first
separator, between any two, and behind the last, so a list always has a piece,
and some may be empty.
-/

namespace Hearthdeck
namespace Foundation

universe u

variable {Symbol : Type u} [DecidableEq Symbol]

/-- The pieces of a list between its separators. -/
def pieces (separator : Symbol) : List Symbol → List (List Symbol)
  | [] => [[]]
  | head :: later =>
      if head = separator then
        [] :: pieces separator later
      else
        match pieces separator later with
        | first :: rest => (head :: first) :: rest
        | [] => [[head]]

variable {separator : Symbol} {text front back : List Symbol}

theorem pieces_ne_nil
    (separator : Symbol)
    (text : List Symbol) :
    pieces separator text ≠ [] := by
  cases text with
  | nil => exact List.cons_ne_nil _ _
  | cons head later =>
      rw [pieces]
      split
      · exact List.cons_ne_nil _ _
      · split <;> exact List.cons_ne_nil _ _

/-- What has no separator is one piece. -/
theorem pieces_of_notMem
    (plain : separator ∉ text) :
    pieces separator text = [text] := by
  induction text with
  | nil => rfl
  | cons head later inductionHypothesis =>
      have different : head ≠ separator := by
        rintro rfl
        exact plain List.mem_cons_self
      rw [pieces, if_neg different,
        inductionHypothesis (List.not_mem_of_not_mem_cons plain)]

/-- A separator ends the pieces before it. -/
theorem pieces_append
    (separator : Symbol)
    (front back : List Symbol) :
    pieces separator (front ++ separator :: back) =
      pieces separator front ++ pieces separator back := by
  induction front with
  | nil =>
      change pieces separator (separator :: back) = [] :: pieces separator back
      rw [pieces, if_pos rfl]
  | cons head later inductionHypothesis =>
      rw [List.cons_append, pieces, pieces, inductionHypothesis]
      split
      · rfl
      · cases found : pieces separator later with
        | nil => exact absurd found (pieces_ne_nil separator later)
        | cons first rest => rfl

/-- A piece without a separator is the first one. -/
theorem pieces_cons
    (plain : separator ∉ front)
    (back : List Symbol) :
    pieces separator (front ++ separator :: back) =
      front :: pieces separator back := by
  rw [pieces_append, pieces_of_notMem plain]
  rfl

/-- The pieces, joined with the separator, are the list. -/
theorem intercalate_pieces
    (separator : Symbol)
    (text : List Symbol) :
    [separator].intercalate (pieces separator text) = text := by
  induction text with
  | nil => rfl
  | cons head later inductionHypothesis =>
      rw [pieces]
      cases found : pieces separator later with
      | nil => exact absurd found (pieces_ne_nil separator later)
      | cons first rest =>
          rw [found] at inductionHypothesis
          split
          case isTrue same =>
              rw [← inductionHypothesis, same]
              simp [List.intercalate]
          case isFalse different =>
              rw [← inductionHypothesis]
              cases rest with
              | nil => simp [List.intercalate]
              | cons second rest => simp [List.intercalate]

/-- Parts that each end in a separator are the pieces, and nothing is left
after the last. -/
theorem pieces_terminated
    {separator : Symbol}
    {parts : List (List Symbol)}
    (plain : ∀ part ∈ parts, separator ∉ part) :
    pieces separator (parts.flatMap fun part => part ++ [separator]) =
      parts ++ [[]] := by
  induction parts with
  | nil => rfl
  | cons part later inductionHypothesis =>
      have rest := inductionHypothesis fun other member =>
        plain other (List.mem_cons_of_mem _ member)
      rw [List.flatMap_cons, List.append_assoc, List.singleton_append,
        pieces_cons (plain part List.mem_cons_self), rest]
      rfl

/-- Only a separator at the front makes an empty first piece. -/
theorem head?_of_pieces
    {others : List (List Symbol)}
    (cut : pieces separator text = [] :: others) :
    text = [] ∨ text.head? = some separator := by
  cases text with
  | nil => exact .inl rfl
  | cons head later =>
      rw [pieces] at cut
      split at cut
      case isTrue same => exact .inr (congrArg some same)
      case isFalse different => split at cut <;> cases cut

/-- No piece has a separator. -/
theorem notMem_of_mem_pieces
    {piece : List Symbol}
    (member : piece ∈ pieces separator text) :
    separator ∉ piece := by
  induction text generalizing piece with
  | nil =>
      rw [List.mem_singleton.mp member]
      exact List.not_mem_nil
  | cons head later inductionHypothesis =>
      rw [pieces] at member
      split at member
      case isTrue same =>
          rcases List.mem_cons.mp member with rfl | among
          · exact List.not_mem_nil
          · exact inductionHypothesis among
      case isFalse different =>
          cases found : pieces separator later with
          | nil => exact absurd found (pieces_ne_nil separator later)
          | cons first rest =>
              rw [found] at member inductionHypothesis
              rcases List.mem_cons.mp member with rfl | among
              · intro inside
                rcases List.mem_cons.mp inside with same | deeper
                · exact different same.symm
                · exact inductionHypothesis List.mem_cons_self deeper
              · exact inductionHypothesis (List.mem_cons_of_mem _ among)

/-- A piece stands in the list as a whole. -/
theorem infix_of_mem_pieces
    {piece : List Symbol}
    (member : piece ∈ pieces separator text) :
    piece <:+: text := by
  have first : ∀ text : List Symbol, ∀ front others,
      pieces separator text = front :: others → front <+: text := by
    intro text
    induction text with
    | nil =>
        rintro front others cut
        cases cut
        exact List.prefix_refl _
    | cons head later inductionHypothesis =>
        intro front others cut
        rw [pieces] at cut
        split at cut
        case isTrue same =>
            cases cut
            exact List.nil_prefix
        case isFalse different =>
            split at cut
            case h_1 before rest found =>
                cases cut
                exact List.cons_prefix_cons.mpr
                  ⟨rfl, inductionHypothesis _ _ found⟩
            case h_2 found => exact absurd found (pieces_ne_nil _ _)
  induction text with
  | nil =>
      have isEmpty : piece = [] := List.mem_singleton.mp member
      exact isEmpty ▸ List.nil_infix
  | cons head later inductionHypothesis =>
      cases cut : pieces separator (head :: later) with
      | nil => exact absurd cut (pieces_ne_nil _ _)
      | cons front others =>
          have starts := first _ _ _ cut
          rw [cut] at member
          rcases List.mem_cons.mp member with rfl | among
          · exact starts.isInfix
          · rw [pieces] at cut
            have deeper : piece ∈ pieces separator later := by
              split at cut
              case isTrue same =>
                  cases cut
                  exact among
              case isFalse different =>
                  split at cut
                  case h_1 before rest found =>
                      cases cut
                      rw [found]
                      exact List.mem_cons_of_mem _ among
                  case h_2 found => exact absurd found (pieces_ne_nil _ _)
            exact (inductionHypothesis deeper).trans
              (List.suffix_cons head later).isInfix

/-- Pieces without a separator are the pieces of what they are joined to. -/
theorem pieces_intercalate
    {parts : List (List Symbol)}
    (solid : parts ≠ [])
    (plain : ∀ part ∈ parts, separator ∉ part) :
    pieces separator ([separator].intercalate parts) = parts := by
  induction parts with
  | nil => exact absurd rfl solid
  | cons first rest inductionHypothesis =>
      obtain ⟨plainFirst, plainRest⟩ := List.forall_mem_cons.mp plain
      cases rest with
      | nil =>
          rw [List.intercalate_singleton]
          exact pieces_of_notMem plainFirst
      | cons second rest =>
          rw [List.intercalate_cons_cons, List.append_assoc,
            List.singleton_append, pieces_cons plainFirst,
            inductionHypothesis (List.cons_ne_nil _ _) plainRest]

/-! ## Changing pieces -/

/-- A list with every piece changed. -/
def changePieces
    (separator : Symbol)
    (change : List Symbol → List Symbol)
    (text : List Symbol) : List Symbol :=
  [separator].intercalate ((pieces separator text).map change)

variable {change : List Symbol → List Symbol}

/-- The pieces of the result are the changed pieces. -/
theorem pieces_changePieces
    (plain : ∀ piece, separator ∉ piece → separator ∉ change piece)
    (text : List Symbol) :
    pieces separator (changePieces separator change text) =
      (pieces separator text).map change := by
  apply pieces_intercalate
  · simp [pieces_ne_nil]
  · intro part member
    obtain ⟨piece, among, rfl⟩ := List.mem_map.mp member
    exact plain piece (notMem_of_mem_pieces among)

/-- A change of no piece is none. -/
theorem changePieces_eq_self
    (keeps : ∀ piece ∈ pieces separator text, change piece = piece) :
    changePieces separator change text = text := by
  rw [changePieces, List.map_congr_left keeps, List.map_id',
    intercalate_pieces]

/-- A change that changes nothing a second time does so piece by piece. -/
theorem changePieces_idempotent
    (plain : ∀ piece, separator ∉ piece → separator ∉ change piece)
    (again : ∀ piece, change (change piece) = change piece)
    (text : List Symbol) :
    changePieces separator change (changePieces separator change text) =
      changePieces separator change text := by
  apply changePieces_eq_self
  intro part member
  rw [pieces_changePieces plain] at member
  obtain ⟨piece, _, rfl⟩ := List.mem_map.mp member
  exact again piece

end Foundation
end Hearthdeck
