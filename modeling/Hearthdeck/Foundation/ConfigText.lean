import Hearthdeck.Foundation.UnixPaths

/-!
# Configuration text

A setting is a line `key = "value"`.  Text that is rendered from settings reads
back as these settings when no key has a blank, a quote or a newline, and no
value a quote or a newline.
-/

namespace Hearthdeck
namespace Foundation
namespace ConfigText

def quote : UInt8 := 0x22

def newline : UInt8 := 0x0A

def blank : UInt8 := 0x20

def equals : UInt8 := 0x3D

/-- A key and its value. -/
structure Setting where
  key : Bytes
  value : Bytes
  deriving DecidableEq

/-- The line of a setting. -/
def Setting.line (setting : Setting) : Bytes :=
  setting.key ++ blank :: equals :: blank :: quote :: (setting.value ++ [quote])

/-- The text of some settings. -/
def render (settings : List Setting) : Bytes :=
  settings.flatMap fun setting => setting.line ++ [newline]

/-- The setting of a line. -/
def parseLine (line : Bytes) : Option Setting :=
  match pieces quote line with
  | [before, value, []] =>
      match pieces blank before with
      | [key, sign, []] => if sign = [equals] then some ⟨key, value⟩ else none
      | _ => none
  | _ => none

/-- The settings of a text, when every line that is not empty has one. -/
def parse (text : Bytes) : Option (List Setting) :=
  ((pieces newline text).filter (· ≠ [])).mapM parseLine

/-- The value of a key that is set. -/
def valueOf (key : Bytes) (settings : List Setting) : Option Bytes :=
  (settings.find? (·.key == key)).map (·.value)

/-- A setting whose line reads back. -/
structure Setting.Plain (setting : Setting) : Prop where
  key : ∀ byte ∈ setting.key, byte ≠ blank ∧ byte ≠ quote ∧ byte ≠ newline
  value : ∀ byte ∈ setting.value, byte ≠ quote ∧ byte ≠ newline

instance (setting : Setting) : Decidable setting.Plain :=
  @decidable_of_iff _
    ((∀ byte ∈ setting.key, byte ≠ blank ∧ byte ≠ quote ∧ byte ≠ newline) ∧
      ∀ byte ∈ setting.value, byte ≠ quote ∧ byte ≠ newline)
    ⟨fun both => ⟨both.1, both.2⟩, fun plain => ⟨plain.1, plain.2⟩⟩
    (@instDecidableAnd _ _ (List.decidableBAll _ _) (List.decidableBAll _ _))

variable {setting : Setting} {settings : List Setting}

theorem line_ne_nil
    (setting : Setting) :
    setting.line ≠ [] := by
  unfold Setting.line
  simp

/-- A line that is rendered reads back. -/
theorem parseLine_line
    (plain : setting.Plain) :
    parseLine setting.line = some setting := by
  have keyQuote : quote ∉ setting.key ++ [blank, equals, blank] := by
    intro member
    rcases List.mem_append.mp member with inKey | inSign
    · exact (plain.key quote inKey).2.1 rfl
    · exact absurd inSign (by decide)
  have keyBlank : blank ∉ setting.key :=
    fun member => (plain.key blank member).1 rfl
  have valueQuote : quote ∉ setting.value :=
    fun member => (plain.value quote member).1 rfl
  have cut : pieces quote setting.line =
      [setting.key ++ [blank, equals, blank], setting.value, []] := by
    have shape : setting.line =
        (setting.key ++ [blank, equals, blank]) ++
          quote :: (setting.value ++ quote :: []) := by
      simp [Setting.line]
    rw [shape, pieces_cons keyQuote, pieces_cons valueQuote]
    rfl
  have signed : pieces blank (setting.key ++ [blank, equals, blank]) =
      [setting.key, [equals], []] := by
    rw [pieces_cons keyBlank]
    rfl
  unfold parseLine
  rw [cut]
  dsimp only
  rw [signed]
  dsimp only
  rw [if_pos rfl]

theorem newline_notMem_line
    (plain : setting.Plain) :
    newline ∉ setting.line := by
  intro member
  rcases List.mem_append.mp member with inKey | behind
  · exact (plain.key newline inKey).2.2 rfl
  · have inValue : newline ∈ setting.value := by
      simpa [blank, equals, quote, newline] using behind
    exact (plain.value newline inValue).2 rfl

/-- Every line that is rendered is a piece. -/
theorem pieces_render
    (plain : ∀ setting ∈ settings, setting.Plain) :
    pieces newline (render settings) =
      settings.map Setting.line ++ [[]] := by
  induction settings with
  | nil => rfl
  | cons setting later inductionHypothesis =>
      have rest := inductionHypothesis fun other among =>
        plain other (List.mem_cons_of_mem _ among)
      have shape : render (setting :: later) =
          setting.line ++ newline :: render later := by
        simp [render]
      rw [shape, pieces_cons
        (newline_notMem_line (plain setting List.mem_cons_self)), rest]
      rfl

/-- What is rendered reads back. -/
theorem parse_render
    (plain : ∀ setting ∈ settings, setting.Plain) :
    parse (render settings) = some settings := by
  have solid : (settings.map Setting.line ++ [[]]).filter (· ≠ []) =
      settings.map Setting.line := by
    rw [List.filter_append, List.filter_eq_self.mpr]
    · simp
    · intro line member
      obtain ⟨setting, _, rfl⟩ := List.mem_map.mp member
      exact decide_eq_true (line_ne_nil setting)
  have lines : (settings.map Setting.line).mapM parseLine =
      some settings := by
    clear solid
    induction settings with
    | nil => rfl
    | cons setting later inductionHypothesis =>
        rw [List.map_cons, List.mapM_cons,
          parseLine_line (plain setting List.mem_cons_self),
          inductionHypothesis fun other among =>
            plain other (List.mem_cons_of_mem _ among)]
        rfl
  unfold parse
  rw [pieces_render plain, solid, lines]

/-- A setting whose key is set once is the one that its key finds. -/
theorem valueOf_of_mem
    (once : (settings.map (·.key)).Nodup)
    (member : setting ∈ settings) :
    valueOf setting.key settings = some setting.value := by
  unfold valueOf
  induction settings with
  | nil => cases member
  | cons first later inductionHypothesis =>
      obtain ⟨fresh, rest⟩ := List.nodup_cons.mp once
      rcases List.mem_cons.mp member with rfl | among
      · simp
      · have different : (first.key == setting.key) = false := by
          apply beq_eq_false_iff_ne.mpr
          intro same
          exact fresh (List.mem_map.mpr ⟨setting, among, same.symm⟩)
        rw [List.find?_cons, different]
        exact inductionHypothesis rest among

theorem render_append
    (left right : List Setting) :
    render (left ++ right) = render left ++ render right :=
  List.flatMap_append

/-- Lines that are joined with newlines are rendered but for the last one. -/
theorem intercalate_lines
    (solid : settings ≠ []) :
    [newline].intercalate (settings.map Setting.line) ++ [newline] =
      render settings := by
  induction settings with
  | nil => exact absurd rfl solid
  | cons setting later inductionHypothesis =>
      cases later with
      | nil => simp [render, List.intercalate]
      | cons next later =>
          have rest := inductionHypothesis (List.cons_ne_nil next later)
          rw [render, List.flatMap_cons, ← render, ← rest]
          simp [List.intercalate]

end ConfigText
end Foundation
end Hearthdeck
