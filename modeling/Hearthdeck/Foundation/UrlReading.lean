import Hearthdeck.Foundation.UrlPaths

/-!
# Addresses that are put together

When an address is read, and a slash and more is put behind its text, the
longer text is read as an address too, unless its authority is not.  The path
of the longer address goes on where the shorter one ends, as long as there is
no question mark or hash in the text before.
-/

namespace Hearthdeck
namespace Foundation
namespace UrlPath

variable
  {encode : Segment → Segment}
  {keep : Char → Bool}
  {character : Char}

/-! ## Parts of texts -/

theorem dropWhile_append_cons
    (stops : keep character = false)
    (front back : List Char) :
    (front ++ character :: back).dropWhile keep =
      front.dropWhile keep ++ character :: back := by
  induction front with
  | nil =>
      rw [List.nil_append, List.dropWhile_cons_of_neg (by simp [stops])]
      rfl
  | cons head front inductionHypothesis =>
      cases kept : keep head with
      | true => simpa [kept] using inductionHypothesis
      | false => simp [kept]

theorem takeWhile_append_cons
    (stops : keep character = false)
    (front back : List Char) :
    (front ++ character :: back).takeWhile keep = front.takeWhile keep := by
  induction front with
  | nil => simp [stops]
  | cons head front inductionHypothesis =>
      cases kept : keep head with
      | true => simpa [kept] using inductionHypothesis
      | false => simp [kept]

theorem dropWhile_append_of_ne_nil
    {front : List Char}
    (solid : front.dropWhile keep ≠ [])
    (back : List Char) :
    (front ++ back).dropWhile keep = front.dropWhile keep ++ back := by
  rw [List.dropWhile_append, if_neg]
  rw [List.isEmpty_iff]
  exact solid

/-- What is dropped at the front does not matter to a test it fails. -/
theorem any_dropWhile
    {test : Char → Bool}
    (fails : ∀ character, keep character = true → test character = false)
    (text : List Char) :
    (text.dropWhile keep).any test = text.any test := by
  induction text with
  | nil => rfl
  | cons head later inductionHypothesis =>
      cases kept : keep head with
      | true => simp [kept, fails head kept, inductionHypothesis]
      | false => simp [kept]

/-- What is left out does not matter to a test it fails. -/
theorem any_filter_of
    {test : Char → Bool}
    (fails : ∀ character, keep character = false → test character = false)
    (text : List Char) :
    (text.filter keep).any test = text.any test := by
  induction text with
  | nil => rfl
  | cons head later inductionHypothesis =>
      cases kept : keep head with
      | true => simp [kept, inductionHypothesis]
      | false => simp [kept, fails head kept, inductionHypothesis]

/-- Only blanks are stripped. -/
theorem stripBack_append_cons
    (solid : isBlank character = false)
    (front back : List Char) :
    stripBack (front ++ character :: back) =
      front ++ character :: stripBack back := by
  unfold stripBack
  rw [List.reverse_append, List.reverse_cons, List.append_assoc,
    List.singleton_append, dropWhile_append_cons solid]
  simp

theorem visible_append_cons
    (solid : isBlank character = false)
    (shown : isSkipped character = false)
    (front back : List Char) :
    visible (front ++ character :: back) =
      front.filter (fun character => !isSkipped character) ++
        character :: visible back := by
  unfold visible
  rw [stripBack_append_cons solid, List.filter_append,
    List.filter_cons_of_pos (by simp [shown])]

/-- What is seen of a text is what it starts with. -/
theorem visible_prefix
    (text : List Char) :
    visible text <+: text.filter fun character => !isSkipped character := by
  have split := List.takeWhile_append_dropWhile
    (p := isBlank) (l := text.reverse)
  have whole : stripBack text ++
      (text.reverse.takeWhile isBlank).reverse = text := by
    unfold stripBack
    rw [← List.reverse_append, split, List.reverse_reverse]
  refine ⟨(text.reverse.takeWhile isBlank).reverse.filter
    fun character => !isSkipped character, ?_⟩
  unfold visible
  rw [← List.filter_append, whole]

theorem endsPath_of_isBlank
    (blank : isBlank character = true) :
    endsPath character = false := by
  unfold endsPath
  rw [Bool.or_eq_false_iff, beq_eq_false_iff_ne, beq_eq_false_iff_ne]
  constructor
  · rintro rfl
    exact absurd blank (by decide)
  · rintro rfl
    exact absurd blank (by decide)

theorem endsPath_of_isSkipped
    (skipped : isSkipped character = true) :
    endsPath character = false := by
  unfold endsPath
  rw [Bool.or_eq_false_iff, beq_eq_false_iff_ne, beq_eq_false_iff_ne]
  constructor
  · rintro rfl
    exact absurd skipped (by decide)
  · rintro rfl
    exact absurd skipped (by decide)

theorem endsPath_of_isSlash
    (slashed : isSlash character = true) :
    endsPath character = false := by
  unfold endsPath
  rw [Bool.or_eq_false_iff, beq_eq_false_iff_ne, beq_eq_false_iff_ne]
  constructor
  · rintro rfl
    exact absurd slashed (by decide)
  · rintro rfl
    exact absurd slashed (by decide)

theorem endsPath_of_inAuthority
    (inside : inAuthority character = true) :
    endsPath character = false := by
  unfold inAuthority at inside
  simp only [Bool.not_eq_true', Bool.or_eq_false_iff] at inside
  exact inside.2

/-! ## Schemes -/

theorem lowered_prefix_append
    {scheme text : List Char}
    (starts : scheme.isPrefixOf (text.map Char.toLower) = true)
    (later : List Char) :
    scheme.isPrefixOf ((text ++ later).map Char.toLower) = true := by
  rw [List.isPrefixOf_iff_prefix] at starts ⊢
  rw [List.map_append]
  exact starts.trans (List.prefix_append _ _)

theorem length_of_lowered_prefix
    {scheme text : List Char}
    (starts : scheme.isPrefixOf (text.map Char.toLower) = true) :
    scheme.length ≤ text.length := by
  rw [List.isPrefixOf_iff_prefix] at starts
  simpa using starts.length_le

/-- The scheme of a text is that of a longer one. -/
theorem afterScheme_append
    {text rest : List Char}
    {scheme : String}
    (found : afterScheme text = some (scheme, rest))
    (later : List Char) :
    afterScheme (text ++ later) = some (scheme, rest ++ later) := by
  unfold afterScheme at found ⊢
  split at found
  case isTrue starts =>
      cases found
      have long : 5 ≤ text.length := length_of_lowered_prefix starts
      rw [if_pos (lowered_prefix_append starts later),
        List.drop_append_of_le_length long]
  case isFalse =>
      split at found
      case isFalse => cases found
      case isTrue starts =>
          cases found
          have long : 6 ≤ text.length := length_of_lowered_prefix starts
          have longer := lowered_prefix_append starts later
          have other : ¬ "http:".toList.isPrefixOf
              ((text ++ later).map Char.toLower) = true := by
            intro http
            rw [List.isPrefixOf_iff_prefix] at http longer
            have within := List.prefix_of_prefix_length_le http longer
              (by decide)
            exact absurd within (by decide)
          rw [if_neg other, if_pos longer,
            List.drop_append_of_le_length long]

/-- A character of a scheme, in any case, ends no path. -/
theorem any_endsPath_of_lowered_prefix
    {scheme text : List Char}
    (plain : scheme.any endsPath = false)
    (starts : scheme.isPrefixOf (text.map Char.toLower) = true) :
    text.any endsPath = (text.drop scheme.length).any endsPath := by
  rw [List.isPrefixOf_iff_prefix] at starts
  have front : (text.take scheme.length).any endsPath = false := by
    rw [List.any_eq_false]
    intro character member ends
    have lowered : character.toLower ∈ scheme := by
      have taken := List.prefix_iff_eq_take.mp starts
      rw [taken, ← List.map_take]
      exact List.mem_map_of_mem member
    have same : character.toLower = character := by
      unfold endsPath at ends
      rcases Bool.or_eq_true_iff.mp ends with mark | hash
      · rw [eq_of_beq mark]
        decide
      · rw [eq_of_beq hash]
        decide
    rw [same] at lowered
    exact List.any_eq_false.mp plain character lowered ends
  conv_lhs => rw [← List.take_append_drop scheme.length text]
  rw [List.any_append, front, Bool.false_or]

theorem any_endsPath_of_afterScheme
    {text rest : List Char}
    {scheme : String}
    (found : afterScheme text = some (scheme, rest)) :
    text.any endsPath = rest.any endsPath := by
  unfold afterScheme at found
  split at found
  case isTrue starts =>
      cases found
      exact any_endsPath_of_lowered_prefix (by decide) starts
  case isFalse =>
      split at found
      case isFalse => cases found
      case isTrue starts =>
          cases found
          exact any_endsPath_of_lowered_prefix (by decide) starts

/-! ## Longer addresses -/

/-- How an address is read when a slash and more is put behind its text: by
its authority, and what stands between that and the slash. -/
structure Reads
    (hosts : Hosts)
    (encode : Segment → Segment)
    (base : List Char)
    (scheme : String)
    (authority behind : List Char) : Prop where
  /-- What stands behind the authority does not go on with it. -/
  apart : behind = [] ∨
    ∃ head later, behind = head :: later ∧ inAuthority head = false
  /-- It has the question marks and hashes of the text. -/
  marks : behind.any endsPath = base.any endsPath
  /-- The address goes on behind it. -/
  goesOn : ∀ later, parse hosts encode (base ++ '/' :: later) =
    (hosts.read authority).map fun host =>
      { scheme := scheme
        host := host
        path := pathOf encode ((behind ++ '/' :: visible later).takeWhile
          fun character => !endsPath character) }

theorem dropWhile_head
    (text : List Char) :
    text.dropWhile keep = [] ∨
      ∃ head later, text.dropWhile keep = head :: later ∧
        keep head = false := by
  induction text with
  | nil => exact .inl rfl
  | cons head later inductionHypothesis =>
      cases kept : keep head with
      | true => simpa [kept] using inductionHypothesis
      | false => exact .inr ⟨head, later, by simp [kept], kept⟩

/-- An address that is read goes on in this way. -/
theorem exists_reads
    {hosts : Hosts}
    {base : List Char}
    {url : Url}
    (read : parse hosts encode base = some url) :
    ∃ authority behind,
      Reads hosts encode base url.scheme authority behind := by
  unfold parse at read
  obtain ⟨⟨scheme, rest⟩, schemed, made⟩ := Option.bind_eq_some_iff.mp read
  obtain ⟨host, hosted, rfl⟩ := Option.map_eq_some_iff.mp made
  -- What is seen of the text alone is what it starts with in a longer one.
  obtain ⟨junk, split⟩ := visible_prefix (base.dropWhile isBlank)
  have whole := afterScheme_append schemed junk
  change afterScheme (visible (base.dropWhile isBlank) ++ junk) = _ at whole
  rw [split] at whole
  have solid : rest.dropWhile isSlash ≠ [] := by
    intro empty
    rw [empty] at hosted
    have nothing : hosts.read [] = some host := hosted
    rw [hosts.solid] at nothing
    cases nothing
  have joined : (rest ++ junk).dropWhile isSlash ≠ [] := by
    rw [dropWhile_append_of_ne_nil solid]
    exact List.append_ne_nil_of_left_ne_nil solid _
  refine ⟨((rest ++ junk).dropWhile isSlash).takeWhile inAuthority,
    ((rest ++ junk).dropWhile isSlash).dropWhile inAuthority, ?_, ?_, ?_⟩
  · exact dropWhile_head _
  · rw [any_dropWhile (fun _ => endsPath_of_inAuthority),
      any_dropWhile (fun _ => endsPath_of_isSlash),
      ← any_endsPath_of_afterScheme whole,
      any_filter_of (fun _ kept => endsPath_of_isSkipped
        (by simpa using kept)),
      any_dropWhile (fun _ => endsPath_of_isBlank)]
  · intro later
    have starts : cleaned (base ++ '/' :: later) =
        (base.dropWhile isBlank).filter
          (fun character => !isSkipped character) ++
            '/' :: visible later := by
      unfold cleaned
      rw [dropWhile_append_cons (by decide),
        visible_append_cons (by decide) (by decide)]
    unfold parse
    rw [starts, afterScheme_append whole, Option.bind_some]
    dsimp only
    rw [dropWhile_append_of_ne_nil joined,
      takeWhile_append_cons (by decide), dropWhile_append_cons (by decide)]

/-! ## Paths of longer addresses -/

theorem takeWhile_of_any
    {behind : List Char}
    (marked : behind.any endsPath = true)
    (later : List Char) :
    ((behind ++ later).takeWhile fun character => !endsPath character) =
      behind.takeWhile fun character => !endsPath character := by
  rw [List.takeWhile_append, if_neg]
  intro all
  have same := (List.takeWhile_prefix
    fun character => !endsPath character).eq_of_length all
  obtain ⟨character, member, ends⟩ := List.any_eq_true.mp marked
  rw [← same] at member
  have kept := List.all_eq_true.mp List.all_takeWhile character member
  rw [ends] at kept
  cases kept

theorem takeWhile_of_not_any
    {behind : List Char}
    (plain : behind.any endsPath = false)
    (later : List Char) :
    ((behind ++ later).takeWhile fun character => !endsPath character) =
      behind ++ later.takeWhile fun character => !endsPath character :=
  List.takeWhile_append_of_pos fun character member => by
    simp [List.any_eq_false.mp plain character member]

/-- The folders of what stands behind an authority. -/
def foldersOf
    (encode : Segment → Segment)
    (behind : List Char) : List Segment :=
  match behind with
  | [] => []
  | _ :: later => (segments later).foldl (enter encode) []

/-- A path goes on behind its folders. -/
theorem pathOf_append
    {behind : List Char}
    (apart : behind = [] ∨
      ∃ head later, behind = head :: later ∧ inAuthority head = false)
    (plain : behind.any endsPath = false)
    (later : List Char) :
    pathOf encode (behind ++ '/' :: later) =
      resolve encode (foldersOf encode behind) (segments later) := by
  rcases apart with rfl | ⟨head, rest, rfl, delimits⟩
  · rfl
  · rw [List.any_cons, Bool.or_eq_false_iff] at plain
    have slashed : isSlash head = true := by
      unfold inAuthority at delimits
      simpa [plain.1] using delimits
    unfold pathOf foldersOf
    rw [List.cons_append]
    dsimp only
    rw [if_pos slashed, segments_append,
      resolve_append [] (segments rest) (segments_ne_nil later)]

theorem slashFree_foldersOf
    (plain : ∀ segment, '/' ∉ segment → '/' ∉ encode segment)
    (behind : List Char) :
    SlashFree (foldersOf encode behind) := by
  cases behind with
  | nil => exact nofun
  | cons head later =>
      have free : SlashFree [] := nofun
      exact free.foldl fun segment member =>
        plain segment (slash_notMem_of_mem_segments member)

end UrlPath
end Foundation
end Hearthdeck
