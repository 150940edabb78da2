import Hearthdeck.Daemon.RetroLaunch
import Hearthdeck.Daemon.RommLink
import Hearthdeck.Foundation.UrlReading

/-!
# Artwork of RomM

A client asks for artwork by a path.  Artwork of a ROM is read from the
resources of RomM on disk, and that of a platform is asked of RomM, at an
address that the path is put behind.  The path is looked at as text: it has to
start with one of two roots, and must not have two dots, two slashes or a hash
in it.  The address is read afterwards, and there a dot may be spelled with a
percent sign, a tab or newline does not count, and a backslash is a slash.

What the settings, the disk and RomM answer, and how authorities are read, are
arguments.
-/

namespace Hearthdeck
namespace Daemon

open Foundation TextPath

/-! ## The paths of artwork -/

/-- `ROMM_RESOURCES_URL_PREFIX`. -/
def rommResourcesUrlRoot : String := "/assets/romm/resources/"

/-- `ROMM_PLATFORM_ART_URL_PREFIX`. -/
def rommPlatformArtUrlRoot : String := "/assets/platforms/"

/-- `normalized_romm_asset_path`. -/
def normalizedRommAssetPath (value : String) : Except String String :=
  let trimmed := Frontend.trimmed value
  let path := if isAbsolute trimmed then trimmed else "/" ++ trimmed
  let allowed := (Frontend.stripped rommResourcesUrlRoot path).isSome ||
    (Frontend.stripped rommPlatformArtUrlRoot path).isSome
  if !allowed || contains path ".." || contains path "#" ||
      contains path "//" then
    .error "invalid RomM artwork path"
  else
    .ok path

/-- What stands before a question mark. -/
def beforeQuery (text : List Char) : List Char :=
  text.takeWhile fun character => character != '?'

/-- `resources_relative_path`. -/
def resourcesRelativePath (path : String) : Option String :=
  (Frontend.stripped rommResourcesUrlRoot path).map fun relative =>
    String.ofList (beforeQuery relative.toList)

/-- `artwork_content_type`. -/
def artworkContentType (file : String) : Option String :=
  ((fileName file).bind pathExtension).bind fun extension =>
    match String.ofList (extension.toList.map Char.toLower) with
    | "png" => some "image/png"
    | "jpg" => some "image/jpeg"
    | "jpeg" => some "image/jpeg"
    | "webp" => some "image/webp"
    | "gif" => some "image/gif"
    | "svg" => some "image/svg+xml"
    | "ico" => some "image/x-icon"
    | "bmp" => some "image/bmp"
    | "avif" => some "image/avif"
    | _ => none

/-! ## Requests -/

/-- `RommAsset`. -/
structure RommAsset where
  contentType : String
  bytes : List UInt8

/-- What RomM answers a request for artwork. -/
structure ArtworkResponse where
  /-- The status, and how it is shown. -/
  status : Nat
  shown : String
  /-- The content type, if it is text. -/
  contentType : Option String
  body : Except String (List UInt8)

/-- What a request for artwork is answered from elsewhere. -/
structure ArtworkAnswers where
  /-- The address of RomM, if one is configured. -/
  baseUrl : Except String (Option String)
  readFile : String → Except String (List UInt8)
  get : UrlPath.Url → Except String ArtworkResponse
  /-- The error of an address that is not read. -/
  unread : String

/-- What artwork is taken from. -/
inductive ArtworkAccess
  | file (path : String)
  | request (url : UrlPath.Url)

/-- What a request for artwork does and comes to. -/
structure Artwork where
  access : Option ArtworkAccess
  result : Except RommQueryError RommAsset

/-- `read_resources_asset`. -/
def readResourcesAsset
    (resourcesRoot : String)
    (answers : ArtworkAnswers)
    (relative : String) : Artwork :=
  let file := join resourcesRoot relative
  match artworkContentType file with
  | none =>
      { access := none
        result := .error
          (.failed ("RomM artwork " ++ file ++ " is not an image")) }
  | some contentType =>
      { access := some (.file file)
        result :=
          match answers.readFile file with
          | .error error => .error (.failed
              ("could not read RomM artwork " ++ file ++ ": " ++ error))
          | .ok bytes =>
              .ok { contentType := contentType, bytes := bytes } }

/-- `asset`, from the response of RomM on. -/
def artworkOf (response : Except String ArtworkResponse) :
    Except RommQueryError RommAsset :=
  match response with
  | .error error => .error (.failed error)
  | .ok response =>
      let contentType := response.contentType.getD ""
      if response.status < 200 ∨ 300 ≤ response.status then
        .error (.failed
          ("RomM artwork request returned " ++ response.shown))
      else if (Frontend.stripped "image/" contentType).isNone then
        .error (.failed "RomM artwork response was not an image")
      else
        match response.body with
        | .error error => .error (.failed error)
        | .ok bytes => .ok { contentType := contentType, bytes := bytes }

/-- How the program reads addresses. -/
def parseUrl (hosts : UrlPath.Hosts) (text : String) : Option UrlPath.Url :=
  UrlPath.parse hosts UrlPath.percentEncoded text.toList

/-- `asset`. -/
def asset
    (hosts : UrlPath.Hosts)
    (resourcesRoot : String)
    (answers : ArtworkAnswers)
    (value : String) : Artwork :=
  match normalizedRommAssetPath value with
  | .error error => { access := none, result := .error (.failed error) }
  | .ok path =>
      match resourcesRelativePath path with
      | some relative => readResourcesAsset resourcesRoot answers relative
      | none =>
          match answers.baseUrl with
          | .error error =>
              { access := none, result := .error (.failed error) }
          | .ok none => { access := none, result := .error .notConfigured }
          | .ok (some baseUrl) =>
              match parseUrl hosts (baseUrl ++ path) with
              | none =>
                  { access := none
                    result := .error (.failed answers.unread) }
              | some url =>
                  { access := some (.request url)
                    result := artworkOf (answers.get url) }

/-! ## What is asked of it -/

/-- A path is that of a root, followed by names. -/
def Below (root path : String) : Prop :=
  isAbsolute path = isAbsolute root ∧
    ∃ names, names ≠ [] ∧ dots ∉ names ∧ parts path = parts root ++ names

/-- What artwork is taken from is below one of its two roots. -/
def Inside
    (hosts : UrlPath.Hosts)
    (resourcesRoot : String)
    (answers : ArtworkAnswers) : ArtworkAccess → Prop
  | .file path => Below resourcesRoot path
  | .request url =>
      ∃ baseUrl root, answers.baseUrl = .ok (some baseUrl) ∧
        parseUrl hosts (baseUrl ++ "/") = some root ∧
        UrlPath.render root.path ++ "assets/platforms/".toList <+:
          UrlPath.render url.path

/-- What an address has behind the root of the art of platforms. -/
def behindArtRoot (path : String) : List Char :=
  (UrlPath.visible
    (path.toList.drop rommPlatformArtUrlRoot.toList.length)).takeWhile
      fun character => !UrlPath.endsPath character

/-- The folders of the art of platforms, below those of an address. -/
def artFolders (root : UrlPath.Url) : List UrlPath.Segment :=
  root.path.dropLast ++ ["assets".toList, "platforms".toList]

/-- The address of RomM has no question mark and no hash, and the path leads
back to the folders that it climbs out of, if it does. -/
def Stays
    (hosts : UrlPath.Hosts)
    (baseUrl path : String) : Prop :=
  ∀ root, parseUrl hosts (baseUrl ++ "/") = some root →
    baseUrl.toList.any UrlPath.endsPath = false ∧
      (UrlPath.climbOf UrlPath.percentEncoded
        (UrlPath.segments (behindArtRoot path))).LeadsBack (artFolders root)

/-- A request for artwork stays below the two roots. -/
def Confined
    (hosts : UrlPath.Hosts)
    (resourcesRoot : String)
    (answers : ArtworkAnswers)
    (path : String) : Prop :=
  match resourcesRelativePath path with
  | some relative =>
      parts relative ≠ [] ∨
        artworkContentType (join resourcesRoot relative) = none
  | none =>
      ∀ baseUrl, answers.baseUrl = .ok (some baseUrl) →
        Stays hosts baseUrl path

/-- How addresses are read when they are saved. -/
def webService
    (hosts : UrlPath.Hosts)
    (service : RommService) : RommService :=
  { service with
    parse := fun text => (parseUrl hosts text).map fun url =>
      { scheme := url.scheme, host := some url.host } }

/-! ## Files -/

theorem eq_append_of_stripped
    {head text rest : String}
    (found : Frontend.stripped head text = some rest) :
    text.toList = head.toList ++ rest.toList := by
  unfold Frontend.stripped at found
  split at found
  case isFalse => cases found
  case isTrue starts =>
      cases found
      rw [List.isPrefixOf_iff_prefix] at starts
      rw [String.toList_ofList]
      exact (List.prefix_iff_eq_append.mp starts).symm

/-- What an accepted path is like. -/
structure Accepted (path : String) : Prop where
  allowed : (Frontend.stripped rommResourcesUrlRoot path).isSome = true ∨
    (Frontend.stripped rommPlatformArtUrlRoot path).isSome = true
  noDots : ¬ "..".toList <:+: path.toList
  noSlashes : ¬ "//".toList <:+: path.toList

theorem accepted_of_normalized
    {value path : String}
    (normalized : normalizedRommAssetPath value = .ok path) :
    Accepted path := by
  unfold normalizedRommAssetPath at normalized
  dsimp only at normalized
  generalize (if isAbsolute (Frontend.trimmed value) = true then
    Frontend.trimmed value else "/" ++ Frontend.trimmed value) =
      slashed at normalized
  split at normalized
  case isTrue => cases normalized
  case isFalse allowed =>
      obtain rfl := Except.ok.inj normalized
      simp only [Bool.or_eq_true, Bool.not_eq_true', not_or,
        Bool.not_eq_true, Bool.not_eq_false] at allowed
      obtain ⟨⟨⟨starts, noDots⟩, _⟩, noSlashes⟩ := allowed
      exact ⟨starts, of_decide_eq_false noDots, of_decide_eq_false noSlashes⟩

/-- What is read of the resources is relative, and does not climb. -/
theorem relative_of_accepted
    {path relative : String}
    (accepted : Accepted path)
    (found : resourcesRelativePath path = some relative) :
    isAbsolute relative = false ∧ dots ∉ parts relative := by
  obtain ⟨rest, stripped, rfl⟩ := Option.map_eq_some_iff.mp found
  have split := eq_append_of_stripped stripped
  have starts : beforeQuery rest.toList <+: rest.toList :=
    List.takeWhile_prefix _
  constructor
  · apply beq_eq_false_iff_ne.mpr
    intro absolute
    rw [String.toList_ofList] at absolute
    obtain ⟨later, slashed⟩ := List.head?_eq_some_iff.mp absolute
    apply accepted.noSlashes
    obtain ⟨behind, whole⟩ := starts
    refine ⟨"/assets/romm/resources".toList, later ++ behind, ?_⟩
    rw [split, ← whole, slashed]
    rfl
  · intro member
    have piece := (List.mem_filter.mp member).1
    rw [String.toList_ofList] at piece
    apply accepted.noDots
    refine ((infix_of_mem_pieces piece).trans starts.isInfix).trans ?_
    rw [split]
    exact (List.suffix_append _ _).isInfix

/-- A path that is joined to a root is below it when it has a part. -/
theorem below_join_iff
    {relative : String}
    (isRelative : isAbsolute relative = false)
    (plain : dots ∉ parts relative)
    (root : String) :
    Below root (join root relative) ↔ parts relative ≠ [] := by
  unfold Below
  rw [isAbsolute_join isRelative, parts_join isRelative]
  constructor
  · rintro ⟨_, names, solid, _, same⟩
    rw [List.append_cancel_left same]
    exact solid
  · intro solid
    exact ⟨rfl, _, solid, plain, rfl⟩

/-! ## Addresses -/

theorem parse_of_normalizeRommUrl
    {hosts : UrlPath.Hosts}
    {service : RommService}
    {text baseUrl : String}
    (saved :
      normalizeRommUrl (webService hosts service) text = .ok baseUrl) :
    ∃ url, parseUrl hosts baseUrl = some url := by
  unfold normalizeRommUrl at saved
  dsimp only at saved
  generalize String.ofList
    ((Frontend.trimmed text).toList.reverse.dropWhile (· == '/')).reverse =
      address at saved
  split at saved
  case isTrue => cases saved
  case isFalse =>
      split at saved
      case h_1 => cases saved
      case h_2 url parsed =>
          have mapped : ((parseUrl hosts address).map fun url =>
              ({ scheme := url.scheme, host := some url.host } : Url)) =
              some url := parsed
          obtain ⟨found, isFound, _⟩ := Option.map_eq_some_iff.mp mapped
          split at saved
          case h_1 => cases saved
          case h_2 host hosted =>
              split at saved
              case isTrue => cases saved
              case isFalse =>
                  split at saved
                  case isTrue => cases saved
                  case isFalse =>
                      cases saved
                      exact ⟨found, isFound⟩

/-- A segment that an address has as it is. -/
def isPlainSegment (segment : UrlPath.Segment) : Bool :=
  !UrlPath.isDoubleDot segment && !UrlPath.isSingleDot segment &&
    UrlPath.percentEncoded segment == segment

theorem enter_of_plain
    {segment : UrlPath.Segment}
    (plain : isPlainSegment segment = true)
    (kept : List UrlPath.Segment) :
    UrlPath.enter UrlPath.percentEncoded kept segment =
      kept ++ [segment] := by
  unfold isPlainSegment at plain
  simp only [Bool.and_eq_true, Bool.not_eq_true', beq_iff_eq] at plain
  unfold UrlPath.enter
  simp [plain]

/-- The address of a path below the art of platforms goes on from the folders
of that art. -/
theorem resolve_art
    (folders : List UrlPath.Segment)
    (rest : List Char) :
    UrlPath.resolve UrlPath.percentEncoded folders
        (UrlPath.segments ("assets/platforms/".toList ++ rest)) =
      UrlPath.resolve UrlPath.percentEncoded
        (folders ++ ["assets".toList, "platforms".toList])
        (UrlPath.segments rest) := by
  have text : "assets/platforms/".toList ++ rest =
      "assets".toList ++ '/' :: ("platforms".toList ++ '/' :: rest) := by
    simp
  have first : UrlPath.segments "assets".toList = ["assets".toList] := by
    decide +kernel
  have second :
      UrlPath.segments "platforms".toList = ["platforms".toList] := by
    decide +kernel
  have entered := enter_of_plain (by decide +kernel :
    isPlainSegment "assets".toList = true)
  have enteredNext := enter_of_plain (by decide +kernel :
    isPlainSegment "platforms".toList = true)
  rw [text, UrlPath.segments_append, UrlPath.segments_append, first, second,
    ← List.append_assoc,
    UrlPath.resolve_append _ _ (UrlPath.segments_ne_nil rest)]
  simp only [List.singleton_append, List.foldl_cons, List.foldl_nil, entered,
    enteredNext, List.append_assoc]

theorem visible_art
    (rest : List Char) :
    UrlPath.visible ("assets/platforms/".toList ++ rest) =
      "assets/platforms/".toList ++ UrlPath.visible rest := by
  have text (later : List Char) : "assets/platforms/".toList ++ later =
      "assets/platforms".toList ++ '/' :: later := by
    simp
  have whole : "assets/platforms".toList.filter
      (fun character => !UrlPath.isSkipped character) =
        "assets/platforms".toList := by
    decide +kernel
  rw [text, UrlPath.visible_append_cons (by decide) (by decide), whole, text]

theorem takeWhile_art
    (rest : List Char) :
    (("assets/platforms/".toList ++ rest).takeWhile
        fun character => !UrlPath.endsPath character) =
      "assets/platforms/".toList ++
        rest.takeWhile fun character => !UrlPath.endsPath character :=
  UrlPath.takeWhile_of_not_any (by decide +kernel) rest

/-- A path that ends with nothing behind a slash. -/
theorem resolve_nothing
    (folders : List UrlPath.Segment) :
    UrlPath.resolve UrlPath.percentEncoded folders (UrlPath.segments []) =
      folders ++ [[]] :=
  rfl

theorem render_slash
    (folders : List UrlPath.Segment) :
    UrlPath.render (folders ++ [[]]) ++ "assets/platforms/".toList =
      UrlPath.render
        (folders ++ ["assets".toList, "platforms".toList]) ++ ['/'] := by
  simp [UrlPath.render]

theorem slash_notMem_art :
    ∀ segment ∈ ["assets".toList, "platforms".toList], '/' ∉ segment := by
  decide +kernel

/-- Of an address that a path below the art of platforms is put behind: when
it is read, its path is below that of the art exactly when the address has no
mark, and the path leads back to the folders it climbs out of. -/
theorem request_inside_iff
    {hosts : UrlPath.Hosts}
    {baseUrl : String}
    {base : UrlPath.Url}
    (read : parseUrl hosts baseUrl = some base)
    {path : String}
    {rest : List Char}
    (art : path.toList = rommPlatformArtUrlRoot.toList ++ rest) :
    (∀ url, parseUrl hosts (baseUrl ++ path) = some url →
      ∃ root, parseUrl hosts (baseUrl ++ "/") = some root ∧
        UrlPath.render root.path ++ "assets/platforms/".toList <+:
          UrlPath.render url.path) ↔
      Stays hosts baseUrl path := by
  obtain ⟨authority, behind, reads⟩ := UrlPath.exists_reads read
  have dropped : behindArtRoot path = (UrlPath.visible rest).takeWhile
      fun character => !UrlPath.endsPath character := by
    rw [behindArtRoot, art, List.drop_left]
  have slashed : rommPlatformArtUrlRoot.toList ++ rest =
      '/' :: ("assets/platforms/".toList ++ rest) := by
    unfold rommPlatformArtUrlRoot
    simp
  have longText : (baseUrl ++ path).toList =
      baseUrl.toList ++ '/' :: ("assets/platforms/".toList ++ rest) := by
    rw [String.toList_append, art, slashed]
  have shortText : (baseUrl ++ "/").toList = baseUrl.toList ++ ['/'] := by
    simp
  have long := reads.goesOn ("assets/platforms/".toList ++ rest)
  have short := reads.goesOn []
  rw [← longText] at long
  rw [← shortText] at short
  have nothing : UrlPath.visible [] = [] := rfl
  rw [visible_art] at long
  rw [nothing] at short
  unfold Stays parseUrl
  rw [long, short]
  cases hosts.read authority with
  | none => exact ⟨fun _ => nofun, fun _ => nofun⟩
  | some host =>
      rw [Option.map_some, Option.map_some]
      simp only [Option.some.injEq, forall_eq', exists_eq_left']
      rw [← reads.marks, dropped]
      cases marked : behind.any UrlPath.endsPath with
      | true =>
          -- The path ends before the one that is put behind it.
          rw [UrlPath.takeWhile_of_any marked, UrlPath.takeWhile_of_any marked]
          constructor
          · intro leads
            have longer := leads.length_le
            rw [List.length_append] at longer
            exact absurd longer (by simp)
          · rintro ⟨plain, _⟩
            cases plain
      | false =>
          rw [UrlPath.takeWhile_of_not_any marked,
            UrlPath.takeWhile_of_not_any marked]
          have kept (later : List Char) :
              (('/' :: later).takeWhile
                fun character => !UrlPath.endsPath character) =
                '/' :: later.takeWhile
                  fun character => !UrlPath.endsPath character := by
            rfl
          rw [kept, kept, takeWhile_art,
            UrlPath.pathOf_append reads.apart marked,
            UrlPath.pathOf_append reads.apart marked, List.takeWhile_nil,
            resolve_nothing, resolve_art, render_slash]
          have free := UrlPath.slashFree_foldersOf
            (fun _ => UrlPath.slash_notMem_percentEncoded) behind
          have artFree : UrlPath.SlashFree
              (UrlPath.foldersOf UrlPath.percentEncoded behind ++
                ["assets".toList, "platforms".toList]) := by
            intro segment member
            rcases List.mem_append.mp member with old | new
            · exact free segment old
            · exact slash_notMem_art segment new
          have restFree : ∀ segment ∈ UrlPath.segments
              ((UrlPath.visible rest).takeWhile
                fun character => !UrlPath.endsPath character),
              '/' ∉ UrlPath.percentEncoded segment :=
            fun segment member => UrlPath.slash_notMem_percentEncoded
              (UrlPath.slash_notMem_of_mem_segments member)
          have goalFree := artFree.resolve restFree
          rw [UrlPath.render_prefix_iff artFree goalFree,
            ← UrlPath.goal_climbOf, UrlPath.Climb.leadsBack_iff]
          unfold artFolders
          rw [List.dropLast_concat]
          exact ⟨fun leads => ⟨rfl, leads⟩, fun both => both.2⟩

/-! ## Requests -/

/-- Artwork is taken from below its two roots exactly when the path is
confined: whatever the client passes, and whatever RomM and the disk answer,
with an address that was saved. -/
theorem asset_inside_iff
    (hosts : UrlPath.Hosts)
    (service : RommService)
    (resourcesRoot : String)
    (answers : ArtworkAnswers)
    (saved : ∀ baseUrl, answers.baseUrl = .ok (some baseUrl) →
      ∃ text, normalizeRommUrl (webService hosts service) text = .ok baseUrl)
    (value : String) :
    (∀ access, (asset hosts resourcesRoot answers value).access =
        some access → Inside hosts resourcesRoot answers access) ↔
      ∀ path, normalizedRommAssetPath value = .ok path →
        Confined hosts resourcesRoot answers path := by
  unfold asset
  cases normalized : normalizedRommAssetPath value with
  | error error => exact ⟨fun _ => nofun, fun _ => nofun⟩
  | ok path =>
      have accepted := accepted_of_normalized normalized
      simp only [Except.ok.injEq, forall_eq']
      unfold Confined
      cases found : resourcesRelativePath path with
      | some relative =>
          obtain ⟨isRelative, plain⟩ := relative_of_accepted accepted found
          dsimp only
          unfold readResourcesAsset
          dsimp only
          cases artworkContentType (join resourcesRoot relative) with
          | none => exact ⟨fun _ => .inr rfl, fun _ => nofun⟩
          | some contentType =>
              simp only [Option.some.injEq, forall_eq', reduceCtorEq,
                or_false]
              exact below_join_iff isRelative plain resourcesRoot
      | none =>
          dsimp only
          have notResources : Frontend.stripped rommResourcesUrlRoot path =
              none := Option.map_eq_none_iff.mp found
          have art := accepted.allowed.resolve_left (by
            rw [notResources]
            exact Bool.false_ne_true)
          obtain ⟨rest, stripped⟩ := Option.isSome_iff_exists.mp art
          have split := eq_append_of_stripped stripped
          cases configured : answers.baseUrl with
          | error error => exact ⟨fun _ => nofun, fun _ => nofun⟩
          | ok base =>
              cases base with
              | none => exact ⟨fun _ => nofun, fun _ => nofun⟩
              | some baseUrl =>
                  obtain ⟨text, normal⟩ := saved baseUrl configured
                  obtain ⟨url, read⟩ := parse_of_normalizeRommUrl normal
                  simp only [Except.ok.injEq, Option.some.injEq, forall_eq']
                  rw [← request_inside_iff read split]
                  cases parseUrl hosts (baseUrl ++ path) with
                  | none => exact ⟨fun _ => nofun, fun _ => nofun⟩
                  | some url =>
                      simp only [Option.some.injEq, forall_eq', Inside,
                        configured, Except.ok.injEq]
                      constructor
                      · rintro ⟨_, root, rfl, isRoot, leads⟩
                        exact ⟨root, isRoot, leads⟩
                      · rintro ⟨root, isRoot, leads⟩
                        exact ⟨_, root, rfl, isRoot, leads⟩

/-- Only the loopback address is read. -/
def loopbackHosts : UrlPath.Hosts where
  read authority :=
    if authority = "127.0.0.1:8080".toList then some "127.0.0.1" else none
  solid := by decide +kernel

def loopbackService : RommService where
  parse _ := none
  loopback host := host == "127.0.0.1"
  phoneLink _ _ _ := ""

/-- A RomM on this machine, that answers every request with an image. -/
def loopbackAnswers : ArtworkAnswers where
  baseUrl := .ok (some "http://127.0.0.1:8080")
  readFile _ := .ok []
  get _ := .ok
    { status := 200, shown := "200 OK", contentType := some "image/png"
      body := .ok [] }
  unread := "builder error"

theorem loopback_saved :
    normalizeRommUrl (webService loopbackHosts loopbackService)
      "http://127.0.0.1:8080/" = .ok "http://127.0.0.1:8080" := by
  rfl

theorem asset_inside_iff_loopback :
    (∀ access, (asset loopbackHosts "/srv/romm/resources" loopbackAnswers
        "/assets/platforms/snes.svg").access = some access →
        Inside loopbackHosts "/srv/romm/resources" loopbackAnswers access) ↔
      ∀ path, normalizedRommAssetPath "/assets/platforms/snes.svg" =
        .ok path →
        Confined loopbackHosts "/srv/romm/resources" loopbackAnswers path :=
  asset_inside_iff loopbackHosts loopbackService "/srv/romm/resources"
    loopbackAnswers
    (fun _ configured =>
      ⟨"http://127.0.0.1:8080/",
        loopback_saved.trans (congrArg Except.ok
          (Option.some.inj (Except.ok.inj configured)))⟩)
    "/assets/platforms/snes.svg"

/-- Dots that are spelled with percent signs lead out of the art. -/
theorem spelled_dots_leave_the_art :
    ¬ ∀ access, (asset loopbackHosts "/srv/romm/resources" loopbackAnswers
        "/assets/platforms/%2e%2e/%2E%2e/api/users").access = some access →
        Inside loopbackHosts "/srv/romm/resources" loopbackAnswers
          access := by
  have url : parseUrl loopbackHosts
      ("http://127.0.0.1:8080" ++
        "/assets/platforms/%2e%2e/%2E%2e/api/users") =
      some ⟨"http", "127.0.0.1", ["api".toList, "users".toList]⟩ := by
    rfl
  have base : parseUrl loopbackHosts ("http://127.0.0.1:8080" ++ "/") =
      some ⟨"http", "127.0.0.1", [[]]⟩ := by
    rfl
  have normalized : normalizedRommAssetPath
      "/assets/platforms/%2e%2e/%2E%2e/api/users" =
      .ok "/assets/platforms/%2e%2e/%2E%2e/api/users" := by
    decide +kernel
  have notResources : resourcesRelativePath
      "/assets/platforms/%2e%2e/%2E%2e/api/users" = none := by
    decide +kernel
  have requested : (asset loopbackHosts "/srv/romm/resources"
      loopbackAnswers "/assets/platforms/%2e%2e/%2E%2e/api/users").access =
      some (.request
        ⟨"http", "127.0.0.1", ["api".toList, "users".toList]⟩) := by
    unfold asset
    simp only [normalized, notResources, loopbackAnswers, url]
  intro inside
  obtain ⟨baseUrl, root, configured, isRoot, leads⟩ := inside _ requested
  have same : "http://127.0.0.1:8080" = baseUrl :=
    Option.some.inj (Except.ok.inj configured)
  rw [← same, base] at isRoot
  rw [← Option.some.inj isRoot] at leads
  revert leads
  decide +kernel

end Daemon
end Hearthdeck
