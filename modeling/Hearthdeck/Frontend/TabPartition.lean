import Hearthdeck.Frontend.Placement

/-!
# Tabs partition their section

The tabs of the stores are built from texts in lower case and matched back by
the category a tab carries; the tab of the desktop is built from a form with a
default and matched by the form alone.  The two sides agree on every record
the daemon placed: an application is shown by one tab, a game by the tab of
its store, and no tab is empty.
-/

namespace Hearthdeck
namespace Frontend

/-- Lower case goes letter by letter. -/
def Language.PerCharacter (language : Language) : Prop :=
  ∃ lower : Char → List Char, ∀ text,
    (language.lowercase text).toList = text.toList.flatMap lower

/-- The section and the form of a record are what `classify_catalog` says. -/
def Classified (entry : LibraryItem) : Prop :=
  ∃ language id exec claimed modeledForm,
    let placed :=
      Daemon.classifyCatalog language id exec claimed modeledForm
    entry.inSection = placed.inSection ∧ entry.formFactor = placed.formFactor

variable
  {language : Language}
  {entry : LibraryItem}
  {entries : List LibraryItem}
  {inSection : Section}

/-! ## The values of a map -/

/-- The map a list of rows is collected into. -/
def collected
    (rows : List (String × String)) : Foundation.Table String String :=
  rows.foldl (fun map row => map.insert row.1 row.2) ∅

theorem lookup_collected_concat
    (rows : List (String × String))
    (row : String × String)
    (key : String) :
    (collected (rows ++ [row])).lookup key =
      if key = row.1 then some row.2 else (collected rows).lookup key := by
  rw [collected, List.foldl_append]
  exact Foundation.Table.lookup_insert_eq_ite _ _ _ _

/-- What a map holds was collected. -/
theorem mem_of_lookup_collected
    {rows : List (String × String)}
    {key value : String}
    (held : (collected rows).lookup key = some value) :
    (key, value) ∈ rows := by
  induction rows using List.reverseRecOn with
  | nil => simp [collected] at held
  | append_singleton rows row ih =>
      rw [lookup_collected_concat] at held
      rw [List.mem_append, List.mem_singleton]
      split_ifs at held with same
      · cases held
        exact .inr (by rw [same])
      · exact .inl (ih held)

/-- A key that was collected is held. -/
theorem isSome_lookup_collected
    {rows : List (String × String)}
    {row : String × String}
    (isIn : row ∈ rows) :
    ((collected rows).lookup row.1).isSome = true := by
  induction rows using List.reverseRecOn with
  | nil => cases isIn
  | append_singleton rows last ih =>
      rw [lookup_collected_concat]
      split_ifs with same
      · rfl
      · rw [List.mem_append, List.mem_singleton] at isIn
        rcases isIn with before | rfl
        · exact ih before
        · exact absurd rfl same

section Values

variable {values : List String} (key : String → String)

/-- The values a map is left with, one for each key. -/
def lastValues (values : List String) : List String :=
  sortedValues (values.map fun value => (key value, value))

/-- The map the values are left in. -/
def lastMap (values : List String) : Foundation.Table String String :=
  collected (values.map fun value => (key value, value))

/-- A value is held under its own key. -/
theorem fst_eq_of_mem_lastMap
    {held : Sigma fun _ : String => String}
    (isHeld : held ∈ (lastMap key values).entries) :
    held.1 = key held.2 ∧ held.2 ∈ values := by
  obtain ⟨value, isIn, same⟩ := List.mem_map.mp
    (mem_of_lookup_collected (AList.mem_lookup_iff.mpr isHeld))
  rw [Prod.mk.injEq] at same
  exact ⟨by rw [← same.1, same.2], same.2 ▸ isIn⟩

theorem perm_lastValues :
    (lastValues key values).Perm ((lastMap key values).entries.map Sigma.snd) :=
  (List.perm_insertionSort _ _).map _

theorem mem_of_mem_lastValues
    {value : String}
    (isIn : value ∈ lastValues key values) :
    value ∈ values := by
  obtain ⟨held, isHeld, rfl⟩ :=
    List.mem_map.mp ((perm_lastValues key).mem_iff.mp isIn)
  exact (fst_eq_of_mem_lastMap key isHeld).2

/-- The keys of the values, in any order. -/
theorem perm_keys_lastValues :
    ((lastValues key values).map key).Perm (lastMap key values).keys := by
  refine ((perm_lastValues key).map key).trans (List.Perm.of_eq ?_)
  rw [List.map_map]
  exact List.map_congr_left fun held isHeld =>
    (fst_eq_of_mem_lastMap key isHeld).1.symm

/-- No two values are left with one key. -/
theorem nodup_keys_lastValues : ((lastValues key values).map key).Nodup :=
  (perm_keys_lastValues key).nodup_iff.mpr (lastMap key values).keys_nodup

/-- Every key has a value left. -/
theorem key_mem_lastValues
    {value : String}
    (isIn : value ∈ values) :
    key value ∈ (lastValues key values).map key := by
  rw [(perm_keys_lastValues key).mem_iff]
  have isRow : (key value, value) ∈ values.map fun value =>
      (key value, value) := List.mem_map_of_mem isIn
  exact AList.lookup_isSome.mp (isSome_lookup_collected isRow)

end Values

/-- A text stands at one place of a list without repetitions. -/
theorem existsUnique_getElem?
    {Item : Type}
    {items : List Item}
    {item : Item}
    (nodup : items.Nodup)
    (isIn : item ∈ items) :
    ∃! index : Nat, items[index]? = some item := by
  obtain ⟨index, within, found⟩ := List.mem_iff_getElem.mp isIn
  have there : items[index]? = some item := by
    rw [List.getElem?_eq_getElem within, found]
  refine ⟨index, there, fun other elsewhere => ?_⟩
  exact ((List.getElem?_inj within nodup).mp (there.trans elsewhere.symm)).symm

/-! ## Categories of stores -/

theorem strippedIgnoreCase_append
    (head text : String) :
    strippedIgnoreCase head (head ++ text) = some text := by
  have same : eqIgnoreAsciiCase head head = true := beq_self_eq_true _
  rw [strippedIgnoreCase, String.toList_append, List.take_left,
    List.drop_left, String.ofList_toList, String.ofList_toList, if_pos same]

/-- Only three kinds of category name typed metadata. -/
theorem matchesTyped_eq_none
    {category kind : String}
    {value : List Char}
    (cut : splitOnce ':' category.toList = some (kind.toList, value))
    (console : eqIgnoreAsciiCase kind "hearthdeck-console" = false)
    (genre : eqIgnoreAsciiCase kind "hearthdeck-genre" = false)
    (region : eqIgnoreAsciiCase kind "hearthdeck-region" = false) :
    entry.matchesTyped language category = none := by
  rw [LibraryItem.matchesTyped, cut, Option.bind_some]
  simp only [String.ofList_toList, console, genre, region,
    Bool.false_eq_true, if_false]

/-- A category of a store is told by its head, whatever the store is called. -/
theorem matchesCategory_store
    (language : Language)
    (entry : LibraryItem)
    (store : String) :
    entry.matchesCategory language (storeFilterHead ++ store) =
      entry.store.any fun value =>
        language.lowercase value == language.lowercase store := by
  have cut : splitOnce ':' (storeFilterHead ++ store).toList =
      some ("hearthdeck-store".toList, store.toList) := by
    rw [String.toList_append]
    rfl
  have untyped :
      entry.matchesTyped language (storeFilterHead ++ store) = none :=
    matchesTyped_eq_none cut (by decide) (by decide) (by decide)
  rw [LibraryItem.matchesCategory, untyped]
  dsimp only
  rw [strippedIgnoreCase_append]

/-- Categories of stores are equal in lower case when the stores are. -/
theorem lowercase_category_iff
    (perCharacter : language.PerCharacter)
    (store other : String) :
    language.lowercase (storeFilterHead ++ store) =
        language.lowercase (storeFilterHead ++ other) ↔
      language.lowercase store = language.lowercase other := by
  obtain ⟨lower, isLower⟩ := perCharacter
  simp only [← String.toList_inj, isLower, String.toList_append,
    List.flatMap_append, List.append_cancel_left_eq]

theorem matchesEntry_ofCategory
    (language : Language)
    (name category : String)
    (entry : LibraryItem) :
    (AppGroup.ofCategory name category).matchesEntry language entry =
      entry.matchesCategory language category := by
  simp [AppGroup.matchesEntry, AppGroup.ofCategory]

/-! ## The tabs of the stores -/

/-- The categories of the stores that installed something. -/
def storeCategories
    (language : Language)
    (entries : List LibraryItem) : List String :=
  lastValues language.lowercase
    ((ofSection .pcGames entries).filterMap LibraryItem.storeFilterValue)

/-- The tab of a category of a store. -/
def storeGroup (category : String) : AppGroup :=
  .ofCategory ((stripped storeFilterHead category).getD category) category

theorem derivedGroups_pcGames
    (language : Language)
    (entries : List LibraryItem) :
    derivedGroups language .pcGames entries =
      (storeCategories language entries).map storeGroup :=
  rfl

theorem mem_ofSection :
    entry ∈ ofSection inSection entries ↔
      entry ∈ entries ∧ inSection = entry.inSection := by
  simp [ofSection]

/-- A category of a store is that of a game. -/
theorem exists_of_mem_storeCategories
    {category : String}
    (isIn : category ∈ storeCategories language entries) :
    ∃ game ∈ entries, game.inSection = .pcGames ∧
      ∃ store, game.store = some store ∧
        category = storeFilterHead ++ store := by
  obtain ⟨game, isGame, isCategory⟩ :=
    List.mem_filterMap.mp (mem_of_mem_lastValues _ isIn)
  obtain ⟨isEntry, placed⟩ := mem_ofSection.mp isGame
  obtain ⟨store, isStore, rfl⟩ := Option.map_eq_some_iff.mp isCategory
  exact ⟨game, isEntry, placed.symm, store, isStore, rfl⟩

/-- A game is matched by the tab whose category is its own in lower case. -/
theorem matchesEntry_storeGroup_iff
    (perCharacter : language.PerCharacter)
    {category store : String}
    (isIn : category ∈ storeCategories language entries)
    (isStore : entry.store = some store) :
    (storeGroup category).matchesEntry language entry = true ↔
      language.lowercase category =
        language.lowercase (storeFilterHead ++ store) := by
  obtain ⟨_, _, _, other, _, rfl⟩ := exists_of_mem_storeCategories isIn
  rw [storeGroup, matchesEntry_ofCategory, matchesCategory_store, isStore,
    Option.any_some, beq_iff_eq, lowercase_category_iff perCharacter]
  exact eq_comm

/-! ## The tab of the desktop -/

/-- The tab of what wants a desktop. -/
def desktopGroup : AppGroup :=
  .ofCategory desktopTabName FormFactor.desktop.categoryValue

theorem matchesEntry_desktopGroup_iff :
    desktopGroup.matchesEntry language entry = true ↔
      entry.formFactor = some .desktop := by
  have category : entry.matchesCategory language
      FormFactor.desktop.categoryValue = (entry.formFactor == some .desktop) :=
    rfl
  rw [desktopGroup, matchesEntry_ofCategory, category, beq_iff_eq]

theorem derivedGroups_applications
    (language : Language)
    (entries : List LibraryItem) :
    derivedGroups language .applications entries =
      if (ofSection .applications entries).any fun entry =>
          entry.form = .desktop then
        [desktopGroup]
      else
        [] :=
  rfl

/-- The only tab of the applications is that of the desktop. -/
theorem eq_desktopGroup_of_lt
    {index : Nat}
    (within : index < (derivedGroups language .applications entries).length) :
    index = 0 ∧
      (derivedGroups language .applications entries)[index]? =
        some desktopGroup := by
  rw [derivedGroups_applications] at within ⊢
  split_ifs at within ⊢
  · have first : index = 0 := by
      simpa using within
    subst first
    exact ⟨rfl, rfl⟩
  · simp at within

/-! ## Forms -/

/-- An application has a form. -/
def Formed (entry : LibraryItem) : Prop :=
  entry.inSection = .applications → entry.formFactor = some entry.form

theorem formed_of_isSome
    (isSome : entry.formFactor.isSome = true) :
    Formed entry := by
  intro _
  obtain ⟨form, isForm⟩ := Option.isSome_iff_exists.mp isSome
  rw [LibraryItem.form, isForm, Option.getD_some]

theorem Classified.formed
    (classified : Classified entry) :
    Formed entry := by
  obtain ⟨language, id, exec, claimed, modeledForm, inSection, formFactor⟩ :=
    classified
  intro application
  rw [inSection] at application
  refine formed_of_isSome ?_ (inSection.trans application)
  rw [formFactor, Daemon.classifyCatalog]
  exact congrArg Option.isSome (if_pos application)

/-- What the user chose is a form too. -/
theorem formed_applyFormOverrides
    (config : AppLibraryConfig)
    (formed : ∀ entry ∈ entries, Formed entry) :
    ∀ entry ∈ config.applyFormOverrides entries, Formed entry := by
  intro entry isIn
  obtain ⟨source, isSource, rfl⟩ := List.mem_map.mp isIn
  split
  case h_1 form _ =>
      split_ifs
      · exact formed_of_isSome rfl
      · exact formed source isSource
  case h_2 => exact formed source isSource

/-! ## What the tabs show -/

/-- A tab a section offers, or its default view. -/
def Sections.Offers
    (tabs : Sections)
    (inSection : Section)
    (tab : Option Nat) : Prop :=
  ∀ index ∈ tab, index < (tabs.get inSection).length

/-- What a tab shows once the tabs are synced, with nothing searched for and
no facet selected. -/
def shown
    (language : Language)
    (tabs : Sections)
    (entries : List LibraryItem)
    (inSection : Section)
    (tab : Option Nat) : List LibraryItem :=
  (tabs.syncCategoryGroups language entries).filteredByFacets language
    inSection tab "" entries ∅

variable {tabs : Sections}

theorem mem_shown_none_iff :
    entry ∈ shown language tabs entries inSection none ↔
      entry ∈ entries ∧ inSection = entry.inSection ∧
        (inSection = .applications → entry.form = .couch) := by
  rw [shown, mem_filteredByFacets]
  simp

theorem mem_shown_some_iff
    {index : Nat}
    {group : AppGroup}
    (isTab : ((tabs.syncCategoryGroups language entries).get
      inSection)[index]? = some group) :
    entry ∈ shown language tabs entries inSection (some index) ↔
      entry ∈ entries ∧ inSection = entry.inSection ∧
        group.matchesEntry language entry = true := by
  rw [shown, mem_filteredByFacets]
  simp [isTab]

/-- A tab keeps the order and the repetitions of the entries. -/
theorem shown_keeps
    (inSection : Section)
    (tab : Option Nat) :
    (shown language tabs entries inSection tab).Sublist entries ∧
      ∀ entry ∈ shown language tabs entries inSection tab,
        (shown language tabs entries inSection tab).count entry =
          entries.count entry := by
  refine ⟨List.filter_sublist, fun entry isShown => ?_⟩
  exact List.count_filter (List.mem_filter.mp isShown).2

/-- An application is shown by the default view or by the tab of the desktop,
not by both. -/
theorem existsUnique_tab_of_application
    (formed : ∀ entry ∈ entries, Formed entry)
    (isIn : entry ∈ entries)
    (application : entry.inSection = .applications) :
    ∃! tab,
      (tabs.syncCategoryGroups language entries).Offers .applications tab ∧
        entry ∈ shown language tabs entries .applications tab := by
  have isFormed := formed entry isIn application
  have groups : (tabs.syncCategoryGroups language entries).get .applications =
      derivedGroups language .applications entries := rfl
  -- Whatever tab is offered is the desktop's, and goes by the form.
  have listed_iff : ∀ index,
      index < (derivedGroups language .applications entries).length →
        (entry ∈ shown language tabs entries .applications (some index) ↔
          entry.formFactor = some .desktop) := by
    intro index within
    rw [mem_shown_some_iff (groups ▸ (eq_desktopGroup_of_lt within).2),
      matchesEntry_desktopGroup_iff]
    simp [isIn, application]
  cases form : entry.form with
  | couch =>
      refine ⟨none, ⟨by simp [Sections.Offers], mem_shown_none_iff.mpr
        ⟨isIn, application.symm, fun _ => form⟩⟩, ?_⟩
      rintro (_ | index) ⟨offered, listed⟩
      · rfl
      · have onlyDesktop := (listed_iff index (offered index rfl)).mp listed
        rw [isFormed, form] at onlyDesktop
        cases onlyDesktop
  | desktop =>
      have one : (derivedGroups language .applications entries).length = 1 := by
        rw [Surroundings.derivedGroups_desktop language isIn application form]
        rfl
      refine ⟨some 0, ⟨?_, ?_⟩, ?_⟩
      · rintro index ⟨⟩
        rw [groups, one]
        exact Nat.one_pos
      · rw [listed_iff 0 (one ▸ Nat.one_pos), isFormed, form]
      · rintro (_ | index) ⟨offered, listed⟩
        · have couch := (mem_shown_none_iff.mp listed).2.2 rfl
          rw [form] at couch
          cases couch
        · have within : index <
              (derivedGroups language .applications entries).length :=
            offered index rfl
          rw [(eq_desktopGroup_of_lt within).1]

/-- A game is shown by the tab at the place of its key. -/
theorem mem_shown_storeGroup_iff
    (perCharacter : language.PerCharacter)
    {store : String}
    (isIn : entry ∈ entries)
    (placed : entry.inSection = .pcGames)
    (isStore : entry.store = some store)
    (index : Nat) :
    (index < (derivedGroups language .pcGames entries).length ∧
        entry ∈ shown language tabs entries .pcGames (some index)) ↔
      ((storeCategories language entries).map language.lowercase)[index]? =
        some (language.lowercase (storeFilterHead ++ store)) := by
  rw [derivedGroups_pcGames, List.length_map, List.getElem?_map]
  cases isCategory : (storeCategories language entries)[index]? with
  | none =>
      rw [List.getElem?_eq_none_iff] at isCategory
      simp [Nat.not_lt.mpr isCategory]
  | some category =>
      have within := (List.getElem?_eq_some_iff.mp isCategory).1
      have isTab : ((tabs.syncCategoryGroups language entries).get
          .pcGames)[index]? = some (storeGroup category) := by
        change (derivedGroups language .pcGames entries)[index]? = _
        rw [derivedGroups_pcGames, List.getElem?_map, isCategory]
        rfl
      rw [mem_shown_some_iff isTab, matchesEntry_storeGroup_iff perCharacter
        (List.mem_of_getElem? isCategory) isStore]
      simp [within, isIn, placed]

/-- A game of a store is shown by the tab of its store alone. -/
theorem existsUnique_tab_of_game
    (perCharacter : language.PerCharacter)
    (isIn : entry ∈ entries)
    (placed : entry.inSection = .pcGames)
    (hasStore : entry.store.isSome = true) :
    ∃! index,
      index < (derivedGroups language .pcGames entries).length ∧
        entry ∈ shown language tabs entries .pcGames (some index) := by
  obtain ⟨store, isStore⟩ := Option.isSome_iff_exists.mp hasStore
  simp only [mem_shown_storeGroup_iff perCharacter isIn placed isStore]
  refine existsUnique_getElem? (nodup_keys_lastValues _)
    (key_mem_lastValues _ (List.mem_filterMap.mpr ⟨entry, ?_, ?_⟩))
  · exact mem_ofSection.mpr ⟨isIn, placed.symm⟩
  · rw [LibraryItem.storeFilterValue, isStore, Option.map_some]

/-- No tab that is derived is empty. -/
theorem exists_mem_shown
    (perCharacter : language.PerCharacter)
    (formed : ∀ entry ∈ entries, Formed entry)
    {index : Nat}
    (within : index < (derivedGroups language inSection entries).length)
    (isLocal : inSection ≠ .consoleGames) :
    ∃ entry, entry ∈ shown language tabs entries inSection (some index) := by
  cases inSection with
  | consoleGames => exact absurd rfl isLocal
  | pcGames =>
      rw [derivedGroups_pcGames, List.length_map] at within
      obtain ⟨game, isIn, placed, store, isStore, isCategory⟩ :=
        exists_of_mem_storeCategories (List.getElem_mem within)
      refine ⟨game, ((mem_shown_storeGroup_iff perCharacter isIn placed isStore
        index).mpr ?_).2⟩
      rw [List.getElem?_map, List.getElem?_eq_getElem within, isCategory]
      rfl
  | applications =>
      have isTab := (eq_desktopGroup_of_lt within).2
      have desktops := List.ne_nil_of_length_pos (Nat.zero_lt_of_lt within)
      rw [derivedGroups_applications, ite_ne_right_iff] at desktops
      obtain ⟨entry, isEntry, isDesktop⟩ := List.any_eq_true.mp desktops.1
      obtain ⟨isIn, application⟩ := mem_ofSection.mp isEntry
      have desktop : entry.form = .desktop := of_decide_eq_true isDesktop
      refine ⟨entry, (mem_shown_some_iff isTab).mpr
        ⟨isIn, application, matchesEntry_desktopGroup_iff.mpr ?_⟩⟩
      rw [formed entry isIn application.symm, desktop]

/-- Tabs partition their section: an application is shown by the default view
or by the tab of the desktop, a game of a store by the default view and by one
tab of a store, no tab that is derived is empty, and each shows the entries in
their order, as often as they are there. -/
theorem tabs_partition
    (language : Language)
    (perCharacter : language.PerCharacter)
    (tabs : Sections)
    (config : AppLibraryConfig)
    (source : List LibraryItem)
    (classified : ∀ entry ∈ source, Classified entry) :
    let entries := config.applyFormOverrides source
    let synced := tabs.syncCategoryGroups language entries
    let listing (inSection : Section) (tab : Option Nat) :=
      synced.filteredByFacets language inSection tab "" entries ∅
    (∀ entry ∈ entries, entry.inSection = .applications →
      ∃! tab, synced.Offers .applications tab ∧
        entry ∈ listing .applications tab) ∧
    (∀ entry ∈ entries, entry.inSection = .pcGames →
      entry.store.isSome = true →
      (∃! index, index < synced.pcGames.length ∧
        entry ∈ listing .pcGames (some index)) ∧
      entry ∈ listing .pcGames none) ∧
    (∀ inSection index, inSection ≠ .consoleGames →
      index < (synced.get inSection).length →
      ∃ entry, entry ∈ listing inSection (some index)) ∧
    ∀ inSection tab,
      (listing inSection tab).Sublist entries ∧
        ∀ entry ∈ listing inSection tab,
          (listing inSection tab).count entry = entries.count entry := by
  intro entries synced listing
  have formed := formed_applyFormOverrides config fun entry isIn =>
    (classified entry isIn).formed
  refine ⟨fun entry isIn application =>
      existsUnique_tab_of_application formed isIn application,
    fun entry isIn placed hasStore =>
      ⟨existsUnique_tab_of_game perCharacter isIn placed hasStore, ?_⟩,
    fun inSection index isLocal within => ?_, shown_keeps⟩
  · refine mem_shown_none_iff.mpr ⟨isIn, placed.symm, fun other => ?_⟩
    cases other
  · refine exists_mem_shown perCharacter formed ?_ isLocal
    cases inSection with
    | consoleGames => exact absurd rfl isLocal
    | pcGames => exact within
    | applications => exact within

/-- A game of a store and an application of the desktop. -/
def plainSource : List LibraryItem :=
  [{ LibraryItem.default with
      id := "hearthdeck:heroic:epic:Hades"
      inSection := .pcGames
      store := some "Epic Games" },
    { LibraryItem.default with
      id := "hearthdeck:desktop:gimp"
      formFactor := some .desktop }]

theorem tabs_partition_game :
    ∃! index,
      index < ((Sections.empty.syncCategoryGroups .ascii
        plainSource).pcGames).length ∧
      plainSource[0] ∈ (Sections.empty.syncCategoryGroups .ascii
        plainSource).filteredByFacets .ascii .pcGames (some index) ""
          plainSource ∅ := by
  have perCharacter : Language.ascii.PerCharacter :=
    ⟨fun char => [char.toLower], fun text => by
      simp [Language.ascii, List.map_eq_flatMap]⟩
  have classified : ∀ entry ∈ plainSource, Classified entry := by
    intro entry isIn
    simp only [plainSource, List.mem_cons, List.not_mem_nil, or_false] at isIn
    rcases isIn with rfl | rfl
    · exact ⟨.ascii, "heroic:epic:Hades", none, .pcGames, none, by
        decide +kernel, by decide +kernel⟩
    · exact ⟨.ascii, "desktop:gimp", none, .applications, none, by
        decide +kernel, by decide +kernel⟩
  exact ((tabs_partition .ascii perCharacter .empty ⟨[], ∅⟩ plainSource
    classified).2.1 plainSource[0] (by decide) rfl rfl).1

end Frontend
end Hearthdeck
