import Phrasebook.Proofs.Import.Shown

namespace Phrasebook

/-! ## Positions of slots -/

theorem Slot.localeId_ofKeys (separator localeId : String) (keys : List String) :
    (Slot.ofKeys separator localeId keys).localeId = localeId := by
  unfold ofKeys
  split <;> rfl

theorem categoryKeyOf_ne_empty (folders : List String) : categoryKeyOf folders ≠ "" := by
  unfold categoryKeyOf
  by_cases blank : Dotted.join folders = ""
  · rw [if_pos blank]
    decide
  · rwa [if_neg blank]

theorem Slot.categoryKey_ofKeys_ne_empty (separator localeId : String) (keys : List String) :
    (Slot.ofKeys separator localeId keys).categoryKey ≠ "" := by
  rcases List.eq_nil_or_concat' keys with rfl | ⟨folders, key, rfl⟩
  · exact (by decide : Category.rootKey ≠ "")
  · rw [ofKeys_append_singleton]
    exact categoryKeyOf_ne_empty folders

theorem Placement.categoryKey_ne_empty {placement : Placement} {separator localeId : String}
    {keys : List String} (atSlot : placement.slot = Slot.ofKeys separator localeId keys) :
    placement.categoryKey ≠ "" := by
  have same : placement.categoryKey = (Slot.ofKeys separator localeId keys).categoryKey :=
    congrArg Slot.categoryKey atSlot
  rw [same]
  exact Slot.categoryKey_ofKeys_ne_empty separator localeId keys

theorem ImportTarget.categoryKey_ne_empty_of_place {target : ImportTarget} {separator : String}
    {path : LeafPath} {placement : Placement}
    (placed : target.place separator path = .ok placement) : placement.categoryKey ≠ "" := by
  obtain ⟨_, _, _, _, _, atSlot⟩ := lands_of_place placed
  exact Placement.categoryKey_ne_empty atSlot

theorem Placement.localeId_eq {placement : Placement} {separator localeId : String}
    {keys : List String} (atSlot : placement.slot = Slot.ofKeys separator localeId keys) :
    placement.localeId = localeId :=
  (congrArg Slot.localeId atSlot).trans (Slot.localeId_ofKeys separator localeId keys)

theorem Category.pathOf_categoryKeyOf {folders : List String}
    (dotless : ∀ folder ∈ folders, '.' ∉ folder.toList) (notEmpty : folders ≠ [""])
    (notRoot : folders ≠ [Category.rootKey]) :
    Category.pathOf (categoryKeyOf folders) = folders := by
  by_cases none : folders = []
  · subst none
    decide
  · have split := Dotted.split_join none dotless
    have filled : Dotted.join folders ≠ "" := by
      intro blank
      rw [blank] at split
      exact notEmpty (split.symm.trans (by decide))
    have other : Dotted.join folders ≠ Category.rootKey := by
      intro root
      rw [root] at split
      exact notRoot (split.symm.trans (by decide))
    rw [categoryKeyOf, if_neg filled, pathOf, if_neg (not_or.2 ⟨other, filled⟩), split]

theorem Slot.position_ofKeys {folders : List String}
    (dotless : ∀ folder ∈ folders, '.' ∉ folder.toList) (notEmpty : folders ≠ [""])
    (notRoot : folders ≠ [Category.rootKey]) (separator localeId key code : String) :
    (Slot.ofKeys separator localeId (folders ++ [key])).position code separator =
      code :: (folders ++ [key]) := by
  rw [ofKeys_append_singleton, position, Category.pathOf_categoryKeyOf dotless notEmpty notRoot,
    Key.joined_splitContext]

theorem Locale.ne_empty_of_resolve? {locales : List Locale} {name : String} {locale : Locale}
    (resolved : Locale.resolve? locales name = some locale) : name ≠ "" := by
  have named := List.find?_some resolved
  rw [Locale.isNamed, Bool.and_eq_true, decide_eq_true_eq] at named
  exact named.1

/-! ## Faithful documents -/

/-- A document of which an import loses nothing but empty texts and empty objects: its topmost keys
are codes of locales, keys of objects below them have no dots, and no key of such an object that
holds a text could be taken for that of the root. -/
structure Json.Faithful (document : Json) (locales : List Locale) (code : LocaleCode) : Prop where
  textual : document.Textual
  nonempty : ∃ members, document = .object members ∧ members ≠ []
  named : ∀ key value, document.at? [key] = some value →
    (∃ members, value = .object members) ∧
      ∃ locale, Locale.resolve? locales key = some locale ∧ locale.code code = key
  dotless : ∀ path key members, path ≠ [] →
    document.at? (path ++ [key]) = some (.object members) → '.' ∉ key.toList
  rootless : ∀ top folder key text, document.textAt? [top, folder, key] = some text →
    folder ≠ "" ∧ folder ≠ Category.rootKey

namespace Json.Faithful

variable {document : Json} {locales : List Locale} {code : LocaleCode}

theorem exists_keys (faithful : document.Faithful locales code) {path : List String}
    {text : String} (leaf : document.textAt? path = some text) : ∃ top folders key locale,
      path = top :: (folders ++ [key]) ∧ Locale.resolve? locales top = some locale ∧
        locale.code code = top := by
  obtain ⟨members, rfl, _⟩ := faithful.nonempty
  cases path with
  | nil => cases leaf
  | cons top rest =>
    rw [← List.singleton_append, textAt?_append, Option.bind_eq_some_iff] at leaf
    obtain ⟨value, located, leaf⟩ := leaf
    obtain ⟨⟨inner, rfl⟩, locale, resolved, coded⟩ := faithful.named top value located
    rcases List.eq_nil_or_concat' rest with rfl | ⟨folders, key, rfl⟩
    · cases leaf
    · exact ⟨top, folders, key, locale, rfl, resolved, coded⟩

theorem locales_ne_nil (faithful : document.Faithful locales code) : locales ≠ [] := by
  obtain ⟨members, rfl, nonempty⟩ := faithful.nonempty
  obtain ⟨⟨key, value⟩, rest, rfl⟩ := List.exists_cons_of_ne_nil nonempty
  have located : (Json.object ((key, value) :: rest)).at? [key] = some value := by
    rw [Json.at?, Json.member?, List.lookup_cons_self]
    rfl
  obtain ⟨-, locale, resolved, -⟩ := faithful.named key value located
  exact List.ne_nil_of_mem (List.mem_of_find?_eq_some resolved)

theorem dotless_folders (faithful : document.Faithful locales code) {top key : String}
    {folders : List String} {text : String}
    (leaf : document.textAt? (top :: (folders ++ [key])) = some text) :
    ∀ folder ∈ folders, '.' ∉ folder.toList := by
  intro folder member
  obtain ⟨before, behind, rfl⟩ := List.append_of_mem member
  have reached : document.textAt? ((top :: before ++ [folder]) ++ (behind ++ [key])) =
      some text := by
    rw [← leaf]
    simp
  obtain ⟨members, located⟩ := exists_object_of_textAt? reached (by simp)
  exact faithful.dotless (top :: before) folder members (List.cons_ne_nil _ _) located

theorem position_ofKeys (faithful : document.Faithful locales code) {top : String}
    {keys : List String} {text : String} (leaf : document.textAt? (top :: keys) = some text)
    (separator localeId : String) :
    (Slot.ofKeys separator localeId keys).position top separator = top :: keys := by
  obtain ⟨_, folders, key, _, same, _⟩ := faithful.exists_keys leaf
  obtain ⟨rfl, rfl⟩ := List.cons.inj same
  refine Slot.position_ofKeys (faithful.dotless_folders leaf) ?_ ?_ separator localeId key _
  · rintro rfl
    exact (faithful.rootless _ _ _ _ leaf).1 rfl
  · rintro rfl
    exact (faithful.rootless _ _ _ _ leaf).2 rfl

end Json.Faithful

/-! ## Documents made of positions -/

theorem Category.dotless_of_mem_pathOf {key folder : String} (member : folder ∈ pathOf key) :
    '.' ∉ folder.toList := by
  unfold pathOf at member
  split at member
  · cases member
  · exact Dotted.dotless_of_mem_split member

theorem Category.of_pathOf_eq_singleton {key folder : String} (alone : pathOf key = [folder]) :
    folder ≠ "" ∧ folder ≠ rootKey := by
  unfold pathOf at alone
  split at alone
  · cases alone
  · rename_i other
    have same : key = folder := by rw [← Dotted.join_split key, alone, Dotted.join_singleton]
    rw [not_or, same] at other
    exact ⟨other.2, other.1⟩

def Json.Positioned (document : Json) (locales : List Locale) (code : LocaleCode)
    (separator : String) : Prop :=
  ∀ path text, document.filledAt? path = some text → ∃ top locale, ∃ slot : Slot,
    Locale.resolve? locales top = some locale ∧ locale.code code = top ∧
      path = slot.position top separator

namespace Json.Filled

variable {document : Json} {locales : List Locale} {code : LocaleCode} {separator : String}

theorem exists_position (filled : document.Filled)
    (positioned : document.Positioned locales code separator) {path : List String}
    {members : List (String × Json)} (located : document.at? path = some (.object members)) :
    ∃ inner last top, ∃ slot : Slot, path ++ (inner ++ [last]) = slot.position top separator := by
  obtain ⟨rest, text, below⟩ := (filled.at? located).exists_filledAt?
  rcases List.eq_nil_or_concat' rest with rfl | ⟨inner, last, rfl⟩
  · cases below
  · have shown : document.filledAt? (path ++ (inner ++ [last])) = some text := by
      rw [filledAt?_append, located]
      exact below
    obtain ⟨top, _, slot, _, _, same⟩ := positioned _ _ shown
    exact ⟨inner, last, top, slot, same⟩

theorem named (filled : document.Filled) (positioned : document.Positioned locales code separator)
    {key : String} {value : Json} (located : document.at? [key] = some value) :
    (∃ members, value = .object members) ∧
      ∃ locale, Locale.resolve? locales key = some locale ∧ locale.code code = key := by
  have valueFilled := filled.at? located
  obtain ⟨rest, text, below⟩ := valueFilled.exists_filledAt?
  have shown : document.filledAt? ([key] ++ rest) = some text := by
    rw [filledAt?_append, located]
    exact below
  obtain ⟨top, locale, slot, resolved, coded, same⟩ := positioned _ _ shown
  obtain ⟨rfl, tail⟩ := List.cons.inj same
  refine ⟨?_, locale, resolved, coded⟩
  cases valueFilled with
  | object ascending nonempty all => exact ⟨_, rfl⟩
  | string nonblank =>
    cases rest with
    | nil => exact absurd tail.symm (by simp)
    | cons head rest => cases below

theorem faithful (filled : document.Filled)
    (positioned : document.Positioned locales code separator) :
    document.Faithful locales code where
  textual := filled.textual
  nonempty := by
    cases filled with
    | object ascending nonempty all => exact ⟨_, rfl, nonempty⟩
    | @string text nonblank =>
      obtain ⟨_, _, _, _, _, same⟩ :=
        positioned [] text (filledAt?_eq_some_iff.2 ⟨rfl, nonblank⟩)
      cases same
  named key value located := filled.named positioned located
  dotless path key members under located := by
    obtain ⟨inner, last, top, slot, same⟩ := filled.exists_position positioned located
    obtain ⟨head, front, rfl⟩ := List.exists_cons_of_ne_nil under
    have tail : front ++ [key] ++ inner ++ [last] = Category.pathOf slot.categoryKey ++
        [Key.joined slot.phraseKey slot.context? separator] := by
      rw [← (List.cons.inj same).2]
      simp
    have member : key ∈ Category.pathOf slot.categoryKey := by
      rw [← (List.append_inj' tail rfl).1]
      simp
    exact Category.dotless_of_mem_pathOf member
  rootless top folder key text leaf := by
    obtain ⟨_, _, slot, _, _, same⟩ := positioned _ _ (filled.filledAt?_of_textAt? leaf)
    have tail : [folder] ++ [key] = Category.pathOf slot.categoryKey ++
        [Key.joined slot.phraseKey slot.context? separator] := (List.cons.inj same).2
    exact Category.of_pathOf_eq_singleton (List.append_inj' tail rfl).1.symm

end Json.Filled

/-! ## Imports of faithful documents -/

/-- The placements of an import are the leaves of a document in the slots of their keys. -/
structure Json.PlacedAs (document : Json) (locales : List Locale) (separator : String)
    (placements : List Placement) : Prop where
  leaf_of_placement : ∀ placement ∈ placements, ∃ top keys locale,
    document.textAt? (top :: keys) = some placement.text ∧
      Locale.resolve? locales top = some locale ∧
      placement.slot = Slot.ofKeys separator locale.id keys
  placement_of_leaf : ∀ top keys text, document.textAt? (top :: keys) = some text →
    ∃ placement ∈ placements, ∃ locale, placement.text = text ∧
      Locale.resolve? locales top = some locale ∧
      placement.slot = Slot.ofKeys separator locale.id keys

theorem ImportTarget.placedAs_of_lands {target : ImportTarget} {separator : String}
    {document : Json} {leaves : List LeafPath} {placements : List Placement}
    (unhinted : target.hint? = none)
    (listed : ∀ leaf, leaf ∈ leaves ↔
      ∃ path text, leaf = path ++ [text] ∧ document.textAt? path = some text)
    (placed : List.Forall₂ (target.Lands separator) (target.paths leaves) placements) :
    document.PlacedAs target.locales separator placements := by
  constructor
  case leaf_of_placement =>
    intro placement member
    obtain ⟨leaf, inside, top, keys, locale, rfl, resolved, atSlot⟩ :=
      exists_result_of_forall₂ placed.flip member
    obtain ⟨path, text, same, located⟩ := (listed _).1 ((mem_paths_iff unhinted).1 inside)
    obtain ⟨rfl, ends⟩ := List.append_inj' (List.cons_append.trans same) rfl
    obtain ⟨rfl, -⟩ := List.cons.inj ends
    rw [localeFor?_of_unhinted unhinted] at resolved
    exact ⟨top, keys, locale, located, resolved, atSlot⟩
  case placement_of_leaf =>
    intro top keys text located
    have inside := (mem_paths_iff unhinted).2 ((listed _).2 ⟨top :: keys, text, rfl, located⟩)
    obtain ⟨placement, member, otherTop, otherKeys, locale, same, resolved, atSlot⟩ :=
      exists_result_of_forall₂ placed inside
    obtain ⟨keysEqual, ends⟩ := List.append_inj' (same.trans List.cons_append.symm) rfl
    obtain ⟨rfl, rfl⟩ := List.cons.inj keysEqual
    obtain ⟨rfl, -⟩ := List.cons.inj ends
    rw [localeFor?_of_unhinted unhinted] at resolved
    exact ⟨placement, member, locale, rfl, resolved, atSlot⟩

namespace Json.Faithful

variable {document : Json} {locales : List Locale} {code : LocaleCode}

theorem code_of_resolve? (faithful : document.Faithful locales code) {top : String}
    {keys : List String} {text : String} (leaf : document.textAt? (top :: keys) = some text)
    {locale : Locale} (resolved : Locale.resolve? locales top = some locale) :
    locale ∈ locales ∧ locale.code code = top := by
  obtain ⟨_, _, _, other, same, otherResolved, coded⟩ := faithful.exists_keys leaf
  obtain ⟨rfl, -⟩ := List.cons.inj same
  obtain rfl := Option.some.inj (resolved.symm.trans otherResolved)
  exact ⟨List.mem_of_find?_eq_some resolved, coded⟩

variable {separator : String} {placements : List Placement} {made : Import} {inferrer : Inferrer}

theorem exists_leaf (faithful : document.Faithful locales code)
    (distinct : (locales.map (·.id)).Nodup)
    (placed : document.PlacedAs locales separator placements) {placement : Placement}
    (member : placement ∈ placements) {locale : Locale} (inside : locale ∈ locales)
    (inLocale : placement.localeId = locale.id) : ∃ keys,
      Locale.resolve? locales (locale.code code) = some locale ∧
        document.textAt? (locale.code code :: keys) = some placement.text ∧
        placement.slot = Slot.ofKeys separator locale.id keys := by
  obtain ⟨top, keys, other, leaf, resolved, atSlot⟩ := placed.leaf_of_placement _ member
  obtain ⟨otherInside, rfl⟩ := faithful.code_of_resolve? leaf resolved
  have sameId : other.id = locale.id := (Placement.localeId_eq atSlot).symm.trans inLocale
  obtain rfl := List.inj_on_of_nodup_map distinct otherInside inside sameId
  exact ⟨keys, resolved, leaf, atSlot⟩

theorem text_eq_of_slot_eq (faithful : document.Faithful locales code)
    (distinct : (locales.map (·.id)).Nodup)
    (placed : document.PlacedAs locales separator placements) {placement other : Placement}
    (member : placement ∈ placements) (otherMember : other ∈ placements)
    (same : other.slot = placement.slot) : other.text = placement.text := by
  obtain ⟨_, _, locale, topLeaf, named, topSlot⟩ := placed.leaf_of_placement _ member
  obtain ⟨inside, -⟩ := faithful.code_of_resolve? topLeaf named
  have inLocale : placement.localeId = locale.id := Placement.localeId_eq topSlot
  have otherInLocale : other.localeId = locale.id := (congrArg Slot.localeId same).trans inLocale
  obtain ⟨keys, -, leaf, atSlot⟩ := faithful.exists_leaf distinct placed member inside inLocale
  obtain ⟨otherKeys, -, otherLeaf, otherAtSlot⟩ :=
    faithful.exists_leaf distinct placed otherMember inside otherInLocale
  -- Both leaves stand at the position of the slot.
  have positions := faithful.position_ofKeys otherLeaf separator locale.id
  rw [← otherAtSlot, same, atSlot, faithful.position_ofKeys leaf] at positions
  rw [positions, otherLeaf] at leaf
  exact Option.some.inj leaf

theorem code_ne_empty (faithful : document.Faithful locales code)
    (distinct : (locales.map (·.id)).Nodup)
    (placed : document.PlacedAs locales separator placements)
    (records : made.Records inferrer placements) {locale : Locale} (inside : locale ∈ locales)
    (held : ∃ category ∈ made.categories.values, category.holds locale.id = true) :
    locale.code code ≠ "" := by
  obtain ⟨categoryKey, phraseKey, rendering, found⟩ := Import.exists_holds_iff.1 held
  have isThere : (made.renderingAt? categoryKey phraseKey locale.id).isSome := by
    rw [found]
    rfl
  obtain ⟨placement, member, -, -, inLocale⟩ := (records.rendering_iff _ _ _).1 isThere
  obtain ⟨_, resolved, -⟩ := faithful.exists_leaf distinct placed member inside inLocale
  exact Locale.ne_empty_of_resolve? resolved

theorem mem_listing_iff (faithful : document.Faithful locales code)
    (distinct : (locales.map (·.id)).Nodup)
    (placed : document.PlacedAs locales separator placements)
    (records : made.Records inferrer placements) (project : Project) {path : List String}
    {text : String} (filled : text ≠ "") :
    (path, text) ∈ (made.overview project locales).listing ⟨code, [], separator⟩ ↔
      document.textAt? path = some text := by
  rw [records.mem_listing_iff project distinct]
  constructor
  · rintro ⟨locale, inside, slot, inLocale, found, rfl⟩
    obtain ⟨placement, member, rfl, rfl⟩ := records.exists_placement found filled
    obtain ⟨keys, -, leaf, atSlot⟩ :=
      faithful.exists_leaf distinct placed member inside inLocale
    rw [atSlot, faithful.position_ofKeys leaf]
    exact leaf
  · intro leaf
    obtain ⟨top, folders, key, _, rfl, _⟩ := faithful.exists_keys leaf
    obtain ⟨placement, member, locale, rfl, resolved, atSlot⟩ :=
      placed.placement_of_leaf _ _ _ leaf
    obtain ⟨inside, coded⟩ := faithful.code_of_resolve? leaf resolved
    refine ⟨locale, inside, placement.slot, ?_, ?_, ?_⟩
    · exact Placement.localeId_eq atSlot
    · exact records.textOf?_eq_some member fun other otherMember same =>
        faithful.text_eq_of_slot_eq distinct placed member otherMember same
    · rw [atSlot, coded, faithful.position_ofKeys leaf]

end Json.Faithful

end Phrasebook
