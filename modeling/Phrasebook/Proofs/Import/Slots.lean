import Phrasebook.Proofs.Checks
import Phrasebook.Proofs.Import.Records

namespace Phrasebook

def Slot.ofKeys (separator localeId : String) (keys : List String) : Slot :=
  match keys.getLast? with
  | none => ⟨Category.rootKey, "", localeId, none⟩
  | some key =>
    let (phraseKey, context?) := Key.splitContext key separator
    ⟨categoryKeyOf keys.dropLast, phraseKey, localeId, context?⟩

theorem Slot.ofKeys_append_singleton (separator localeId : String) (folders : List String)
    (key : String) : Slot.ofKeys separator localeId (folders ++ [key]) =
      ⟨categoryKeyOf folders, (Key.splitContext key separator).1, localeId,
        (Key.splitContext key separator).2⟩ := by
  simp [Slot.ofKeys]

def Placement.ofKeys (separator localeId : String) (keys : List String) (text : String) :
    Placement where
  localeId
  categoryKey := (Slot.ofKeys separator localeId keys).categoryKey
  folder := keys.dropLast.getLast?.getD ""
  phraseKey := (Slot.ofKeys separator localeId keys).phraseKey
  context? := (Slot.ofKeys separator localeId keys).context?
  text

theorem Placement.slot_ofKeys (separator localeId : String) (keys : List String) (text : String) :
    (Placement.ofKeys separator localeId keys text).slot = Slot.ofKeys separator localeId keys := by
  rcases List.eq_nil_or_concat' keys with rfl | ⟨folders, key, rfl⟩
  · rfl
  · rw [slot, ofKeys, Slot.ofKeys_append_singleton]

theorem Placement.categoryKey_ofKeys (separator localeId : String) (keys : List String)
    (text : String) : (Placement.ofKeys separator localeId keys text).categoryKey =
      categoryKeyOf keys.dropLast := by
  rcases List.eq_nil_or_concat' keys with rfl | ⟨folders, key, rfl⟩
  · rfl
  · simp [ofKeys, Slot.ofKeys_append_singleton]

theorem LeafPath.parts?_append (first : String) (folders : List String) (key text : String) :
    LeafPath.parts? (first :: (folders ++ [key] ++ [text])) =
      some ⟨first :: folders, some key, text⟩ := by
  obtain ⟨next, rest, reversed⟩ : ∃ next rest, folders.reverse ++ [first] = next :: rest :=
    List.exists_cons_of_ne_nil (by simp)
  have restored := congrArg List.reverse reversed
  simp only [List.reverse_append, List.reverse_reverse, List.reverse_singleton,
    List.singleton_append] at restored
  simp [LeafPath.parts?, reversed, restored]

namespace ImportTarget

/-- The locale of the leaves whose first key is given: that of the hint, or else the one that the
key names. -/
def localeFor? (target : ImportTarget) (first : String) : Option Locale :=
  target.hint?.or (Locale.resolve? target.locales first)

theorem localeOf_eq_ok_iff {target : ImportTarget} {first : String} {path : LeafPath}
    {locale : Locale} :
    target.localeOf first path = .ok locale ↔ target.localeFor? first = some locale := by
  unfold localeOf localeFor?
  cases target.hint? with
  | some hint => simp
  | none => cases Locale.resolve? target.locales first <;> simp

theorem localeFor?_of_unhinted {target : ImportTarget} (unhinted : target.hint? = none)
    (first : String) : target.localeFor? first = Locale.resolve? target.locales first := by
  rw [localeFor?, unhinted, Option.none_or]

def Lands (target : ImportTarget) (separator : String) (path : LeafPath) (placement : Placement) :
    Prop :=
  ∃ first keys locale, path = first :: (keys ++ [placement.text]) ∧
    target.localeFor? first = some locale ∧
    placement.slot = Slot.ofKeys separator locale.id keys

theorem place_append (target : ImportTarget) (separator first : String) (keys : List String)
    (text : String) : target.place separator (first :: (keys ++ [text])) =
      (target.localeOf first (first :: (keys ++ [text]))).map fun locale =>
        Placement.ofKeys separator locale.id keys text := by
  rcases List.eq_nil_or_concat' keys with rfl | ⟨folders, key, rfl⟩
  · have parts : LeafPath.parts? (first :: ([] ++ [text])) = some ⟨[first], none, text⟩ := rfl
    rw [place, parts]
    dsimp only
    cases target.localeOf first (first :: ([] ++ [text])) <;> rfl
  · rw [place, LeafPath.parts?_append]
    dsimp only
    cases target.localeOf first (first :: (folders ++ [key] ++ [text])) with
    | error fault => rfl
    | ok locale =>
      simp [bind, Except.bind, Except.map, Placement.ofKeys, Slot.ofKeys_append_singleton]

theorem exists_place {target : ImportTarget} (separator : String) {first : String}
    (resolved : (target.localeFor? first).isSome) (keys : List String) (text : String) :
    ∃ placement, target.place separator (first :: (keys ++ [text])) = .ok placement := by
  obtain ⟨locale, resolved⟩ := Option.isSome_iff_exists.1 resolved
  have located : target.localeOf first (first :: (keys ++ [text])) = .ok locale :=
    localeOf_eq_ok_iff.2 resolved
  exact ⟨_, by rw [place_append, located]; rfl⟩

theorem exists_ofKeys_of_place {target : ImportTarget} {separator : String} {path : LeafPath}
    {placement : Placement} (placed : target.place separator path = .ok placement) :
    ∃ first keys text locale, path = first :: (keys ++ [text]) ∧
      target.localeFor? first = some locale ∧
      placement = Placement.ofKeys separator locale.id keys text := by
  cases path with
  | nil => cases placed
  | cons first rest =>
    rcases List.eq_nil_or_concat' rest with rfl | ⟨keys, text, rfl⟩
    · cases placed
    · rw [place_append] at placed
      cases located : target.localeOf first (first :: (keys ++ [text])) with
      | error fault =>
        rw [located] at placed
        cases placed
      | ok locale =>
        rw [located] at placed
        obtain rfl := Except.ok.inj placed
        exact ⟨first, keys, text, locale, rfl, localeOf_eq_ok_iff.1 located, rfl⟩

theorem lands_of_place {target : ImportTarget} {separator : String} {path : LeafPath}
    {placement : Placement} (placed : target.place separator path = .ok placement) :
    target.Lands separator path placement := by
  obtain ⟨first, keys, text, locale, rfl, located, rfl⟩ := exists_ofKeys_of_place placed
  exact ⟨first, keys, locale, rfl, located, Placement.slot_ofKeys _ _ _ _⟩

theorem mem_paths_iff {target : ImportTarget} (unhinted : target.hint? = none)
    {leaves : List LeafPath} {path : LeafPath} : path ∈ target.paths leaves ↔ path ∈ leaves := by
  rw [paths, unhinted, LeafPath.sort, List.mem_mergeSort]

end ImportTarget

def ImportTarget.Owned (target : ImportTarget) : Prop :=
  target.owner.id ≠ "" ∧ target.owner.createdBy ≠ "" ∧ target.owner.organizationId ≠ ""

theorem ImportTarget.check_eq_ok_iff {target : ImportTarget} {document : Json} :
    target.check document = .ok () ↔
      (∃ members, document = .object members ∧ members ≠ []) ∧ target.Owned ∧
        (target.locales ≠ [] ∨ target.hint?.isSome) := by
  cases document with
  | object members =>
    cases members with
    | nil => simp [check]
    | cons member rest =>
      unfold check Owned
      by_cases id : target.owner.id = "" <;> by_cases author : target.owner.createdBy = "" <;>
        by_cases organization : target.owner.organizationId = "" <;>
        cases target.locales <;> cases target.hint? <;> simp [id, author, organization]
  | _ => simp [check]

namespace ImportRules

theorem run_eq_ok_iff {rules : ImportRules} {target : ImportTarget} {document : Json}
    {made : Import} : rules.run target document = .ok made ↔
      target.check document = .ok () ∧ ∃ leaves placements,
        document.leaves rules.maxDepth = .ok leaves ∧
        List.Forall₂ (fun path placement =>
          target.place rules.contextSeparator path = .ok placement) (target.paths leaves)
          placements ∧
        made = placements.foldl (Import.add rules target) Import.empty := by
  unfold run
  cases target.check document with
  | error fault => simp [bind, Except.bind]
  | ok checked =>
    cases document.leaves rules.maxDepth with
    | error fault => simp [bind, Except.bind, Except.mapError]
    | ok leaves =>
      simp only [bind, Except.bind, Except.mapError, ← mapM_eq_ok_iff]
      cases placed : (target.paths leaves).mapM (target.place rules.contextSeparator) <;>
        simp [placed, eq_comm]

theorem exists_run {rules : ImportRules} {target : ImportTarget} {document : Json}
    {leaves : List LeafPath} (unhinted : target.hint? = none)
    (checked : target.check document = .ok ())
    (flat : document.leaves rules.maxDepth = .ok leaves)
    (resolved : ∀ path ∈ leaves, ∃ first keys text, path = first :: (keys ++ [text]) ∧
      (target.localeFor? first).isSome) :
    ∃ made, rules.run target document = .ok made := by
  have placed : ∀ path ∈ target.paths leaves, ∃ placement,
      target.place rules.contextSeparator path = .ok placement := by
    intro path member
    obtain ⟨first, keys, text, rfl, named⟩ :=
      resolved path ((ImportTarget.mem_paths_iff unhinted).1 member)
    exact ImportTarget.exists_place rules.contextSeparator named keys text
  obtain ⟨placements, located⟩ := exists_mapM_eq_ok placed
  exact ⟨_, run_eq_ok_iff.2 ⟨checked, leaves, placements, flat, mapM_eq_ok_iff.1 located, rfl⟩⟩

/-- An import tells of the leaves of its document in the order in which they are worked through:
each lands in the slot of its keys. -/
theorem run_records_leaves {rules : ImportRules} {target : ImportTarget} {document : Json}
    {made : Import} (imported : rules.run target document = .ok made) :
    ∃ leaves placements, document.leaves rules.maxDepth = .ok leaves ∧
      List.Forall₂ (target.Lands rules.contextSeparator) (target.paths leaves) placements ∧
      made.Records rules.inferrer placements := by
  obtain ⟨_, leaves, placements, flat, placed, rfl⟩ := run_eq_ok_iff.1 imported
  exact ⟨leaves, placements, flat, placed.imp fun _ _ => ImportTarget.lands_of_place,
    Import.records_foldl_add rules target placements⟩

def standard : ImportRules where
  inferrer := ⟨MarkerSettings.standard.markerSet, ⟨"\x7b\x7b".toList, some ',', '\x7d', ['\x7d']⟩⟩
  contextSeparator := "_"
  maxDepth := Json.defaultDepth

example : ofSettings .standard = .ok standard := rfl

def sampleTarget : ImportTarget where
  locales := Locale.starters
  hint? := none
  owner := ⟨"demo", "Demo", "ann", "acme"⟩
  origin := .imported

def aliasDocument : Json := .object [
  ("en", .object [("friend", .string "Friend"), ("friend_male", .string "Mate $t(pal, one)")]),
  ("en-GB", .object [("friend", .string ""), ("friend_male", .string "Chap $t(pal, two)")])]

theorem aliasDocument_run_records_leaves : ∃ made,
    standard.run sampleTarget aliasDocument = .ok made ∧ ∃ leaves placements,
      aliasDocument.leaves Json.defaultDepth = .ok leaves ∧
      List.Forall₂ (sampleTarget.Lands "_") (sampleTarget.paths leaves) placements ∧
      made.Records standard.inferrer placements := by
  have resolved : ∀ path ∈ [["en", "friend", "Friend"],
      ["en", "friend_male", "Mate $t(pal, one)"], ["en-GB", "friend", ""],
      ["en-GB", "friend_male", "Chap $t(pal, two)"]], ∃ first keys text,
        path = first :: (keys ++ [text]) ∧ (sampleTarget.localeFor? first).isSome := by
    simp only [List.forall_mem_cons]
    exact ⟨⟨"en", ["friend"], "Friend", rfl, rfl⟩, ⟨"en", ["friend_male"], _, rfl, rfl⟩,
      ⟨"en-GB", ["friend"], "", rfl, rfl⟩, ⟨"en-GB", ["friend_male"], _, rfl, rfl⟩, by simp⟩
  obtain ⟨made, imported⟩ : ∃ made, standard.run sampleTarget aliasDocument = .ok made :=
    exists_run rfl rfl rfl resolved
  exact ⟨made, imported, run_records_leaves imported⟩

end ImportRules

end Phrasebook
