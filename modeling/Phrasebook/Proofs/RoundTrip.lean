import Phrasebook.Proofs.Import.Faithful
import Phrasebook.Proofs.Settings.Problems

namespace Phrasebook

def ImportTarget.unhinted (target : ImportTarget) : ImportTarget :=
  { target with hint? := none }

/-! ## Faithful documents -/

namespace ImportRules

variable {rules : ImportRules} {target : ImportTarget} {document : Json} {code : LocaleCode}

theorem exists_run_placedAs (faithful : document.Faithful target.locales code)
    (unhinted : target.hint? = none) (owned : target.Owned)
    (nested : document.height ≤ rules.maxDepth) : ∃ made placements,
      rules.run target document = .ok made ∧ made.Records rules.inferrer placements ∧
        document.PlacedAs target.locales rules.contextSeparator placements := by
  obtain ⟨leaves, flat, listed⟩ := Json.leaves_eq_ok faithful.textual nested
  have checked : target.check document = .ok () := ImportTarget.check_eq_ok_iff.2
    ⟨faithful.nonempty, owned, .inl faithful.locales_ne_nil⟩
  have resolved : ∀ path ∈ leaves, ∃ first keys text, path = first :: (keys ++ [text]) ∧
      (target.localeFor? first).isSome := by
    intro leaf member
    obtain ⟨path, text, rfl, located⟩ := (listed leaf).1 member
    obtain ⟨top, folders, key, locale, rfl, named, -⟩ := faithful.exists_keys located
    refine ⟨top, folders ++ [key], text, rfl, ?_⟩
    rw [ImportTarget.localeFor?_of_unhinted unhinted, named]
    rfl
  obtain ⟨made, imported⟩ := exists_run unhinted checked flat resolved
  obtain ⟨-, otherLeaves, placements, otherFlat, placed, rfl⟩ := run_eq_ok_iff.1 imported
  obtain rfl := Except.ok.inj (flat.symm.trans otherFlat)
  refine ⟨_, placements, imported, Import.records_foldl_add rules target placements, ?_⟩
  exact ImportTarget.placedAs_of_lands unhinted listed
    (placed.imp fun _ _ => ImportTarget.lands_of_place)

theorem exists_shown_condensed (faithful : document.Faithful target.locales code)
    (unhinted : target.hint? = none) (owned : target.Owned)
    (nested : document.height ≤ rules.maxDepth)
    (distinct : (target.locales.map (·.id)).Nodup) (project : Project) :
    ∃ made, rules.run target document = .ok made ∧
      made.shown project target.locales ⟨code, [], rules.contextSeparator⟩ =
        .ok document.condensed := by
  obtain ⟨made, placements, imported, records, placed⟩ :=
    exists_run_placedAs faithful unhinted owned nested
  have keyed : ∀ placement ∈ placements, placement.categoryKey ≠ "" := by
    intro placement member
    obtain ⟨_, _, _, _, _, atSlot⟩ := placed.leaf_of_placement placement member
    exact Placement.categoryKey_ne_empty atSlot
  obtain ⟨out, shown, pruned, shows⟩ := records.shown_eq_ok project keyed distinct
    (fun _ inside held => faithful.code_ne_empty distinct placed records inside held)
    rules.contextSeparator
  have textual := faithful.textual
  have condensed : document.condensed.Pruned := by
    obtain ⟨members, rfl, -⟩ := faithful.nonempty
    exact textual.condensed_pruned
  -- Both documents are pruned, and the listing shows the texts of the one that was imported.
  have same : out = document.condensed := by
    refine pruned.eq_of_filledAt?_eq condensed fun path => Option.ext fun text => ?_
    rw [shows, textual.filledAt?_condensed]
    refine Listing.shows_iff_of_mem_iff (fun path text filled => ?_) path text
    exact faithful.mem_listing_iff distinct placed records project filled
  exact ⟨made, imported, shown.trans (congrArg Except.ok same)⟩

theorem exists_ofSettings {settings : Settings}
    (suffixed : settings.interpolation.interpolationCloser ≠ "") : ∃ rules,
      ofSettings settings = .ok rules ∧ rules.contextSeparator = settings.contextSeparator ∧
        rules.maxDepth = settings.maxDepth := by
  obtain ⟨pattern, -, made⟩ := ofSettings_eq_ok suffixed
  exact ⟨_, made, rfl, rfl⟩

/-- A faithful document that was imported is exported with its numbers as texts, and without empty
texts and empty objects. Without any of these it is exported as it is. -/
theorem run_shown_condensed {settings : Settings}
    (suffixed : settings.interpolation.interpolationCloser ≠ "")
    (unhinted : target.hint? = none) (distinct : (target.locales.map (·.id)).Nodup)
    (owned : target.Owned) (faithful : document.Faithful target.locales code)
    (nested : document.height ≤ settings.maxDepth) (project : Project) :
    ∃ rules made, ofSettings settings = .ok rules ∧ rules.run target document = .ok made ∧
      made.shown project target.locales ⟨code, [], settings.contextSeparator⟩ =
        .ok document.condensed ∧
      (document.Filled → document.condensed = document) := by
  obtain ⟨rules, ofSettings, separator, depth⟩ := exists_ofSettings suffixed
  rw [← depth] at nested
  obtain ⟨made, imported, shown⟩ :=
    exists_shown_condensed faithful unhinted owned nested distinct project
  rw [separator] at shown
  exact ⟨rules, made, ofSettings, imported, shown, Json.Filled.condensed_eq⟩

def crowdedDocument : Json := .object [("en", .object [
  ("", .string "Blank"), ("friend", .string "Friend"),
  ("friend_male", .object [("one", .string "Mate"), ("two", .string "")]),
  ("friend_male_one", .number (.integer 1))])]

theorem crowdedDocument_objects {path : List String} {members : List (String × Json)}
    (located : crowdedDocument.at? path = some (.object members)) :
    path ∈ [[], ["en"], ["en", "friend_male"]] := by
  rcases path with _ | ⟨top, _ | ⟨folder, _ | ⟨key, path⟩⟩⟩
  · simp
  · obtain ⟨inner, member, -⟩ := Json.exists_member_of_at? located
    obtain ⟨rfl, -⟩ := Prod.mk.inj (List.mem_singleton.1 member)
    simp
  · obtain ⟨inner, member, below⟩ := Json.exists_member_of_at? located
    obtain ⟨rfl, rfl⟩ := Prod.mk.inj (List.mem_singleton.1 member)
    obtain ⟨value, inside, same⟩ := Json.exists_member_of_at? below
    obtain rfl := Option.some.inj same
    simp at inside
    simp [inside]
  · obtain ⟨inner, member, below⟩ := Json.exists_member_of_at? located
    obtain ⟨rfl, rfl⟩ := Prod.mk.inj (List.mem_singleton.1 member)
    obtain ⟨value, inside, deeper⟩ := Json.exists_member_of_at? below
    simp only [List.mem_cons, Prod.mk.injEq, List.not_mem_nil, or_false] at inside
    rcases inside with ⟨-, rfl⟩ | ⟨-, rfl⟩ | ⟨-, rfl⟩ | ⟨-, rfl⟩
    · cases deeper
    · cases deeper
    · obtain ⟨leaf, leafInside, deepest⟩ := Json.exists_member_of_at? deeper
      simp only [List.mem_cons, Prod.mk.injEq, List.not_mem_nil, or_false] at leafInside
      rcases leafInside with ⟨-, rfl⟩ | ⟨-, rfl⟩ <;> cases path <;> cases deepest
    · cases deeper

theorem crowdedDocument_faithful : crowdedDocument.Faithful Locale.starters .iso1 where
  textual := by
    refine .object (by decide) ?_
    simp only [List.forall_mem_cons]
    refine ⟨.object (by decide) ?_, by simp⟩
    simp only [List.forall_mem_cons]
    refine ⟨.string _, .string _, .object (by decide) ?_, .number _, by simp⟩
    simp only [List.forall_mem_cons]
    exact ⟨.string _, .string _, by simp⟩
  nonempty := ⟨_, rfl, by simp⟩
  named key value located := by
    obtain ⟨inner, member, same⟩ := Json.exists_member_of_at? located
    obtain ⟨rfl, rfl⟩ := Prod.mk.inj (List.mem_singleton.1 member)
    obtain rfl := Option.some.inj same
    exact ⟨⟨_, rfl⟩, _, rfl, rfl⟩
  dotless path key members under located := by
    have listed := crowdedDocument_objects located
    simp only [List.mem_cons, List.not_mem_nil, or_false] at listed
    rcases listed with none | atTop | below
    · simp at none
    · exact absurd (List.append_inj' (atTop.trans (List.nil_append _).symm) rfl).1 under
    · have split : path ++ [key] = ["en"] ++ ["friend_male"] := below
      obtain rfl := (List.cons.inj (List.append_inj' split rfl).2).1
      decide
  rootless top folder key text leaf := by
    have inside : crowdedDocument.textAt? ([top, folder] ++ [key]) = some text := leaf
    obtain ⟨members, located⟩ := Json.exists_object_of_textAt? inside (List.cons_ne_nil key [])
    have listed := crowdedDocument_objects located
    simp only [List.mem_cons, List.cons.injEq, List.not_mem_nil, or_false] at listed
    obtain ⟨-, rfl⟩ : top = "en" ∧ folder = "friend_male" := by simpa using listed
    decide

theorem crowdedDocument_run_shown_condensed : ∃ rules made,
    ofSettings .standard = .ok rules ∧ rules.run sampleTarget crowdedDocument = .ok made ∧
      made.shown sampleTarget.owner sampleTarget.locales ⟨.iso1, [], "_"⟩ =
        .ok (.object [("en", .object [
          ("", .string "Blank"), ("friend", .string "Friend"),
          ("friend_male", .object [("one", .string "Mate")]),
          ("friend_male_one", .string "1")])]) := by
  have suffixed : Settings.standard.interpolation.interpolationCloser ≠ "" := by decide
  have distinct : (sampleTarget.locales.map (·.id)).Nodup := by decide
  have owned : sampleTarget.Owned := ⟨by decide, by decide, by decide⟩
  have nested : crowdedDocument.height ≤ Settings.standard.maxDepth := by decide
  obtain ⟨rules, made, ofStandard, imported, shown, -⟩ := run_shown_condensed suffixed rfl
    distinct owned crowdedDocument_faithful nested sampleTarget.owner
  exact ⟨rules, made, ofStandard, imported, shown⟩

/-! ## Exported documents -/

theorem exists_keyed_records {made : Import} (imported : rules.run target document = .ok made) :
    ∃ placements, made.Records rules.inferrer placements ∧
      ∀ placement ∈ placements, placement.categoryKey ≠ "" := by
  obtain ⟨-, leaves, placements, -, placed, rfl⟩ := run_eq_ok_iff.1 imported
  refine ⟨placements, Import.records_foldl_add rules target placements, ?_⟩
  intro placement member
  obtain ⟨path, -, located⟩ := exists_result_of_forall₂ placed.flip member
  exact ImportTarget.categoryKey_ne_empty_of_place located

theorem positioned_of_shows {made : Import} {inferrer : Inferrer} {placements : List Placement}
    (records : made.Records inferrer placements) {locales : List Locale}
    (distinct : (locales.map (·.id)).Nodup) {separator : String} {project : Project} {out : Json}
    (resolved : ∀ locale ∈ locales,
      (∃ category ∈ made.categories.values, category.holds locale.id = true) →
        ∃ other, Locale.resolve? locales (locale.code code) = some other ∧
          other.code code = locale.code code)
    (shows : ∀ path text, out.filledAt? path = some text ↔
      ((made.overview project locales).listing ⟨code, [], separator⟩).Shows path text) :
    out.Positioned locales code separator := by
  intro path text located
  obtain ⟨same, nonblank, -⟩ := (shows path text).1 located
  have listed := Listing.mem_of_textAt (same.symm ▸ nonblank)
  obtain ⟨locale, inside, slot, inLocale, found, rfl⟩ :=
    (records.mem_listing_iff project distinct code separator).1 listed
  obtain ⟨rendering, atRendering, -⟩ := Option.bind_eq_some_iff.1 found
  rw [inLocale] at atRendering
  obtain ⟨other, named, sameCode⟩ :=
    resolved locale inside (Import.exists_holds_iff.2 ⟨_, _, rendering, atRendering⟩)
  exact ⟨locale.code code, other, slot, named, sameCode, rfl⟩

theorem run_shown_again {made : Import} (imported : rules.run target document = .ok made)
    (distinct : (target.locales.map (·.id)).Nodup) (project : Project)
    (resolved : ∀ locale ∈ target.locales,
      (∃ category ∈ made.categories.values, category.holds locale.id = true) →
        ∃ other, Locale.resolve? target.locales (locale.code code) = some other ∧
          other.code code = locale.code code) :
    ∃ out, made.shown project target.locales ⟨code, [], rules.contextSeparator⟩ = .ok out ∧
      (out ≠ .object [] → out.height ≤ rules.maxDepth → ∃ again,
        rules.run target.unhinted out = .ok again ∧
          again.shown project target.locales ⟨code, [], rules.contextSeparator⟩ = .ok out) := by
  obtain ⟨placements, records, keyed⟩ := exists_keyed_records imported
  have coded : ∀ locale ∈ target.locales,
      (∃ category ∈ made.categories.values, category.holds locale.id = true) →
        locale.code code ≠ "" := by
    intro locale inside held
    obtain ⟨other, named, -⟩ := resolved locale inside held
    exact Locale.ne_empty_of_resolve? named
  obtain ⟨out, shown, pruned, shows⟩ :=
    records.shown_eq_ok project keyed distinct coded rules.contextSeparator
  refine ⟨out, shown, fun nonempty nested => ?_⟩
  have filled := pruned.filled nonempty
  have positioned := positioned_of_shows records distinct resolved shows
  obtain ⟨checked, -⟩ := run_eq_ok_iff.1 imported
  obtain ⟨-, owned, -⟩ := ImportTarget.check_eq_ok_iff.1 checked
  have faithful : out.Faithful target.unhinted.locales code := filled.faithful positioned
  -- A filled document is condensed already, so that it is shown as it is.
  have again := exists_shown_condensed faithful rfl owned nested distinct project
  rwa [filled.condensed_eq] at again

def dottedDocument : Json := .object [("en", .object [
  ("__root__", .object [("title", .string "Home")]),
  ("a", .object [("b", .object [("c", .string "later")])]),
  ("a.b", .object [("c", .string "former"), ("c_", .string "")])])]

def dottedPlacements : List Placement := [
  ⟨"en-GB", "__root__", "__root__", "title", none, "Home"⟩,
  ⟨"en-GB", "a.b", "a.b", "c", none, "former"⟩,
  ⟨"en-GB", "a.b", "a.b", "c_", none, ""⟩,
  ⟨"en-GB", "a.b", "b", "c", none, "later"⟩]

theorem dottedDocument_run : standard.run sampleTarget dottedDocument =
    .ok (dottedPlacements.foldl (Import.add standard sampleTarget) Import.empty) := by
  have sorted : sampleTarget.paths [["en", "__root__", "title", "Home"],
      ["en", "a", "b", "c", "later"], ["en", "a.b", "c", "former"], ["en", "a.b", "c_", ""]] =
      [["en", "__root__", "title", "Home"], ["en", "a.b", "c", "former"], ["en", "a.b", "c_", ""],
        ["en", "a", "b", "c", "later"]] := by
    simp [ImportTarget.paths, sampleTarget, LeafPath.sort, List.mergeSort, LeafPath.precedes,
      Dotted.join]
  refine run_eq_ok_iff.2 ⟨rfl, _, dottedPlacements, rfl, ?_, rfl⟩
  refine sorted ▸ ?_
  exact mapM_eq_ok_iff.1 rfl

theorem dottedDocument_run_shown_again : ∃ made out again,
    standard.run sampleTarget dottedDocument = .ok made ∧
    made.shown sampleTarget.owner Locale.starters ⟨.iso1, [], "_"⟩ = .ok out ∧
    out = .object [("en", .object [
      ("a", .object [("b", .object [("c", .string "later")])]), ("title", .string "Home")])] ∧
    standard.run sampleTarget.unhinted out = .ok again ∧
    again.shown sampleTarget.owner Locale.starters ⟨.iso1, [], "_"⟩ = .ok out := by
  have distinct : (Locale.starters.map (·.id)).Nodup := by decide
  let made := dottedPlacements.foldl (Import.add standard sampleTarget) Import.empty
  have resolved : ∀ locale ∈ Locale.starters,
      (∃ category ∈ made.categories.values, category.holds locale.id = true) →
        ∃ other, Locale.resolve? Locale.starters (locale.code .iso1) = some other ∧
          other.code .iso1 = locale.code .iso1 := by
    simp only [Locale.starters, List.forall_mem_cons]
    exact ⟨fun _ => ⟨_, rfl, rfl⟩, fun _ => ⟨_, rfl, rfl⟩, fun _ => ⟨_, rfl, rfl⟩,
      fun _ => ⟨_, rfl, rfl⟩, by simp⟩
  obtain ⟨out, shown, twice⟩ :=
    run_shown_again dottedDocument_run distinct sampleTarget.owner resolved
  have exported : (made.overview sampleTarget.owner Locale.starters).export ⟨.iso1, [], "_"⟩ =
      .ok (Trie.ofLabels [(["en", "title"], "Home"), (["en", "a", "b", "c"], "later"),
        (["en", "a", "b", "c_"], "")]) := by
    refine (Overview.export_eq_ok_iff ?_ _ _).2 ⟨?_, ?_⟩
    · decide
    · decide
    · exact congrArg Trie.ofLabels (by decide)
  have written : made.shown sampleTarget.owner Locale.starters ⟨.iso1, [], "_"⟩ =
      .ok (.object [("en", .object [
        ("a", .object [("b", .object [("c", .string "later")])]),
        ("title", .string "Home")])]) := by
    rw [Import.shown_eq made sampleTarget.owner distinct, exported]
    rfl
  obtain rfl := Except.ok.inj (shown.symm.trans written)
  obtain ⟨again, imported, shownAgain⟩ := twice (by simp) (by decide)
  exact ⟨made, _, again, dottedDocument_run, shown, rfl, imported, shownAgain⟩

end ImportRules

end Phrasebook
