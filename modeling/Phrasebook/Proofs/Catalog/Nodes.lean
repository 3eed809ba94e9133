import Phrasebook.Proofs.Catalog.Sharing

namespace Phrasebook

theorem Category.path_eq_nil_iff_isRoot {category : Category} :
    category.path = [] ↔ category.isRoot = true := by
  by_cases root : category.isRoot = true <;> simp [path, root, Dotted.split_ne_nil]

theorem Category.key_ne_empty_of_path_ne_nil {category : Category} (notRoot : category.path ≠ []) :
    category.key ≠ "" := by
  intro blank
  exact notRoot (path_eq_nil_iff_isRoot.2 (by simp [isRoot, blank]))

namespace CategoryTree

def Stores (tree : CategoryTree) (category : Category) : Prop :=
  ∃ path node, tree.get? path = some node ∧ node.label = some category

theorem stores_iff {tree : CategoryTree} {category : Category} :
    tree.Stores category ↔ ∃ path, tree.labelAt? path = some (some category) := by
  refine exists_congr fun path => ?_
  rw [← Trie.map_label_get?, Option.map_eq_some_iff]

variable {categories others : List Category} {path : List String} {node : CategoryTree}

theorem isSome_get?_ofCategories : ((ofCategories categories).get? path).isSome ↔
    path = [] ∨ ∃ category ∈ categories, path <+: category.path := by
  rw [Trie.isSome_get?, isSome_labelAt?_ofCategories]

theorem label_eq_first? (located : (ofCategories categories).get? path = some node) :
    node.label = first? categories path := by
  refine labelAt?_ofCategories ?_
  rw [← Trie.map_label_get?, located, Option.map_some]

theorem label_eq_some_iff (distinct : (categories.map (·.key)).Nodup)
    (located : (ofCategories categories).get? path = some node) {category : Category} :
    node.label = some category ↔ category ∈ categories ∧ category.path = path ∧
      (path = [] → ∀ other ∈ categories, other.isRoot = true → category.key ≤ other.key) := by
  rw [label_eq_first? located, first?_eq_some_iff distinct]
  refine and_congr_right fun _ => and_congr_right fun atPath => ?_
  simp only [← Category.path_eq_nil_iff_isRoot]
  constructor
  · rintro least rfl other member root
    exact least other member root
  · intro least other member otherAtPath
    by_cases root : path = []
    · exact least root other member (otherAtPath.trans root)
    · have keyed := Category.key_ne_empty_of_path_ne_nil (atPath ▸ root)
      have otherKeyed := Category.key_ne_empty_of_path_ne_nil (otherAtPath ▸ root)
      have same := Category.key_eq_of_path_eq keyed otherKeyed (atPath.trans otherAtPath.symm)
      exact same.le

theorem label_eq_none_iff (located : (ofCategories categories).get? path = some node) :
    node.label = none ↔ ∀ category ∈ categories, category.path ≠ path := by
  rw [label_eq_first? located, first?, List.head?_eq_none_iff, List.filter_eq_nil_iff]
  simp

theorem path_of_labelAt? {category : Category}
    (located : (ofCategories categories).labelAt? path = some (some category)) :
    category.path = path :=
  (mem_of_first? (labelAt?_ofCategories located).symm).2

theorem holdsBelow_iff_stores (located : (ofCategories categories).get? path = some node)
    (localeId : String) : node.holdsBelow localeId = true ↔
      ∃ category, (ofCategories categories).Stores category ∧ path <+: category.path ∧
        category.holds localeId = true := by
  simp only [holdsBelow, Trie.any_iff, Trie.labelAt?_of_get? located, stores_iff]
  constructor
  · rintro ⟨rest, category?, found, holds⟩
    obtain ⟨category, rfl, holds⟩ := (Option.any_eq_true _ _).1 holds
    refine ⟨category, ⟨_, found⟩, ?_, holds⟩
    rw [path_of_labelAt? found]
    exact List.prefix_append path rest
  · rintro ⟨category, ⟨place, found⟩, ⟨rest, through⟩, holds⟩
    obtain rfl := path_of_labelAt? found
    exact ⟨rest, some category, through ▸ found, holds⟩

theorem ofCategories_perm (distinct : (categories.map (·.key)).Nodup)
    (perm : categories.Perm others) : ofCategories categories = ofCategories others := by
  have otherDistinct : (others.map (·.key)).Nodup := (perm.map _).nodup_iff.1 distinct
  have firsts : ∀ path, first? categories path = first? others path := by
    intro path
    ext category
    rw [first?_eq_some_iff distinct, first?_eq_some_iff otherDistinct]
    simp only [perm.mem_iff]
  refine Trie.ext_labelAt? fun path => Dictionary.eq_of_isSome_iff ?_ ?_
  · simp only [isSome_labelAt?_ofCategories, perm.mem_iff]
  · intro label other here there
    rw [labelAt?_ofCategories here, labelAt?_ofCategories there, firsts]

/-- The tree of categories with different keys: its nodes, their categories and what they hold, for
every order of the list. -/
theorem ofCategories_nodes (distinct : (categories.map (·.key)).Nodup) :
    (∀ path, ((ofCategories categories).get? path).isSome ↔
      path = [] ∨ ∃ category ∈ categories, path <+: category.path) ∧
    (∀ path (node : CategoryTree), (ofCategories categories).get? path = some node →
      (∀ category, node.label = some category ↔ category ∈ categories ∧ category.path = path ∧
        (path = [] → ∀ other ∈ categories, other.isRoot = true → category.key ≤ other.key)) ∧
      (node.label = none ↔ ∀ category ∈ categories, category.path ≠ path) ∧
      ∀ localeId, (node.holdsBelow localeId = true ↔
          ∃ category, (ofCategories categories).Stores category ∧ path <+: category.path ∧
            category.holds localeId = true) ∧
        node.search (fun category? => category?.any (·.holds localeId)) =
          node.holdsBelow localeId) ∧
    ∀ others, categories.Perm others → ofCategories others = ofCategories categories := by
  refine ⟨fun path => isSome_get?_ofCategories, fun path node located => ?_,
    fun others perm => (ofCategories_perm distinct perm).symm⟩
  refine ⟨fun category => label_eq_some_iff distinct located, label_eq_none_iff located, ?_⟩
  exact fun localeId => ⟨holdsBelow_iff_stores located localeId, Trie.search_eq_any _ node⟩

def nestedCategories : List Category :=
  let owner : Project := ⟨"demo", "Demo", "ann", "acme"⟩
  let phrase : Phrase :=
    { Phrase.new "open" "open" owner with
      renderings := (∅ : Dictionary Rendering).insert "nb-NO"
        { Rendering.new "nb-NO" .imported owner with text := "Åpne" } }
  [{ Category.new "a.b.c" "c" owner with phrases := (∅ : Dictionary Phrase).insert "open" phrase },
    Category.new "a" "a" owner, Category.new Category.rootKey "Root" owner,
    Category.new "" "Root" owner]

theorem nestedCategories_nodes : (nestedCategories.map (·.key)).Nodup ∧
    (∃ root : CategoryTree, (ofCategories nestedCategories).get? [] = some root ∧
      root.label.map (·.key) = some "") ∧
    ∃ node : CategoryTree, (ofCategories nestedCategories).get? ["a", "b"] = some node ∧
      node.label = none ∧ node.holdsBelow "nb-NO" = true := by
  have distinct : (nestedCategories.map (·.key)).Nodup := by decide
  obtain ⟨isNode, shows, -⟩ := ofCategories_nodes distinct
  obtain ⟨root, atRoot⟩ := Option.isSome_iff_exists.1 ((isNode []).2 (.inl rfl))
  obtain ⟨node, atNode⟩ := Option.isSome_iff_exists.1 ((isNode ["a", "b"]).2 (.inr (by decide)))
  obtain ⟨leaf, atLeaf⟩ :=
    Option.isSome_iff_exists.1 ((isNode ["a", "b", "c"]).2 (.inr (by decide)))
  have first : root.label = some nestedCategories[3] :=
    ((shows _ _ atRoot).1 _).2 ⟨List.getElem_mem _, by decide, fun _ => by decide⟩
  have stored : leaf.label = some nestedCategories[0] :=
    ((shows _ _ atLeaf).1 _).2 ⟨List.getElem_mem _, by decide, nofun⟩
  obtain ⟨-, vacant, below⟩ := shows _ _ atNode
  refine ⟨distinct, ⟨root, atRoot, by rw [first]; rfl⟩, node, atNode, vacant.2 (by decide), ?_⟩
  exact (below "nb-NO").1.2 ⟨_, ⟨_, leaf, atLeaf, stored⟩, by decide, by decide⟩

end CategoryTree

end Phrasebook
