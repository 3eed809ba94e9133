import Phrasebook.Catalog.Codecs
import Phrasebook.Locale.Basic
import Phrasebook.Trie.Codec

namespace Phrasebook

instance {α : Type} : Label (Option α) where
  blank := none
  combine first second := first <|> second

abbrev CategoryTree := Trie (Option Category)

namespace CategoryTree

def precedes (category other : Category) : Bool :=
  category.path.length < other.path.length ||
    (category.path.length == other.path.length && category.key ≤ other.key)

def ofCategories (categories : List Category) : CategoryTree :=
  (categories.mergeSort precedes).foldl
    (fun tree category => tree.graft category.path (Trie.leaf (some category))) Trie.blank

def holds (tree : CategoryTree) (localeId : String) : Bool :=
  tree.label.any (·.holds localeId)

def holdsBelow (tree : CategoryTree) (localeId : String) : Bool :=
  tree.any fun category? => category?.any (·.holds localeId)

end CategoryTree

def CategoryTree.encode (tree : CategoryTree) : Json :=
  Trie.encode "categories" (fun category? =>
    Json.optionalMember "category" (category?.map Category.encode)) tree

structure Overview where
  project : Project
  locales : Dictionary Locale
  categories : Dictionary Category
  tree : CategoryTree

structure LocaleShare where
  locale : Locale
  categories : List Category

namespace Overview

/-- The overview of locales and categories; of several with one identifier or key the last. -/
def ofLists (project : Project) (locales : List Locale) (categories : List Category) : Overview :=
  let byKey := Dictionary.ofList (categories.map fun category => (category.key, category))
  { project
    locales := Dictionary.ofList (locales.map fun locale => (locale.id, locale))
    categories := byKey
    tree := CategoryTree.ofCategories byKey.values }

def shares (overview : Overview) : Dictionary LocaleShare :=
  (overview.locales.filter fun _ locale => overview.tree.holdsBelow locale.id).mapValues
    fun _ locale => ⟨locale, overview.categories.values.filter (·.holds locale.id)⟩

def encode (overview : Overview) : Json :=
  Json.ofMembers [
    ("project", overview.project.encode),
    ("locales", Json.ofDictionary (overview.locales.mapValues fun _ locale => locale.encode)),
    ("categories",
      Json.ofDictionary (overview.categories.mapValues fun _ category => category.encode)),
    ("category_tree", overview.tree.encode)]

end Overview

end Phrasebook
