import Phrasebook.Catalog.Overview

namespace Phrasebook

structure Summary where
  categoriesCreated : Nat
  phrasesCreated : Nat
  renderingsCreated : Nat
  renderingsUpdated : Nat
  renderingsUnchanged : Nat
deriving DecidableEq, Repr

namespace Summary

def zero : Summary := ⟨0, 0, 0, 0, 0⟩

def add (summary other : Summary) : Summary where
  categoriesCreated := summary.categoriesCreated + other.categoriesCreated
  phrasesCreated := summary.phrasesCreated + other.phrasesCreated
  renderingsCreated := summary.renderingsCreated + other.renderingsCreated
  renderingsUpdated := summary.renderingsUpdated + other.renderingsUpdated
  renderingsUnchanged := summary.renderingsUnchanged + other.renderingsUnchanged

instance : Add Summary := ⟨add⟩

def total (summaries : List Summary) : Summary := summaries.foldr (· + ·) zero

def encode (summary : Summary) : Json :=
  let count (value : Nat) : Json := .number (.integer value)
  Json.ofMembers [
    ("categories_created", count summary.categoriesCreated),
    ("translations_created", count summary.phrasesCreated),
    ("values_created", count summary.renderingsCreated),
    ("values_updated", count summary.renderingsUpdated),
    ("values_unchanged", count summary.renderingsUnchanged)]

end Summary

/-- A rendering after another one was applied to it: it takes the texts and the origin if the texts
differ. -/
def Rendering.absorb (rendering other : Rendering) : Rendering :=
  if rendering.differsFrom other then
    { rendering with text := other.text, contexts := other.contexts, origin := other.origin }
  else rendering

def Phrase.absorb (phrase other : Phrase) : Phrase :=
  { phrase with
    examples := phrase.examples.merge (fun _ new => new) other.examples
    references := phrase.references.merge (fun former _ => former) other.references
    renderings := phrase.renderings.merge Rendering.absorb other.renderings }

def Category.absorb (category other : Category) : Category :=
  { category with
    phrases := category.phrases.merge Phrase.absorb other.phrases }

def Rendering.changes (rendering? : Option Rendering) (other : Rendering) : Summary :=
  match rendering? with
  | none => { Summary.zero with renderingsCreated := 1 }
  | some rendering =>
    if rendering.differsFrom other then { Summary.zero with renderingsUpdated := 1 }
    else { Summary.zero with renderingsUnchanged := 1 }

def Phrase.changes (phrase? : Option Phrase) (other : Phrase) : Summary :=
  match phrase? with
  | none =>
    { Summary.zero with phrasesCreated := 1, renderingsCreated := other.renderings.size }
  | some phrase =>
    Summary.total <| other.renderings.entries.map fun entry =>
      Rendering.changes (phrase.renderings.get? entry.1) entry.2

def Category.changes (category? : Option Category) (other : Category) : Summary :=
  match category? with
  | none =>
    { Summary.zero with categoriesCreated := 1 } +
      Summary.total (other.phrases.values.map (Phrase.changes none))
  | some category =>
    Summary.total <| other.phrases.entries.map fun entry =>
      Phrase.changes (category.phrases.get? entry.1) entry.2

structure Store where
  project : Project
  locales : List Locale
  categories : Dictionary Category

namespace Store

def new (project : Project) : Store := ⟨project, [], ∅⟩

def addLocale (store : Store) (locale : Locale) : Bool × Store :=
  if store.locales.any (·.id == locale.id) then (false, store)
  else (true, { store with locales := store.locales ++ [locale] })

def withLocales (store : Store) (locales : List Locale) : Store :=
  locales.foldl (fun store locale => (store.addLocale locale).2) store

def apply (store : Store) (categories : Dictionary Category) : Summary × Store :=
  (Summary.total <| categories.entries.map fun entry =>
      Category.changes (store.categories.get? entry.1) entry.2,
    { store with categories := store.categories.merge Category.absorb categories })

def overview (store : Store) (filter : List String) : Overview :=
  let locales := store.locales.filter fun locale =>
    filter.isEmpty || filter.any locale.isNamed
  Overview.ofLists store.project locales store.categories.values

end Store

end Phrasebook
