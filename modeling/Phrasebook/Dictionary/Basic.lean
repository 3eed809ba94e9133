import Phrasebook.Dictionary.Entries

namespace Phrasebook

structure Dictionary (α : Type) where
  entries : List (String × α)
  ascending : Entries.Ascending entries
deriving DecidableEq

namespace Dictionary

variable {α β : Type}

instance : EmptyCollection (Dictionary α) := ⟨⟨[], .nil⟩⟩

instance : Inhabited (Dictionary α) := ⟨∅⟩

def get? (dictionary : Dictionary α) (key : String) : Option α := dictionary.entries.lookup key

def contains (dictionary : Dictionary α) (key : String) : Bool := (dictionary.get? key).isSome

def alter (dictionary : Dictionary α) (key : String) (change : Option α → α) : Dictionary α :=
  ⟨Entries.alter key change dictionary.entries, dictionary.ascending.alter key change⟩

def insert (dictionary : Dictionary α) (key : String) (value : α) : Dictionary α :=
  dictionary.alter key fun _ => value

def insertNew (dictionary : Dictionary α) (key : String) (value : α) : Dictionary α :=
  dictionary.alter key (·.getD value)

def merge (combine : α → α → α) (dictionary other : Dictionary α) : Dictionary α :=
  ⟨Entries.merge combine dictionary.entries other.entries, dictionary.ascending.merge _ _⟩

def ofList (entries : List (String × α)) : Dictionary α :=
  ⟨Entries.ofList entries, Entries.ascending_ofList entries⟩

def mapValues (image : String → α → β) (dictionary : Dictionary α) : Dictionary β :=
  ⟨dictionary.entries.map fun entry => (entry.1, image entry.1 entry.2),
    dictionary.ascending.mapValues image⟩

def filter (keep : String → α → Bool) (dictionary : Dictionary α) : Dictionary α :=
  ⟨dictionary.entries.filter fun entry => keep entry.1 entry.2, dictionary.ascending.filter _⟩

def keys (dictionary : Dictionary α) : List String := dictionary.entries.map (·.1)

def values (dictionary : Dictionary α) : List α := dictionary.entries.map (·.2)

def size (dictionary : Dictionary α) : Nat := dictionary.entries.length

def isEmpty (dictionary : Dictionary α) : Bool := dictionary.entries.isEmpty

@[simp] theorem get?_empty (query : String) : (∅ : Dictionary α).get? query = none := rfl

theorem get?_alter (dictionary : Dictionary α) (key : String) (change : Option α → α)
    (query : String) :
    (dictionary.alter key change).get? query =
      if query = key then some (change (dictionary.get? key)) else dictionary.get? query :=
  Entries.lookup_alter key change dictionary.entries dictionary.ascending query

theorem get?_insert (dictionary : Dictionary α) (key : String) (value : α) (query : String) :
    (dictionary.insert key value).get? query =
      if query = key then some value else dictionary.get? query :=
  dictionary.get?_alter key _ query

end Dictionary

end Phrasebook
