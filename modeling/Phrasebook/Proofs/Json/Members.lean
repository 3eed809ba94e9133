import Phrasebook.Json.Codec
import Phrasebook.Proofs.Dictionary.Lookup

namespace Phrasebook

variable {α : Type}

def Codec.Lossless (codec : Codec α) : Prop :=
  ∀ value, codec.decode? (codec.encode value) = some value

theorem mapM_map_eq_some {β : Type} {image : α → β} {step : β → Option α}
    (undone : ∀ value, step (image value) = some value) (values : List α) :
    (values.map image).mapM step = some values := by
  induction values with
  | nil => rfl
  | cons value rest ih => simp [undone, ih]

namespace Json

theorem member?_ofMembers (members : List (String × Json)) (key : String) :
    (ofMembers members).member? key = members.reverse.lookup key :=
  Entries.lookup_ofList members key

def dictionaryValue? (encode : α → Json) (dictionary : Dictionary α) : Option Json :=
  if dictionary.isEmpty then none
  else some (ofDictionary (dictionary.mapValues fun _ value => encode value))

theorem lookup_dictionaryMember (key : String) (encode : α → Json) (dictionary : Dictionary α)
    (query : String) : (dictionaryMember key encode dictionary).reverse.lookup query =
      if query = key then dictionaryValue? encode dictionary else none := by
  unfold dictionaryMember dictionaryValue?
  by_cases empty : dictionary.isEmpty <;> by_cases same : query = key <;>
    simp [empty, same, Entries.lookup_cons_eq]

theorem bind_member?_dictionaryValue? (encode : α → Json) (dictionary : Dictionary α)
    (key : String) : (dictionaryValue? encode dictionary).bind (·.member? key) =
      (dictionary.get? key).map encode := by
  unfold dictionaryValue?
  by_cases empty : dictionary.isEmpty
  · rw [if_pos empty, Dictionary.eq_empty_of_isEmpty empty]
    rfl
  · rw [if_neg empty, Option.bind_some]
    exact Dictionary.get?_mapValues _ dictionary key

theorem text?_string (text : String) : text? (string text) = some text := rfl

variable {encode : α → Json} {decode? : Json → Option α}

theorem list?_ofList (lossless : ∀ value, decode? (encode value) = some value) (values : List α) :
    list? decode? (ofList encode values) = some values :=
  mapM_map_eq_some lossless values

theorem optional?_ofOption (lossless : ∀ value, decode? (encode value) = some value)
    (filled : ∀ value, encode value ≠ null) (value? : Option α) :
    optional? decode? (ofOption encode value?) = some value? := by
  cases value? with
  | none => rfl
  | some value =>
    have read : optional? decode? (encode value) = (decode? (encode value)).map some := by
      unfold optional?
      split
      · rename_i blank
        exact absurd blank (filled value)
      · rfl
    rw [ofOption, read, lossless, Option.map_some]

theorem dictionary?_ofDictionary (lossless : ∀ value, decode? (encode value) = some value)
    (dictionary : Dictionary α) :
    dictionary? decode? (ofDictionary (dictionary.mapValues fun _ value => encode value)) =
      some dictionary := by
  have entries : (dictionary.entries.map fun entry => (entry.1, encode entry.2)).mapM
      (fun entry => (decode? entry.2).map fun value => (entry.1, value)) =
        some dictionary.entries :=
    mapM_map_eq_some (fun entry => by rw [lossless, Option.map_some]) _
  rw [dictionary?, ofDictionary, Dictionary.mapValues, members?, Option.bind_some, entries,
    Option.map_some, Dictionary.ofList_entries]

theorem memberOr_dictionary (lossless : ∀ value, decode? (encode value) = some value)
    {json : Json} {key : String} {dictionary : Dictionary α}
    (written : json.member? key = dictionaryValue? encode dictionary) :
    json.memberOr key ∅ (dictionary? decode?) = some dictionary := by
  rw [memberOr, written, dictionaryValue?]
  by_cases empty : dictionary.isEmpty
  · rw [if_pos empty, Dictionary.eq_empty_of_isEmpty empty]
  · rw [if_neg empty]
    exact dictionary?_ofDictionary lossless dictionary

theorem size?_natCast (size : Nat) : size? (number (.integer size)) = some size := by
  simp [size?]

end Json

end Phrasebook
