import Phrasebook.Json.Shape

namespace Phrasebook

structure Codec (α : Type) where
  shape : Json.Shape
  encode : α → Json
  decode? : Json → Option α

/-- A text that was read but means nothing is told from one that could not be read. -/
def Codec.read {α : Type} (codec : Codec α) (text : String) : Except Json.Misread (Option α) :=
  (Json.whole (codec.shape Json.nestingLimit) text).map codec.decode?

namespace Json

variable {α : Type}

def required (name : String) (shape : Shape) : Field := ⟨name, shape, true⟩

def omissible (name : String) (shape : Shape) : Field := ⟨name, shape, false⟩

def dictionaryMember (key : String) (encode : α → Json) (dictionary : Dictionary α) :
    List (String × Json) :=
  if dictionary.isEmpty then []
  else [(key, ofDictionary (dictionary.mapValues fun _ value => encode value))]

def ofList (encode : α → Json) (values : List α) : Json := array (values.map encode)

def ofOption (encode : α → Json) : Option α → Json
  | some value => encode value
  | none => null

def textMember? (key : String) (json : Json) : Option String := (json.member? key).bind text?

def size? : Json → Option Nat
  | number (.integer value) => if value < 0 then none else some value.toNat
  | _ => none

def optional? (decode? : Json → Option α) : Json → Option (Option α)
  | null => some none
  | value => (decode? value).map some

def list? (decode? : Json → Option α) (json : Json) : Option (List α) :=
  json.elements?.bind fun elements => elements.mapM decode?

def dictionary? (decode? : Json → Option α) (json : Json) : Option (Dictionary α) :=
  json.members?.bind fun members =>
    (members.mapM fun entry => (decode? entry.2).map fun value => (entry.1, value)).map
      Dictionary.ofList

def memberOr (key : String) (absent : α) (decode? : Json → Option α) (json : Json) : Option α :=
  match json.member? key with
  | some value => decode? value
  | none => some absent

end Json

end Phrasebook
