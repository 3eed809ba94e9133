import Phrasebook.Json.Codec
import Phrasebook.Trie.Basic

namespace Phrasebook

variable {α : Type}

namespace Branch

mutual

def encode (below : String) (members : α → List (String × Json)) : Branch α → Json
  | node label children =>
    let inner := encodeChildren below members children
    Json.ofMembers (members label ++ if inner.isEmpty then [] else [(below, .object inner)])
termination_by structural branch => branch

def encodeChildren (below : String) (members : α → List (String × Json)) :
    List (String × Branch α) → List (String × Json)
  | [] => []
  | (key, branch) :: rest => (key, branch.encode below members) :: encodeChildren below members rest
termination_by structural children => children

end

end Branch

def Trie.encode (below : String) (members : α → List (String × Json)) (trie : Trie α) : Json :=
  trie.branch.encode below members

end Phrasebook
