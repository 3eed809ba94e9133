import Phrasebook.Json.Basic
import Phrasebook.Message.Segment

namespace Phrasebook

def Json.ofNat (value : Nat) : Json := .number (.integer value)

def Token.encode (token : Token) : Json :=
  Json.ofMembers [
    ("kind", .string token.kind.name), ("literal", .string token.text),
    ("start", Json.ofNat token.start), ("end", Json.ofNat token.stop)]

namespace Segment

def encodeLeaf (token : Token) : Json := Json.ofMembers [("token", token.encode)]

def encode (segment : Segment) : Json :=
  Json.ofMembers <|
    Json.optionalMember "left" (segment.key?.map encodeLeaf) ++
    Json.optionalMember "right" (segment.detail?.map encodeLeaf) ++
    [("token", segment.token.encode)]

end Segment

end Phrasebook
