import Phrasebook.Message.Marker

namespace Phrasebook

structure Token where
  kind : TokenKind
  text : String
  start : Nat
  stop : Nat
deriving DecidableEq, Repr

namespace Token

def endAt (position : Nat) : Token := ⟨.endOfText, "", position, position⟩

end Token

inductive Cut where
  | marker (marker : Marker)
  | char (char : Char)

namespace MarkerSet

/-- Cuts a text, of which `skip` characters still belong to the marker before. -/
def cutsFrom (set : MarkerSet) : (skip : Nat) → List Char → List Cut
  | _, [] => []
  | skip + 1, _ :: rest => set.cutsFrom skip rest
  | 0, char :: rest =>
    match set.match? (char :: rest) with
    | some marker => .marker marker :: set.cutsFrom (marker.text.toList.length - 1) rest
    | none => .char char :: set.cutsFrom 0 rest
termination_by structural _ text => text

def cuts (set : MarkerSet) (text : List Char) : List Cut := set.cutsFrom 0 text

end MarkerSet

namespace Token

def pendingLiteral (pending : List Char) (position : Nat) : List Token :=
  if pending.isEmpty then []
  else [⟨.literal, String.ofList pending.reverse, position - Text.byteLength pending, position⟩]

/-- The tokens of the cuts from a position on, where the pending characters lie just before it. -/
def ofCutsFrom (pending : List Char) (position : Nat) : List Cut → List Token
  | [] => pendingLiteral pending position ++ [endAt position]
  | .char char :: rest => ofCutsFrom (char :: pending) (position + char.utf8Size) rest
  | .marker marker :: rest =>
    let stop := position + Text.byteLength marker.text.toList
    pendingLiteral pending position ++ ⟨marker.kind, marker.text, position, stop⟩ ::
      ofCutsFrom [] stop rest

end Token

def MarkerSet.tokenize (set : MarkerSet) (text : String) : List Token :=
  Token.ofCutsFrom [] 0 (set.cuts text.toList)

end Phrasebook
