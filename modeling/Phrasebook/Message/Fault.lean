import Phrasebook.Message.Token

namespace Phrasebook

inductive MessageFault where
  | expectedLiteral (after found : TokenKind) (start stop : Nat)
  | unexpectedToken (found : TokenKind) (text : String) (previous? : Option TokenKind)
      (excerpt : String) (start stop : Nat)
  | unterminatedNesting (start stop : Nat)
  | tooManySegments (limit : Nat) (found : TokenKind) (start stop : Nat)
deriving DecidableEq, Repr

namespace MessageFault

def found : MessageFault → TokenKind
  | expectedLiteral _ found _ _ => found
  | unexpectedToken found _ _ _ _ _ => found
  | unterminatedNesting _ _ => .endOfText
  | tooManySegments _ found _ _ => found

def span : MessageFault → Nat × Nat
  | expectedLiteral _ _ start stop => (start, stop)
  | unexpectedToken _ _ _ _ start stop => (start, stop)
  | unterminatedNesting start stop => (start, stop)
  | tooManySegments _ _ start stop => (start, stop)

def message : MessageFault → String
  | expectedLiteral after found start stop =>
    s!"expected Literal after {after.describe}, found {found.describe} at position {start}-{stop}"
  | unexpectedToken found text previous? excerpt start stop =>
    let previous := (previous?.map TokenKind.describe).getD "start of input"
    s!"'{excerpt}' unexpected token-kind {found.describe} '{text}' following {previous}" ++
      s!" at position {start}-{stop}"
  | unterminatedNesting start stop =>
    s!"expected NestingSuffix for nesting started at {start}, but reached EOF at {stop}"
  | tooManySegments limit found start stop =>
    s!"expected EOF after {limit} nodes, gave up at {found.describe} at position {start}-{stop}"

end MessageFault

def excerptRadius : Nat := 10

def excerptMark : String := " ¦ "

/-- The surroundings of a place in a text, widened to whole characters, with the mark at the start
of the place. Parts that do not lie in the text are left out. -/
def excerpt (source : String) (start stop : Nat) : String :=
  let text := source.toList
  let first := Text.boundaryBelow (start - excerptRadius) text
  let last := Text.boundaryAbove (min (stop + excerptRadius) (Text.byteLength text)) text
  let before := (Text.slice? first start text).getD []
  let behind := (Text.slice? start last text).getD []
  String.ofList before ++ excerptMark ++ String.ofList behind

end Phrasebook
