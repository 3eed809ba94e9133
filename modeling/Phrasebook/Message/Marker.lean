import Phrasebook.Text.Bytes

namespace Phrasebook

inductive TokenKind where
  | endOfText
  | literal
  | interpolationOpener
  | interpolationCloser
  | nestingOpener
  | nestingCloser
  | formatSeparator
  | nestingSeparator
deriving DecidableEq, Repr

namespace TokenKind

def all : List TokenKind :=
  [endOfText, literal, interpolationOpener, interpolationCloser, nestingOpener, nestingCloser,
    formatSeparator, nestingSeparator]

def name : TokenKind → String
  | endOfText => "Eof"
  | literal => "Literal"
  | interpolationOpener => "InterpolationPrefix"
  | interpolationCloser => "InterpolationSuffix"
  | nestingOpener => "NestingPrefix"
  | nestingCloser => "NestingSuffix"
  | formatSeparator => "FormatSeparator"
  | nestingSeparator => "NestingSeparator"

def describe : TokenKind → String
  | endOfText => "EOF"
  | kind => kind.name

def ofName? (name : String) : Option TokenKind := all.find? (·.name == name)

end TokenKind

structure Marker where
  text : String
  kind : TokenKind
deriving DecidableEq, Repr

namespace Marker

/-- Whether a marker is tried before another one: the one with more bytes, and of two with equally
many the lesser text. -/
def precedes (marker other : Marker) : Bool :=
  let size := Text.byteLength marker.text.toList
  let otherSize := Text.byteLength other.text.toList
  otherSize < size || (size == otherSize && marker.text ≤ other.text)

def begins (marker : Marker) (text : List Char) : Bool := marker.text.toList.isPrefixOf text

end Marker

structure MarkerSet where
  markers : List Marker
deriving DecidableEq, Repr

namespace MarkerSet

def distinct : List Marker → List Marker
  | [] => []
  | marker :: rest =>
    if marker.text = "" then distinct rest
    else marker :: (distinct rest).filter (·.text ≠ marker.text)

def ofList (markers : List Marker) : MarkerSet :=
  ⟨(distinct markers).mergeSort Marker.precedes⟩

def standard : MarkerSet :=
  ofList [⟨"\x7b\x7b", .interpolationOpener⟩, ⟨"\x7d\x7d", .interpolationCloser⟩,
    ⟨",", .formatSeparator⟩, ⟨"$t(", .nestingOpener⟩, ⟨")", .nestingCloser⟩]

def textFor? (set : MarkerSet) (kind : TokenKind) : Option String :=
  (set.markers.find? (·.kind == kind)).map (·.text)

def match? (set : MarkerSet) (text : List Char) : Option Marker :=
  set.markers.find? (·.begins text)

end MarkerSet

end Phrasebook
