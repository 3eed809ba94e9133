import Phrasebook.Settings.Basic
import Phrasebook.Text.Blank

/-!
# The pattern of variables

Names of variables are also found in messages that cannot be understood, by a pattern: an opening
marker, blanks, a name, anything but the first character of the closing marker, and the closing
marker. A name ends at a blank, at the first character of the separator or at that of the closing
marker. Matches are taken from left to right and do not overlap.

The blanks are as many as possible. Where the closing marker itself starts with a blank they may
have to be fewer, so that it is found behind them.
-/

namespace Phrasebook

/-- The characters that the pattern is made of. The closing marker is `stop` and `closerRest`, and
so is never empty. -/
structure VariablePattern where
  opener : List Char
  separator? : Option Char
  stop : Char
  closerRest : List Char
deriving DecidableEq, Repr

structure Capture where
  start : Nat
  stop : Nat
  name : String
deriving DecidableEq, Repr

namespace VariablePattern

def ofSettings? (settings : MarkerSettings) : Option VariablePattern :=
  match settings.interpolationCloser.toList with
  | [] => none
  | stop :: closerRest =>
    some { opener := settings.interpolationOpener.toList
           separator? := settings.formatSeparator.toList.head?
           stop, closerRest }

def closer (pattern : VariablePattern) : List Char := pattern.stop :: pattern.closerRest

def isName (pattern : VariablePattern) (char : Char) : Bool :=
  !Text.isBlank char && char ≠ pattern.stop && some char ≠ pattern.separator?

def close? (pattern : VariablePattern) (text : List Char) : Option (List Char) :=
  let atStop := text.dropWhile (· ≠ pattern.stop)
  if pattern.closer.isPrefixOf atStop then some (atStop.drop pattern.closer.length) else none

def named? (pattern : VariablePattern) (text : List Char) : Option (List Char × List Char) :=
  (pattern.close? text).map fun rest => (text.takeWhile pattern.isName, rest)

/-- The name and the text behind the closing marker, from the text behind the opening marker. A
blank that was skipped in vain is tried only if it is a stop character: in front of any other one
the closing marker would be sought at the same place again. -/
def matchBehind? (pattern : VariablePattern) : List Char → Option (List Char × List Char)
  | [] => pattern.named? []
  | char :: rest =>
    if Text.isBlank char then
      match pattern.matchBehind? rest with
      | some found => some found
      | none => if char = pattern.stop then pattern.named? (char :: rest) else none
    else pattern.named? (char :: rest)

def match? (pattern : VariablePattern) (text : List Char) : Option (List Char × List Char) :=
  if pattern.opener.isPrefixOf text then pattern.matchBehind? (text.drop pattern.opener.length)
  else none

def capturesFrom (pattern : VariablePattern) : (skip position : Nat) → List Char → List Capture
  | _, _, [] => []
  | skip + 1, position, char :: rest =>
    pattern.capturesFrom skip (position + char.utf8Size) rest
  | 0, position, char :: rest =>
    match pattern.match? (char :: rest) with
    | none => pattern.capturesFrom 0 (position + char.utf8Size) rest
    | some (name, behind) =>
      let size := Text.byteLength (char :: rest) - Text.byteLength behind
      ⟨position, position + size, String.ofList name⟩ ::
        pattern.capturesFrom (rest.length - behind.length) (position + char.utf8Size) rest
termination_by structural _ _ text => text

def captures (pattern : VariablePattern) (text : String) : List Capture :=
  pattern.capturesFrom 0 0 text.toList

end VariablePattern

end Phrasebook
