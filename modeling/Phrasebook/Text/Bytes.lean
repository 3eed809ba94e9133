/-!
# Byte positions in a text

Positions in messages are counted in bytes of the UTF-8 form, while texts are lists of characters:

* `byteLength` is the size of a text, additive over concatenation;
* `dropBytes?`, `takeBytes?` and `slice?` cut at byte positions and refuse a position inside a
  character or beyond the end;
* `boundaryBelow` and `boundaryAbove` move a position to the nearest character boundary.
-/

namespace Phrasebook.Text

def byteLength : List Char → Nat
  | [] => 0
  | char :: rest => char.utf8Size + byteLength rest

@[simp] theorem byteLength_nil : byteLength [] = 0 := rfl

@[simp] theorem byteLength_cons (char : Char) (rest : List Char) :
    byteLength (char :: rest) = char.utf8Size + byteLength rest := rfl

@[simp] theorem byteLength_append (front back : List Char) :
    byteLength (front ++ back) = byteLength front + byteLength back := by
  induction front with
  | nil => simp
  | cons char rest ih => simp [ih, Nat.add_assoc]

/-- The text behind its first `count` bytes, if these are whole characters. -/
def dropBytes? : Nat → List Char → Option (List Char)
  | 0, text => some text
  | _ + 1, [] => none
  | count + 1, char :: rest =>
    if char.utf8Size ≤ count + 1 then dropBytes? (count + 1 - char.utf8Size) rest else none
termination_by structural _ text => text

def takeBytes? : Nat → List Char → Option (List Char)
  | 0, _ => some []
  | _ + 1, [] => none
  | count + 1, char :: rest =>
    if char.utf8Size ≤ count + 1 then
      (takeBytes? (count + 1 - char.utf8Size) rest).map (char :: ·)
    else none
termination_by structural _ text => text

def slice? (start stop : Nat) (text : List Char) : Option (List Char) :=
  if start ≤ stop then (dropBytes? start text).bind (takeBytes? (stop - start)) else none

def boundaryBelow : Nat → List Char → Nat
  | _, [] => 0
  | position, char :: rest =>
    if char.utf8Size ≤ position then
      char.utf8Size + boundaryBelow (position - char.utf8Size) rest
    else 0

/-- The least character boundary that is not below `position`, or the end of the text. -/
def boundaryAbove : Nat → List Char → Nat
  | _, [] => 0
  | 0, _ :: _ => 0
  | position + 1, char :: rest => char.utf8Size + boundaryAbove (position + 1 - char.utf8Size) rest
termination_by structural _ text => text

end Phrasebook.Text
