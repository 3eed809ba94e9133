import Phrasebook.Text.Blank
import Phrasebook.Text.Case

namespace Phrasebook.Title

def isSeparator (char : Char) : Bool :=
  char = '_' || char = '-' || char = '.' || Text.isBlank char

def isStart (previous? : Option Char) (char : Char) (next? : Option Char) : Bool :=
  Text.isUpper char && previous?.any fun previous =>
    Text.isLower previous || previous.isDigit ||
      (Text.isUpper previous && next?.any Text.isLower)

def finish (word : List Char) : List (List Char) := if word.isEmpty then [] else [word]

def wordsFrom (previous? : Option Char) (word : List Char) : List Char → List (List Char)
  | [] => finish word
  | char :: rest =>
    if isSeparator char then finish word ++ wordsFrom (some char) [] rest
    else if isStart previous? char rest.head? then
      finish word ++ wordsFrom (some char) (Text.lowerChar char) rest
    else wordsFrom (some char) (word ++ Text.lowerChar char) rest

def words (key : List Char) : List (List Char) := wordsFrom none [] key

/-- The words of a key with a blank between neighbours and a capital in front. A key of one
character is put in upper case, and one without words is its own title. -/
def ofChars (key : List Char) : List Char :=
  match key with
  | [] => "Root".toList
  | [char] => Text.upperChar char
  | key =>
    match [' '].intercalate (words key) with
    | [] => key
    | first :: rest => Text.upperChar first ++ rest

def ofKey (key : String) : String := String.ofList (ofChars key.toList)

end Phrasebook.Title
