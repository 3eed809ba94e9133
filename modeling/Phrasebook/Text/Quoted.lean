import Phrasebook.Text.VisibleTable

namespace Phrasebook.Text

def hexDigits (code : Nat) : List Char := Nat.toDigits 16 code

def quoteChar (char : Char) : List Char :=
  if char = '\x00' then ['\\', '0']
  else if char = '\t' then ['\\', 't']
  else if char = '\r' then ['\\', 'r']
  else if char = '\n' then ['\\', 'n']
  else if char = '\\' || char = '"' then ['\\', char]
  else if isMember attaching char || isMember unprintable char then
    ['\\', 'u', '\x7b'] ++ hexDigits char.toNat ++ ['\x7d']
  else [char]

def quote (text : String) : String :=
  String.ofList ('"' :: text.toList.flatMap quoteChar ++ ['"'])

def quoteList (texts : List String) : String :=
  "[" ++ ", ".intercalate (texts.map quote) ++ "]"

end Phrasebook.Text
