namespace Phrasebook.Dotted

def join : List String → String
  | [] => ""
  | [segment] => segment
  | segment :: next :: rest => segment ++ "." ++ join (next :: rest)

def pieces : List Char → List (List Char)
  | [] => [[]]
  | char :: rest =>
    if char = '.' then [] :: pieces rest
    else match pieces rest with
      | [] => [[char]]
      | piece :: others => (char :: piece) :: others

def split (key : String) : List String :=
  (pieces key.toList).map String.ofList

@[simp] theorem join_nil : join [] = "" := rfl

@[simp] theorem join_singleton (segment : String) : join [segment] = segment := rfl

theorem join_cons_cons (segment next : String) (rest : List String) :
    join (segment :: next :: rest) = segment ++ "." ++ join (next :: rest) := rfl

end Phrasebook.Dotted
