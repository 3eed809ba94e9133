import Phrasebook.Import.Title
import Phrasebook.Proofs.Text.Case

namespace Phrasebook.Title

open Text

variable {key word : List Char}

/-! ## Words -/

theorem flatten_finish (word : List Char) : (finish word).flatten = word := by
  cases word <;> simp [finish]

theorem filled_finish (word : List Char) : ∀ part ∈ finish word, part ≠ [] := by
  cases word <;> simp [finish]

theorem flatten_wordsFrom (previous? : Option Char) (word text : List Char) :
    (wordsFrom previous? word text).flatten =
      word ++ (text.filter (!isSeparator ·)).flatMap lowerChar := by
  induction text generalizing previous? word with
  | nil => simp [wordsFrom, flatten_finish]
  | cons char rest ih =>
    rw [wordsFrom]
    split
    · rename_i separator
      simp [ih, flatten_finish, separator]
    · rename_i inner
      split <;> simp [ih, flatten_finish, inner]

theorem flatten_words (key : List Char) :
    (words key).flatten = (key.filter (!isSeparator ·)).flatMap lowerChar :=
  flatten_wordsFrom none [] key

theorem filled_wordsFrom (previous? : Option Char) (word text : List Char) :
    ∀ part ∈ wordsFrom previous? word text, part ≠ [] := by
  induction text generalizing previous? word with
  | nil => exact filled_finish word
  | cons char rest ih =>
    rw [wordsFrom]
    split
    · exact List.forall_mem_append.2 ⟨filled_finish word, ih _ _⟩
    · split
      · exact List.forall_mem_append.2 ⟨filled_finish word, ih _ _⟩
      · exact ih _ _

/-! ## Plain words -/

structure Plain (char : Char) : Prop where
  ascii : char.toNat < 128
  inner : isSeparator char = false
  small : char.toLower = char

namespace Plain

variable {char : Char}

theorem lowerChar (plain : Plain char) : Text.lowerChar char = [char] := by
  rw [lowerChar_ascii plain.ascii, plain.small]

theorem isUpper (plain : Plain char) : Text.isUpper char = false := by
  rw [isUpper_ascii plain.ascii, ← plain.small]
  exact (toLower_ascii plain.ascii).2.1

end Plain

theorem isSeparator_toLower {char : Char} (ascii : char.toNat < 128) :
    isSeparator char.toLower = isSeparator char :=
  forall_ascii (fun char => isSeparator char.toLower = isSeparator char) (by decide +kernel) ascii

theorem isSeparator_toUpper {char : Char} (ascii : char.toNat < 128) :
    isSeparator char.toUpper = isSeparator char :=
  forall_ascii (fun char => isSeparator char.toUpper = isSeparator char) (by decide +kernel) ascii

theorem plain_toLower {char : Char} (ascii : char.toNat < 128) (inner : isSeparator char = false) :
    Plain char.toLower where
  ascii := (toLower_ascii ascii).1
  inner := (isSeparator_toLower ascii).trans inner
  small := (toLower_ascii ascii).2.2

theorem flatten_words_ascii (ascii : IsAscii key) :
    (words key).flatten = (key.filter (!isSeparator ·)).map Char.toLower := by
  rw [flatten_words, flatMap_lowerChar_ascii]
  exact fun char member => ascii char (List.mem_filter.1 member).1

structure PlainWord (word : List Char) : Prop where
  filled : word ≠ []
  plain : ∀ char ∈ word, Plain char

theorem plainWord_of_mem_words (ascii : IsAscii key) (member : word ∈ words key) :
    PlainWord word := by
  refine ⟨filled_wordsFrom _ _ _ word member, fun char inside => ?_⟩
  have found : char ∈ (words key).flatten := List.mem_flatten.2 ⟨word, member, inside⟩
  rw [flatten_words_ascii ascii] at found
  obtain ⟨former, kept, rfl⟩ := List.mem_map.1 found
  obtain ⟨here, inner⟩ := List.mem_filter.1 kept
  exact plain_toLower (ascii former here) (by simpa using inner)

/-! ## Reading a title -/

def spaced (others : List (List Char)) : List Char := others.flatMap (' ' :: ·)

theorem mem_spaced {others : List (List Char)} {char : Char} (member : char ∈ spaced others) :
    char = ' ' ∨ ∃ other ∈ others, char ∈ other := by
  obtain ⟨other, inside, here⟩ := List.mem_flatMap.1 member
  rcases List.mem_cons.1 here with blank | here
  · exact .inl blank
  · exact .inr ⟨other, inside, here⟩

theorem intercalate_cons (word : List Char) (others : List (List Char)) :
    [' '].intercalate (word :: others) = word ++ spaced others := by
  induction others generalizing word with
  | nil => simp [spaced]
  | cons next rest ih =>
    rw [List.intercalate_cons_cons, ih]
    simp [spaced]

theorem wordsFrom_append_plain {part : List Char} (plain : ∀ char ∈ part, Plain char)
    (previous? : Option Char) (word rest : List Char) : ∃ previous'?,
      wordsFrom previous? word (part ++ rest) = wordsFrom previous'? (word ++ part) rest := by
  induction part generalizing previous? word with
  | nil => exact ⟨previous?, by simp⟩
  | cons char part ih =>
    have both := List.forall_mem_cons.1 plain
    obtain ⟨previous'?, read⟩ := ih both.2 (some char) (word ++ [char])
    refine ⟨previous'?, ?_⟩
    rw [List.cons_append, wordsFrom, if_neg (by simp [both.1.inner]),
      if_neg (by simp [isStart, both.1.isUpper]), both.1.lowerChar, read, List.append_assoc,
      List.singleton_append]

theorem finish_of_filled (filled : word ≠ []) : finish word = [word] := by
  cases word with
  | nil => exact absurd rfl filled
  | cons char rest => rfl

theorem wordsFrom_spaced {part : List Char} {others : List (List Char)} (previous? : Option Char)
    (filled : word ++ part ≠ []) (plain : ∀ char ∈ part, Plain char)
    (plainOthers : ∀ other ∈ others, PlainWord other) :
    wordsFrom previous? word (part ++ spaced others) = (word ++ part) :: others := by
  induction others generalizing previous? word part with
  | nil =>
    obtain ⟨previous'?, read⟩ := wordsFrom_append_plain plain previous? word []
    rw [spaced, List.flatMap_nil, read, wordsFrom, finish_of_filled filled]
  | cons next rest ih =>
    obtain ⟨previous'?, read⟩ := wordsFrom_append_plain plain previous? word (spaced (next :: rest))
    obtain ⟨plainNext, plainRest⟩ := List.forall_mem_cons.1 plainOthers
    have further : wordsFrom (some ' ') [] (next ++ spaced rest) = next :: rest :=
      ih (some ' ') plainNext.filled plainNext.plain plainRest
    rw [read, spaced, List.flatMap_cons, List.cons_append, wordsFrom, if_pos (by decide),
      finish_of_filled filled]
    exact congrArg ((word ++ part) :: ·) further

/-! ## Titles of plain words -/

def titleOf (first : Char) (tail : List Char) (others : List (List Char)) : List Char :=
  first.toUpper :: (tail ++ spaced others)

/-- Words without separators, with one blank between neighbours and no capital but in front. -/
structure IsSentence (title : List Char) : Prop where
  spaced : ∃ words : List (List Char), words ≠ [] ∧ title = [' '].intercalate words ∧
    ∀ word ∈ words, word ≠ [] ∧ ∀ char ∈ word, isSeparator char = false
  small : ∀ char ∈ title.tail, isUpper char = false

structure PlainWords (first : Char) (tail : List Char) (others : List (List Char)) : Prop where
  first : Plain first
  tail : ∀ char ∈ tail, Plain char
  others : ∀ other ∈ others, PlainWord other

theorem ofChars_singleton {char : Char} (ascii : char.toNat < 128) :
    ofChars [char] = [char.toUpper] :=
  upperChar_ascii ascii

theorem ofChars_of_long (long : 1 < key.length) : ofChars key =
    match [' '].intercalate (words key) with
    | [] => key
    | first :: rest => upperChar first ++ rest := by
  match key, long with
  | char :: next :: rest, _ => rfl

namespace PlainWords

variable {first : Char} {tail : List Char} {others : List (List Char)}
  (plain : PlainWords first tail others)
include plain

theorem plain_or_blank {char : Char} (member : char ∈ tail ++ spaced others) :
    Plain char ∨ char = ' ' := by
  rcases List.mem_append.1 member with here | behind
  · exact .inl (plain.tail char here)
  · rcases mem_spaced behind with blank | ⟨other, inside, here⟩
    · exact .inr blank
    · exact .inl ((plain.others other inside).plain char here)

theorem inner_toUpper : isSeparator first.toUpper = false :=
  (isSeparator_toUpper plain.first.ascii).trans plain.first.inner

theorem isAscii_titleOf : IsAscii (titleOf first tail others) := by
  refine List.forall_mem_cons.2 ⟨(toUpper_ascii plain.first.ascii).1, fun char member => ?_⟩
  rcases plain.plain_or_blank member with plainChar | rfl
  · exact plainChar.ascii
  · decide

theorem words_titleOf : words (titleOf first tail others) = (first :: tail) :: others := by
  obtain ⟨ascii, lowered, -⟩ := toUpper_ascii plain.first.ascii
  rw [words, titleOf, wordsFrom, if_neg (by simp [plain.inner_toUpper]),
    if_neg (by simp [isStart]), lowerChar_ascii ascii, lowered, plain.first.small,
    List.nil_append]
  exact wordsFrom_spaced _ (List.cons_ne_nil first _) plain.tail plain.others

theorem ofChars_of_words (long : 1 < key.length) (read : words key = (first :: tail) :: others) :
    ofChars key = titleOf first tail others := by
  rw [ofChars_of_long long, read, intercalate_cons, List.cons_append]
  simp only [upperChar_ascii plain.first.ascii]
  rfl

theorem ofChars_titleOf : ofChars (titleOf first tail others) = titleOf first tail others := by
  by_cases short : tail ++ spaced others = []
  · obtain ⟨ascii, -, upper⟩ := toUpper_ascii plain.first.ascii
    rw [titleOf, short, ofChars_singleton ascii, upper]
  · exact plain.ofChars_of_words (Nat.succ_lt_succ (List.length_pos_iff.2 short))
      plain.words_titleOf

theorem isSentence_titleOf : IsSentence (titleOf first tail others) where
  spaced := by
    refine ⟨(first.toUpper :: tail) :: others, List.cons_ne_nil _ _,
      (intercalate_cons (first.toUpper :: tail) others).symm, ?_⟩
    refine List.forall_mem_cons.2 ⟨⟨List.cons_ne_nil _ _, ?_⟩, fun other member => ?_⟩
    · exact List.forall_mem_cons.2
        ⟨plain.inner_toUpper, fun char member => (plain.tail char member).inner⟩
    · have plainOther := plain.others other member
      exact ⟨plainOther.filled, fun char inside => (plainOther.plain char inside).inner⟩
  small char member := by
    rcases plain.plain_or_blank member with plainChar | rfl
    · exact plainChar.isUpper
    · decide

end PlainWords

theorem ofChars_cases (ascii : IsAscii key) (long : 1 < key.length) :
    (words key = [] ∧ ofChars key = key) ∨
      ∃ first tail others, PlainWords first tail others ∧ words key = (first :: tail) :: others ∧
        ofChars key = titleOf first tail others := by
  have plain : ∀ word ∈ words key, PlainWord word := fun word => plainWord_of_mem_words ascii
  cases read : words key with
  | nil => exact .inl ⟨rfl, by rw [ofChars_of_long long, read]; rfl⟩
  | cons word others =>
    rw [read] at plain
    obtain ⟨plainWord, plainOthers⟩ := List.forall_mem_cons.1 plain
    obtain ⟨first, tail, rfl⟩ := List.exists_cons_of_ne_nil plainWord.filled
    obtain ⟨plainFirst, plainTail⟩ := List.forall_mem_cons.1 plainWord.plain
    have plainWords : PlainWords first tail others := ⟨plainFirst, plainTail, plainOthers⟩
    exact .inr ⟨first, tail, others, plainWords, rfl, plainWords.ofChars_of_words long read⟩

/-! ## Titles of ASCII keys -/

def letters (text : List Char) : List Char := Text.lower (text.filter (!isSeparator ·))

theorem letters_eq_flatten_words (ascii : IsAscii key) : letters key = (words key).flatten := by
  rw [flatten_words_ascii ascii]
  exact lower_ascii fun char member => ascii char (List.mem_filter.1 member).1

theorem letters_ofChars (ascii : IsAscii key) (filled : key ≠ []) :
    letters (ofChars key) = letters key := by
  match key, ascii, filled with
  | [], _, filled => exact absurd rfl filled
  | [char], ascii, _ =>
    have here := ascii char (List.mem_singleton_self char)
    obtain ⟨upperAscii, lowered, -⟩ := toUpper_ascii here
    have titleAscii : IsAscii [char.toUpper] := by simpa [IsAscii] using upperAscii
    rw [ofChars_singleton here, letters_eq_flatten_words ascii,
      letters_eq_flatten_words titleAscii, flatten_words_ascii ascii,
      flatten_words_ascii titleAscii]
    cases inner : isSeparator char <;> simp [isSeparator_toUpper here, inner, lowered]
  | char :: next :: rest, ascii, _ =>
    rcases ofChars_cases ascii (by simp) with
      ⟨-, same⟩ | ⟨first, tail, others, plain, read, title⟩
    · rw [same]
    · rw [title, letters_eq_flatten_words plain.isAscii_titleOf, plain.words_titleOf, ← read,
        letters_eq_flatten_words ascii]

theorem isSentence_ofChars (ascii : IsAscii key) (long : 1 < key.length)
    (lettered : ∃ char ∈ key, isSeparator char = false) : IsSentence (ofChars key) := by
  rcases ofChars_cases ascii long with ⟨none, -⟩ | ⟨first, tail, others, plain, -, title⟩
  · -- Without words the key would consist of separators.
    obtain ⟨char, member, inner⟩ := lettered
    have empty := flatten_words_ascii ascii
    rw [none, List.flatten_nil, eq_comm, List.map_eq_nil_iff, List.filter_eq_nil_iff] at empty
    exact absurd inner (by simpa using empty char member)
  · rw [title]
    exact plain.isSentence_titleOf

theorem ofChars_ofChars (ascii : IsAscii key) : ofChars (ofChars key) = ofChars key := by
  match key, ascii with
  | [], _ => decide
  | [char], ascii =>
    have here := ascii char (List.mem_singleton_self char)
    obtain ⟨upperAscii, -, upper⟩ := toUpper_ascii here
    rw [ofChars_singleton here, ofChars_singleton upperAscii, upper]
  | char :: next :: rest, ascii =>
    rcases ofChars_cases ascii (by simp) with ⟨-, same⟩ | ⟨first, tail, others, plain, -, title⟩
    · rw [same, same]
    · rw [title, plain.ofChars_titleOf]

/-- The title of an ASCII key keeps its letters and their order. If the key has more than one
character and not only separators, its title is a sentence. A title is its own title. -/
theorem ofKey_laws {key : String} (ascii : IsAscii key.toList) :
    (key ≠ "" → letters (ofKey key).toList = letters key.toList) ∧
    (1 < key.length → (∃ char ∈ key.toList, isSeparator char = false) →
      IsSentence (ofKey key).toList) ∧
    ofKey (ofKey key) = ofKey key := by
  simp only [ofKey, String.toList_ofList, ofChars_ofChars ascii, and_true]
  exact ⟨fun filled => letters_ofChars ascii fun none => filled (String.toList_inj.1 none),
    isSentence_ofChars ascii⟩

def parserKey : String := "_parseHTMLBody-v2.Done"

theorem parserKey_ofKey_laws :
    IsAscii parserKey.toList ∧ ofKey parserKey = "Parse html body v2 done" ∧
    letters (ofKey parserKey).toList = letters parserKey.toList ∧
    IsSentence (ofKey parserKey).toList ∧ ofKey (ofKey parserKey) = ofKey parserKey := by
  have ascii : IsAscii parserKey.toList := by decide
  have lettered : ∃ char ∈ parserKey.toList, isSeparator char = false :=
    ⟨'p', by decide, by decide⟩
  obtain ⟨kept, sentence, again⟩ := ofKey_laws ascii
  exact ⟨ascii, by decide, kept (by decide), sentence (by decide) lettered, again⟩

end Phrasebook.Title
