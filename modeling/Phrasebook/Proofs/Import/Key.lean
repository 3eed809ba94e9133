import Mathlib.Data.List.Infix
import Mathlib.Data.List.TakeWhile
import Phrasebook.Import.Key

namespace Phrasebook.Key

/-! ## Repeats of the separator -/

theorem behindRepeats_eq_drop (separator : List Char) (skip : Nat) (text : List Char) :
    behindRepeats separator skip text = behindRepeats separator 0 (text.drop skip) := by
  induction text generalizing skip with
  | nil => cases skip <;> rfl
  | cons char rest ih =>
    cases skip with
    | zero => rfl
    | succ skip => exact ih skip

theorem behindRepeats_of_bare {separator text : List Char} (bare : ¬separator <+: text) :
    behindRepeats separator 0 text = text := by
  cases text with
  | nil => rfl
  | cons char rest => rw [behindRepeats, if_neg (by rwa [List.isPrefixOf_iff_prefix])]

theorem behindRepeats_append {separator : List Char} (filled : separator ≠ []) (rest : List Char) :
    behindRepeats separator 0 (separator ++ rest) = behindRepeats separator 0 rest := by
  cases separator with
  | nil => exact absurd rfl filled
  | cons mark marks =>
    have present : (mark :: marks).isPrefixOf (mark :: (marks ++ rest)) = true :=
      List.isPrefixOf_iff_prefix.2 (List.prefix_append (mark :: marks) rest)
    rw [List.cons_append, behindRepeats, if_pos present, behindRepeats_eq_drop]
    simp

theorem behindRepeats_repeats_append {separator : List Char} (filled : separator ≠ [])
    (count : Nat) (rest : List Char) :
    behindRepeats separator 0 ((List.replicate count separator).flatten ++ rest) =
      behindRepeats separator 0 rest := by
  induction count with
  | zero => rfl
  | succ count ih =>
    rw [List.replicate_succ, List.flatten_cons, List.append_assoc, behindRepeats_append filled, ih]

theorem behindRepeats_eq_iff {separator text rest : List Char} (filled : separator ≠ []) :
    behindRepeats separator 0 text = rest ↔
      (∃ count, text = (List.replicate count separator).flatten ++ rest) ∧
        ¬separator <+: rest := by
  constructor
  · rintro rfl
    induction size : text.length using Nat.strong_induction_on generalizing text with
    | _ bound ih =>
      by_cases present : separator <+: text
      · obtain ⟨behind, rfl⟩ := present
        have positive := List.length_pos_iff.2 filled
        rw [List.length_append] at size
        obtain ⟨⟨count, repeats⟩, bare⟩ := ih behind.length (by omega) rfl
        rw [behindRepeats_append filled]
        refine ⟨⟨count + 1, ?_⟩, bare⟩
        rw [List.replicate_succ, List.flatten_cons, List.append_assoc, ← repeats]
      · rw [behindRepeats_of_bare present]
        exact ⟨⟨0, rfl⟩, present⟩
  · rintro ⟨⟨count, rfl⟩, bare⟩
    rw [behindRepeats_repeats_append filled, behindRepeats_of_bare bare]

theorem exists_repeats_append {separator : List Char} (filled : separator ≠ []) (text : List Char) :
    ∃ count, text =
      (List.replicate count separator).flatten ++ behindRepeats separator 0 text :=
  ((behindRepeats_eq_iff filled).1 rfl).1

theorem behindRepeats_singleton (mark : Char) (text : List Char) :
    behindRepeats [mark] 0 text = text.dropWhile (· = mark) := by
  induction text with
  | nil => rfl
  | cons char rest ih =>
    rw [behindRepeats, List.dropWhile_cons]
    by_cases same : char = mark
    · simp [same, ih]
    · simp [same, Ne.symm same]

/-! ## The last separator -/

theorem eq_append_of_splitLast? {separator text before behind : List Char}
    (split : splitLast? separator text = some (before, behind)) :
    text = before ++ (separator ++ behind) := by
  induction text generalizing before with
  | nil => cases split
  | cons char rest ih =>
    rw [splitLast?] at split
    split at split
    · rename_i front back later
      obtain ⟨rfl, rfl⟩ := Prod.mk.inj (Option.some.inj split)
      rw [ih later, List.cons_append]
    · split at split
      · rename_i present
        obtain ⟨rfl, rfl⟩ := Prod.mk.inj (Option.some.inj split)
        obtain ⟨back, equal⟩ := List.isPrefixOf_iff_prefix.1 present
        rw [List.nil_append, ← equal, List.drop_left]
      · cases split

theorem not_infix_of_splitLast?_eq_none {separator text : List Char} (filled : separator ≠ [])
    (unsplit : splitLast? separator text = none) : ¬separator <:+: text := by
  induction text with
  | nil => simpa using filled
  | cons char rest ih =>
    rw [splitLast?] at unsplit
    split at unsplit
    · cases unsplit
    · rename_i later
      split at unsplit
      · cases unsplit
      · rename_i absent
        rw [List.infix_cons_iff, ← List.isPrefixOf_iff_prefix]
        exact not_or.2 ⟨absent, ih later⟩

theorem not_infix_of_splitLast? {separator text before behind : List Char}
    (filled : separator ≠ []) (split : splitLast? separator text = some (before, behind)) :
    ¬separator <:+: behind := by
  induction text generalizing before with
  | nil => cases split
  | cons char rest ih =>
    rw [splitLast?] at split
    split at split
    · rename_i front back later
      obtain ⟨-, rfl⟩ := Prod.mk.inj (Option.some.inj split)
      exact ih later
    · rename_i later
      split at split
      · obtain ⟨-, rfl⟩ := Prod.mk.inj (Option.some.inj split)
        obtain ⟨count, size⟩ := Nat.exists_eq_succ_of_ne_zero (mt List.length_eq_zero_iff.1 filled)
        rw [size, List.drop_succ_cons]
        intro inside
        apply not_infix_of_splitLast?_eq_none filled later
        exact inside.trans (List.drop_suffix count rest).isInfix
      · cases split

theorem splitLast?_singleton {mark : Char} (front : List Char) {behind : List Char}
    (bare : mark ∉ behind) :
    splitLast? [mark] (front ++ mark :: behind) = some (front, behind) := by
  induction front with
  | nil =>
    have later : splitLast? [mark] behind = none := by
      cases split : splitLast? [mark] behind with
      | none => rfl
      | some parts =>
        rw [eq_append_of_splitLast? split] at bare
        simp at bare
    rw [List.nil_append, splitLast?, later]
    simp
  | cons char rest ih => rw [List.cons_append, splitLast?, ih]

/-! ## Keys and contexts -/

/-- A candidate has a context if, behind the repeats of the separator, neither side of the last
separator is empty. -/
theorem splitContext_eq_some_iff {candidate separator key context : String} :
    splitContext candidate separator = (key, some context) ↔
      separator ≠ "" ∧ context ≠ "" ∧ ∃ leading front, front ≠ [] ∧
        candidate.toList = leading ++ behindRepeats separator.toList 0 candidate.toList ∧
        splitLast? separator.toList (behindRepeats separator.toList 0 candidate.toList) =
          some (front, context.toList) ∧ key.toList = leading ++ front := by
  unfold splitContext
  by_cases empty : separator = ""
  · simp [empty]
  · have filled : separator.toList ≠ [] := mt String.toList_eq_nil_iff.1 empty
    obtain ⟨count, repeats⟩ := exists_repeats_append filled candidate.toList
    simp only [if_neg empty]
    generalize behindRepeats separator.toList 0 candidate.toList = rest at repeats ⊢
    cases split : splitLast? separator.toList rest with
    | none => simp
    | some parts =>
      obtain ⟨front, behind⟩ := parts
      have leading : candidate.toList.take (candidate.toList.length - rest.length) =
          (List.replicate count separator.toList).flatten := by
        rw [repeats, List.length_append, Nat.add_sub_cancel, List.take_left]
      simp only [leading, Bool.or_eq_true, List.isEmpty_iff]
      constructor
      · intro found
        split at found
        · cases found
        · rename_i sides
          obtain ⟨rfl, equal⟩ := Prod.mk.inj found
          obtain rfl := Option.some.inj equal
          obtain ⟨keyed, contextual⟩ := not_or.1 sides
          refine ⟨empty, by simpa using contextual, _, front, keyed, repeats, ?_, ?_⟩
          · rw [String.toList_ofList]
          · rw [String.toList_ofList]
      · rintro ⟨-, contextual, leading, key', keyed, whole, same, named⟩
        obtain ⟨rfl, rfl⟩ := Prod.mk.inj (Option.some.inj same)
        rw [repeats] at whole
        obtain rfl := List.append_cancel_right whole
        rw [if_neg (by simpa [keyed] using contextual), ← named]
        simp

theorem joinContext_of_splitContext {candidate separator key context : String}
    (split : splitContext candidate separator = (key, some context)) :
    joinContext key context separator = candidate := by
  obtain ⟨-, -, leading, front, -, whole, cut, named⟩ := splitContext_eq_some_iff.1 split
  rw [eq_append_of_splitLast? cut] at whole
  apply String.toList_inj.1
  simp only [joinContext, String.toList_append, named]
  rw [whole, List.append_assoc, List.append_assoc]

theorem key_of_splitContext {candidate separator key : String}
    (split : splitContext candidate separator = (key, none)) : key = candidate := by
  unfold splitContext at split
  split at split
  · exact (Prod.mk.inj split).1.symm
  · simp only at split
    split at split
    · exact (Prod.mk.inj split).1.symm
    · split at split
      · exact (Prod.mk.inj split).1.symm
      · cases split

def joined (key : String) (context? : Option String) (separator : String) : String :=
  match context? with
  | none => key
  | some context => joinContext key context separator

theorem joined_splitContext (candidate separator : String) :
    joined (splitContext candidate separator).1 (splitContext candidate separator).2 separator =
      candidate := by
  cases split : splitContext candidate separator with
  | mk key context? =>
    cases context? with
    | none => exact key_of_splitContext split
    | some context => exact joinContext_of_splitContext split

theorem context_of_splitContext {candidate separator key context : String}
    (split : splitContext candidate separator = (key, some context)) :
    context ≠ "" ∧ ¬separator.toList <:+: context.toList := by
  obtain ⟨filled, contextual, leading, front, -, -, cut, -⟩ := splitContext_eq_some_iff.1 split
  refine ⟨contextual, not_infix_of_splitLast? ?_ cut⟩
  exact mt String.toList_eq_nil_iff.1 filled

theorem ne_repeats_of_splitContext {candidate separator key context : String}
    (split : splitContext candidate separator = (key, some context)) (count : Nat) :
    key.toList ≠ (List.replicate count separator.toList).flatten := by
  obtain ⟨nonempty, -, leading, front, keyed, whole, cut, named⟩ := splitContext_eq_some_iff.1 split
  have filled : separator.toList ≠ [] := mt String.toList_eq_nil_iff.1 nonempty
  intro repeats
  -- Otherwise all of the key would have been taken off with the repeats, and less than the last
  -- separator and the context would be left.
  have rest := eq_append_of_splitLast? cut
  have left : behindRepeats separator.toList 0 candidate.toList =
      behindRepeats separator.toList 0 context.toList := by
    rw [whole, rest, ← List.append_assoc, ← named, repeats, behindRepeats_repeats_append filled,
      behindRepeats_append filled]
  obtain ⟨more, split⟩ := exists_repeats_append filled context.toList
  have size := congrArg List.length split
  have restSize := congrArg List.length rest
  have keySize := List.length_pos_iff.2 keyed
  rw [left] at restSize
  simp only [List.length_append] at size restSize
  omega

theorem splitContext_joinContext_iff (mark : Char) (key context : String) :
    splitContext (joinContext key context (String.singleton mark)) (String.singleton mark) =
        (key, some context) ↔
      context ≠ "" ∧ mark ∉ context.toList ∧ ∃ char ∈ key.toList, char ≠ mark := by
  constructor
  · intro split
    obtain ⟨contextual, bare⟩ := context_of_splitContext split
    refine ⟨contextual, by simpa [List.singleton_infix_iff] using bare, ?_⟩
    by_contra none
    apply ne_repeats_of_splitContext split key.toList.length
    rw [String.toList_singleton, List.flatten_replicate_singleton]
    apply List.eq_replicate_of_mem
    intro char member
    exact by_contra fun other => none ⟨char, member, other⟩
  · rintro ⟨contextual, bare, other, member, different⟩
    have front : key.toList.dropWhile (· = mark) ≠ [] := by
      intro none
      exact different (by simpa using List.dropWhile_eq_nil_iff.1 none other member)
    have whole : (joinContext key context (String.singleton mark)).toList =
        key.toList ++ mark :: context.toList := by simp [joinContext]
    have left : behindRepeats [mark] 0 (key.toList ++ mark :: context.toList) =
        key.toList.dropWhile (· = mark) ++ mark :: context.toList := by
      rw [behindRepeats_singleton, List.dropWhile_append, if_neg (by simpa using front)]
    apply splitContext_eq_some_iff.2
    refine ⟨by simp, contextual, key.toList.takeWhile (· = mark), _, front, ?_, ?_, ?_⟩
    · rw [whole, String.toList_singleton, left, ← List.append_assoc,
        List.takeWhile_append_dropWhile]
    · rw [whole, String.toList_singleton, left]
      exact splitLast?_singleton _ bare
    · exact List.takeWhile_append_dropWhile.symm

/-- A key and a context are split from what they are joined to, and from nothing else. The context
holds no separator, and the key more than separators. -/
theorem splitContext_laws (separator : String) :
    (∀ candidate key context, splitContext candidate separator = (key, some context) →
      joinContext key context separator = candidate ∧
        (context ≠ "" ∧ ¬separator.toList <:+: context.toList) ∧
        ∀ count, key.toList ≠ (List.replicate count separator.toList).flatten) ∧
    (∀ candidate key, splitContext candidate separator = (key, none) → key = candidate) ∧
    (∀ candidate other, splitContext candidate separator = splitContext other separator →
      candidate = other) ∧
    ∀ mark key context, separator = String.singleton mark →
      (splitContext (joinContext key context separator) separator = (key, some context) ↔
        context ≠ "" ∧ mark ∉ context.toList ∧ ∃ char ∈ key.toList, char ≠ mark) := by
  refine ⟨?_, ?_, ?_, ?_⟩
  · intro candidate key context split
    exact ⟨joinContext_of_splitContext split, context_of_splitContext split,
      ne_repeats_of_splitContext split⟩
  · intro candidate key split
    exact key_of_splitContext split
  · intro candidate other same
    rw [← joined_splitContext candidate separator, same, joined_splitContext]
  · rintro mark key context rfl
    exact splitContext_joinContext_iff mark key context

theorem dashed_splitContext_laws :
    splitContext "--a---b" "--" = ("--a-", some "b") ∧ joinContext "--a-" "b" "--" = "--a---b" ∧
      ¬['-', '-'] <:+: ['b'] ∧ splitContext "____" "_" = ("____", none) ∧
      splitContext (joinContext "__a_" "b" "_") "_" = ("__a_", some "b") := by
  have split : splitContext "--a---b" "--" = ("--a-", some "b") := by decide
  have unsplit : splitContext "____" "_" = ("____", none) := by decide
  obtain ⟨cut, -, -, -⟩ := splitContext_laws "--"
  obtain ⟨whole, ⟨-, bare⟩, -⟩ := cut _ _ _ split
  obtain ⟨-, -, -, single⟩ := splitContext_laws "_"
  refine ⟨split, whole, bare, unsplit, (single '_' "__a_" "b" (by decide)).2 ?_⟩
  exact ⟨by decide, by decide, 'a', by decide, by decide⟩

end Phrasebook.Key
