import Mathlib.Data.List.Induction
import Mathlib.Data.List.Nodup
import Phrasebook.Inference.Example

namespace Phrasebook.Example

variable {entries others : List (String × Json)} {text : List Char} {entry : String × Json}

structure LongestEnding (entries : List (String × Json)) (text : List Char)
    (entry : String × Json) : Prop where
  listed : entry ∈ entries
  ends : entry.1.toList <:+ text
  longest : ∀ other ∈ entries, other.1.toList <:+ text → other.1 ≠ entry.1 →
    other.1.toList.length < entry.1.toList.length

/-! ## The search -/

theorem longestEnding?_append_singleton (text : List Char) (entries : List (String × Json))
    (entry : String × Json) :
    longestEnding? text (entries ++ [entry]) =
      if entry.1.toList <:+ text then
        some ((longestEnding? text entries).elim entry (longer · entry))
      else longestEnding? text entries := by
  unfold longestEnding?
  rw [List.filter_append, List.foldl_append]
  split
  · rename_i ends
    rw [List.filter_cons_of_pos (by simpa using ends)]
    rfl
  · rename_i other
    rw [List.filter_cons_of_neg (by simpa using other)]
    rfl

theorem longestEnding?_eq_none_iff :
    longestEnding? text entries = none ↔ ∀ entry ∈ entries, ¬entry.1.toList <:+ text := by
  induction entries using List.reverseRecOn with
  | nil => simp [longestEnding?]
  | append_singleton entries entry ih =>
    rw [longestEnding?_append_singleton, List.forall_mem_append, List.forall_mem_singleton, ← ih]
    split <;> simp [*]

theorem longer_cases (entry other : String × Json) :
    (longer entry other = entry ∧ other.1.toList.length < entry.1.toList.length) ∨
      (longer entry other = other ∧ entry.1.toList.length ≤ other.1.toList.length) := by
  unfold longer
  split
  · rename_i shorter
    exact .inr ⟨rfl, shorter⟩
  · rename_i longer
    exact .inl ⟨rfl, Nat.not_le.1 longer⟩

theorem of_longestEnding? (found : longestEnding? text entries = some entry) :
    entry ∈ entries ∧ entry.1.toList <:+ text ∧ ∀ other ∈ entries, other.1.toList <:+ text →
      other.1.toList.length ≤ entry.1.toList.length := by
  -- The search keeps the best of the entries so far, so that they are taken off at the back.
  induction entries using List.reverseRecOn generalizing entry with
  | nil => cases found
  | append_singleton entries last ih =>
    rw [longestEnding?_append_singleton] at found
    rw [List.mem_append, List.mem_singleton, List.forall_mem_append, List.forall_mem_singleton]
    split at found
    · rename_i ends
      obtain rfl := Option.some.inj found
      cases former : longestEnding? text entries with
      | none =>
        have none := longestEnding?_eq_none_iff.1 former
        exact ⟨.inr rfl, ends, fun other member otherEnds => absurd otherEnds (none other member),
          fun _ => Nat.le_refl _⟩
      | some best =>
        obtain ⟨listed, bestEnds, longest⟩ := ih former
        rw [Option.elim_some]
        rcases longer_cases best last with ⟨kept, shorter⟩ | ⟨replaced, shorter⟩
        · rw [kept]
          exact ⟨.inl listed, bestEnds, longest, fun _ => Nat.le_of_lt shorter⟩
        · rw [replaced]
          exact ⟨.inr rfl, ends, fun other member otherEnds =>
            Nat.le_trans (longest other member otherEnds) shorter, fun _ => Nat.le_refl _⟩
    · rename_i other
      obtain ⟨listed, ends, longest⟩ := ih found
      exact ⟨.inl listed, ends, longest, fun lastEnds => absurd lastEnds other⟩

/-! ## Tables with different names -/

theorem name_eq_of_length_eq {name other : String} (ends : name.toList <:+ text)
    (otherEnds : other.toList <:+ text) (length : name.toList.length = other.toList.length) :
    name = other := by
  have shorter := List.suffix_of_suffix_length_le ends otherEnds (Nat.le_of_eq length)
  exact String.toList_inj.1 (shorter.eq_of_length length)

theorem longestEnding_of_longestEnding? (found : longestEnding? text entries = some entry) :
    LongestEnding entries text entry := by
  obtain ⟨listed, ends, longest⟩ := of_longestEnding? found
  refine ⟨listed, ends, fun other member otherEnds different => ?_⟩
  refine Nat.lt_of_le_of_ne (longest other member otherEnds) fun length => ?_
  exact different (name_eq_of_length_eq otherEnds ends length)

theorem LongestEnding.name_eq (longest : LongestEnding entries text entry)
    {other : String × Json} (otherwise : LongestEnding entries text other) :
    other.1 = entry.1 := by
  by_contra different
  have shorter := longest.longest other otherwise.listed otherwise.ends different
  have longer := otherwise.longest entry longest.listed longest.ends (Ne.symm different)
  omega

theorem LongestEnding.of_perm (longest : LongestEnding entries text entry)
    (perm : entries.Perm others) : LongestEnding others text entry :=
  ⟨perm.mem_iff.1 longest.listed, longest.ends, fun other member =>
    longest.longest other (perm.mem_iff.2 member)⟩

section Different

variable (nodup : (entries.map Prod.fst).Nodup)
include nodup

theorem LongestEnding.unique (longest : LongestEnding entries text entry)
    {other : String × Json} (otherwise : LongestEnding entries text other) : other = entry :=
  List.inj_on_of_nodup_map nodup otherwise.listed longest.listed (longest.name_eq otherwise)

theorem longestEnding?_eq_some_iff :
    longestEnding? text entries = some entry ↔ LongestEnding entries text entry := by
  constructor
  · exact longestEnding_of_longestEnding?
  · intro longest
    cases found : longestEnding? text entries with
    | none => exact absurd longest.ends (longestEnding?_eq_none_iff.1 found entry longest.listed)
    | some best =>
      rw [longest.unique nodup (longestEnding_of_longestEnding? found)]

theorem longestEnding?_of_find? (found : entries.find? (·.1.toList == text) = some entry) :
    longestEnding? text entries = some entry := by
  have listed := List.mem_of_find?_eq_some found
  obtain rfl : entry.1.toList = text := by simpa using List.find?_some found
  refine (longestEnding?_eq_some_iff nodup).2 ⟨listed, List.suffix_refl _, ?_⟩
  intro other _ ends different
  refine Nat.lt_of_le_of_ne ends.length_le fun length => different ?_
  exact String.toList_inj.1 (ends.eq_of_length length)

theorem longestEnding?_eq_of_perm (perm : entries.Perm others) :
    longestEnding? text others = longestEnding? text entries := by
  have otherNodup : (others.map Prod.fst).Nodup := ((perm.map _).nodup_iff).1 nodup
  refine Option.ext fun entry => ?_
  rw [longestEnding?_eq_some_iff nodup, longestEnding?_eq_some_iff otherNodup]
  exact ⟨fun longest => longest.of_perm perm.symm, fun longest => longest.of_perm perm⟩

end Different

/-! ## Examples -/

def forNameIn (entries : List (String × Json)) (name : String) : Json :=
  let lowered := Text.lower name.toList
  match entries.find? fun entry => entry.1.toList == lowered with
  | some entry => entry.2
  | none => ((longestEnding? lowered entries).map (·.2)).getD unknown

theorem forName_eq_forNameIn (name : String) : forName name = forNameIn table name := rfl

theorem forNameIn_eq (nodup : (entries.map Prod.fst).Nodup) (name : String) :
    forNameIn entries name =
      ((longestEnding? (Text.lower name.toList) entries).map (·.2)).getD unknown := by
  unfold forNameIn
  simp only
  split
  · rename_i entry found
    rw [longestEnding?_of_find? nodup found, Option.map_some, Option.getD_some]
  · rfl

theorem nodup_table : (table.map Prod.fst).Nodup := by decide

/-- The example for a name is that of the only longest name of the table that ends it, if one does,
and else it is unknown. Looking for the same name first makes no difference, and neither does the
order of the table. -/
theorem forName_outcome (name : String) :
    let lowered := Text.lower name.toList
    ((∃! entry, LongestEnding table lowered entry) ↔ ∃ entry ∈ table, entry.1.toList <:+ lowered) ∧
    (∀ entry, LongestEnding table lowered entry → forName name = entry.2) ∧
    ((∀ entry ∈ table, ¬entry.1.toList <:+ lowered) → forName name = .string "???") ∧
    (∀ entry, table.find? (·.1.toList == lowered) = some entry →
      longestEnding? lowered table = some entry) ∧
    ∀ entries, table.Perm entries → forNameIn entries name = forName name := by
  intro lowered
  have chosen : forName name = ((longestEnding? lowered table).map (·.2)).getD unknown := by
    rw [forName_eq_forNameIn, forNameIn_eq nodup_table]
  refine ⟨⟨fun ⟨entry, longest, _⟩ => ⟨entry, longest.listed, longest.ends⟩, ?_⟩, ?_, ?_, ?_, ?_⟩
  · rintro ⟨entry, listed, ends⟩
    cases found : longestEnding? lowered table with
    | none => exact absurd ends (longestEnding?_eq_none_iff.1 found entry listed)
    | some best =>
      have longest := longestEnding_of_longestEnding? found
      exact ⟨best, longest, fun other => longest.unique nodup_table⟩
  · intro entry longest
    rw [chosen, (longestEnding?_eq_some_iff nodup_table).2 longest, Option.map_some,
      Option.getD_some]
  · intro none
    rw [chosen, longestEnding?_eq_none_iff.2 none]
    rfl
  · exact fun _ => longestEnding?_of_find? nodup_table
  · intro entries perm
    have nodup : (entries.map Prod.fst).Nodup := ((perm.map _).nodup_iff).1 nodup_table
    rw [forNameIn_eq nodup, longestEnding?_eq_of_perm nodup_table perm, chosen]

theorem limits_forName :
    LongestEnding table "uppermaxlimit".toList ("maxlimit", number 5000) ∧
    forName "UpperMaxLimit" = number 5000 ∧
    longestEnding? "firstname".toList table = some ("firstname", .string "Axl") ∧
    forNameIn table.reverse "FirstName" = forName "FirstName" ∧
    forName "limits" = .string "???" := by
  have longest : LongestEnding table "uppermaxlimit".toList ("maxlimit", number 5000) :=
    ⟨by simp [table], by decide, by decide⟩
  have lowered : Text.lower "UpperMaxLimit".toList = "uppermaxlimit".toList := by decide
  obtain ⟨-, suited, -⟩ := forName_outcome "UpperMaxLimit"
  obtain ⟨-, -, -, same, ordered⟩ := forName_outcome "FirstName"
  obtain ⟨-, -, unsuited, -⟩ := forName_outcome "limits"
  refine ⟨longest, suited ("maxlimit", _) ?_, same _ rfl, ordered _ (List.reverse_perm _).symm,
    unsuited (by decide)⟩
  rw [lowered]
  exact longest

end Phrasebook.Example
