import Mathlib.Data.List.Sort
import Phrasebook.Proofs.Sorting
import Phrasebook.Titling.Suggestion

namespace Phrasebook.Suggestion

def Close (key known : String) : Prop :=
  distance (Text.lower key.toList) (Text.lower known.toList) ≤ 3 ∨
    Text.lower key.toList <+: Text.lower known.toList

instance (key known : String) : Decidable (Close key known) :=
  inferInstanceAs (Decidable (_ ∨ _))

def rank (key known : String) : ℕ ×ₗ ℕ ×ₗ String :=
  toLex (distance (Text.lower key.toList) (Text.lower known.toList),
    toLex (Text.byteLength known.toList, known))

structure Ranking (key : String) (known ordered : List String) : Prop where
  mem_iff : ∀ candidate, candidate ∈ ordered ↔ candidate ∈ known ∧ Close key candidate
  ascending : ordered.Pairwise fun earlier later => rank key earlier < rank key later

theorem Ranking.unique {key : String} {known ordered others : List String}
    (ranking : Ranking key known ordered) (other : Ranking key known others) : ordered = others :=
  ranking.ascending.eq_of_mem_iff other.ascending fun candidate => by
    rw [ranking.mem_iff, other.mem_iff]

/-! ## Candidates -/

namespace Candidate

def of (key known : String) : Candidate :=
  ⟨Suggestion.distance (Text.lower key.toList) (Text.lower known.toList), known⟩

theorem ofKey?_eq (key known : String) : ofKey? (Text.lower key.toList) known =
    if Close key known then some (of key known) else none := by
  have close : Close key known ↔
      Suggestion.distance (Text.lower key.toList) (Text.lower known.toList) ≤ distanceLimit ∨
        Text.lower key.toList <+: Text.lower known.toList := Iff.rfl
  simp only [ofKey?, Bool.or_eq_true, decide_eq_true_eq, List.isPrefixOf_iff_prefix, close]
  rfl

theorem mem_filterMap_ofKey?_iff {key : String} {known : List String} {candidate : Candidate} :
    candidate ∈ known.filterMap (ofKey? (Text.lower key.toList)) ↔
      ∃ other ∈ known, Close key other ∧ of key other = candidate := by
  simp only [List.mem_filterMap, ofKey?_eq, Option.ite_none_right_eq_some, Option.some.injEq]

def rank (candidate : Candidate) : ℕ ×ₗ ℕ ×ₗ String :=
  toLex (candidate.distance, toLex (Text.byteLength candidate.key.toList, candidate.key))

theorem ranked : Ranked precedes rank where
  le_iff candidate other := by simp [precedes, rank, Prod.Lex.toLex_le_toLex]

theorem key_eq_of_rank_eq {candidate other : Candidate} (same : candidate.rank = other.rank) :
    candidate.key = other.key :=
  (Prod.mk.inj (toLex_inj.1 (Prod.mk.inj (toLex_inj.1 same)).2)).2

end Candidate

/-! ## Repeated keys -/

theorem dropRepeats_sublist (candidates : List Candidate) :
    (dropRepeats candidates).Sublist candidates := by
  fun_induction dropRepeats candidates with
  | case1 first second rest same ih =>
    exact ih.trans ((List.sublist_cons_self second rest).cons_cons first)
  | case2 first second rest different ih => exact ih.cons_cons first
  | case3 candidates => exact .refl _

theorem key_mem_dropRepeats_iff (candidates : List Candidate) (key : String) :
    key ∈ (dropRepeats candidates).map (·.key) ↔ key ∈ candidates.map (·.key) := by
  fun_induction dropRepeats candidates with
  | case1 first second rest same ih => simp [ih, same]
  | case2 first second rest different ih =>
    rw [List.map_cons, List.mem_cons, ih, ← List.mem_cons, ← List.map_cons]
  | case3 candidates => rfl

theorem pairwise_dropRepeats {candidates : List Candidate}
    (ascending : candidates.Pairwise fun earlier later => earlier.rank ≤ later.rank) :
    (dropRepeats candidates).Pairwise fun earlier later => earlier.rank < later.rank := by
  fun_induction dropRepeats candidates with
  | case1 first second rest same ih =>
    exact ih (ascending.sublist ((List.sublist_cons_self second rest).cons_cons first))
  | case2 first second rest different ih =>
    refine List.pairwise_cons.2 ⟨fun later member => ?_, ih ascending.of_cons⟩
    have below : first.rank ≤ second.rank :=
      (List.pairwise_cons.1 ascending).1 second List.mem_cons_self
    have apart : first.rank ≠ second.rank := fun same =>
      different (Candidate.key_eq_of_rank_eq same)
    refine (below.lt_of_ne apart).trans_le ?_
    rcases List.mem_cons.1 ((dropRepeats_sublist _).subset member) with rfl | member
    · exact le_rfl
    · exact (List.pairwise_cons.1 ascending.of_cons).1 later member
  | case3 candidates few =>
    cases candidates with
    | nil => exact .nil
    | cons first rest =>
      cases rest with
      | nil => exact List.pairwise_singleton _ _
      | cons second rest => exact absurd rfl (few first second rest)

/-! ## Suggestions -/

def ordered (key : String) (known : List String) : List Candidate :=
  dropRepeats ((known.filterMap (Candidate.ofKey? (Text.lower key.toList))).mergeSort
    Candidate.precedes)

theorem mem_ordered {key : String} {known : List String} {candidate : Candidate}
    (member : candidate ∈ ordered key known) :
    candidate.key ∈ known ∧ Close key candidate.key ∧ candidate.rank = rank key candidate.key := by
  have inside := List.mem_mergeSort.1 ((dropRepeats_sublist _).subset member)
  obtain ⟨other, known, close, rfl⟩ := Candidate.mem_filterMap_ofKey?_iff.1 inside
  exact ⟨known, close, rfl⟩

theorem ranking_ordered (key : String) (known : List String) :
    Ranking key known ((ordered key known).map (·.key)) where
  mem_iff candidate := by
    constructor
    · intro member
      obtain ⟨other, inside, rfl⟩ := List.mem_map.1 member
      exact ⟨(mem_ordered inside).1, (mem_ordered inside).2.1⟩
    · rintro ⟨member, close⟩
      have inside := Candidate.mem_filterMap_ofKey?_iff.2 ⟨candidate, member, close, rfl⟩
      exact (key_mem_dropRepeats_iff _ _).2
        (List.mem_map.2 ⟨_, List.mem_mergeSort.2 inside, rfl⟩)
  ascending := by
    have ascending := pairwise_dropRepeats (Candidate.ranked.pairwise_mergeSort
      (known.filterMap (Candidate.ofKey? (Text.lower key.toList))))
    refine List.pairwise_map.2 (ascending.imp_of_mem fun member otherMember below => ?_)
    rwa [(mem_ordered member).2.2, (mem_ordered otherMember).2.2] at below

theorem forKey_eq (key : String) (known : List String) :
    forKey key known = ((ordered key known).map (·.key)).take 5 :=
  List.map_take

/-- What is suggested for a key are the first five of the close keys, each once and by their ranks.
There is just one way to put these into order, and it does not depend on how often and in which
order the keys are given. -/
theorem forKey_outcome (key : String) (known : List String) :
    (∃ ordered, Ranking key known ordered) ∧
    (∀ ordered, Ranking key known ordered → forKey key known = ordered.take 5) ∧
    ∀ others, (∀ candidate, candidate ∈ known ↔ candidate ∈ others) →
      forKey key known = forKey key others := by
  have ranking := ranking_ordered key known
  refine ⟨⟨_, ranking⟩, fun ordered other => ?_, fun others same => ?_⟩
  · rw [forKey_eq, ranking.unique other]
  · have other : Ranking key known ((ordered key others).map (·.key)) :=
      ⟨fun candidate => by rw [(ranking_ordered key others).mem_iff, same],
        (ranking_ordered key others).ascending⟩
    rw [forKey_eq, forKey_eq, ranking.unique other]

def menuKeys : List String :=
  ["menu.close", "menu", "Menu", "menus", "file", "menu.open", "men", "mean", "menu"]

def rankedMenuKeys : List String :=
  ["Menu", "menu", "men", "menus", "mean", "menu.open", "menu.close"]

theorem menuKeys_suggestions :
    Ranking "Menu" menuKeys rankedMenuKeys ∧
    forKey "Menu" menuKeys = ["Menu", "menu", "men", "menus", "mean"] ∧
    forKey "Menu" menuKeys.reverse = forKey "Menu" menuKeys := by
  obtain ⟨-, first, -⟩ := forKey_outcome "Menu" menuKeys
  obtain ⟨-, -, alike⟩ := forKey_outcome "Menu" menuKeys.reverse
  have ranking : Ranking "Menu" menuKeys rankedMenuKeys := by
    refine ⟨fun candidate => ⟨fun member => ?_, fun both => ?_⟩, ?_⟩
    · have all : ∀ candidate ∈ rankedMenuKeys, candidate ∈ menuKeys ∧ Close "Menu" candidate := by
        decide
      exact all candidate member
    · have all : ∀ candidate ∈ menuKeys, Close "Menu" candidate → candidate ∈ rankedMenuKeys := by
        decide
      exact all candidate both.1 both.2
    · decide
  exact ⟨ranking, first _ ranking, alike _ fun _ => List.mem_reverse⟩

end Phrasebook.Suggestion
