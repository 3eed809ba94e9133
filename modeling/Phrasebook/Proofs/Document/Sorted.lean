import Phrasebook.Proofs.Document.Members
import Phrasebook.Proofs.Text.Dotted

namespace Phrasebook.LeafPath

def Dotless (path : LeafPath) : Prop := ∀ segment ∈ path.dropLast, '.' ∉ segment.toList

theorem Dotless.eq_of_rank_eq {path other : LeafPath} (dotless : Dotless path)
    (otherDotless : Dotless other)
    (same : toLex (path.length, Dotted.join path) = toLex (other.length, Dotted.join other)) :
    path = other := by
  obtain ⟨length, text⟩ := Prod.mk.inj (toLex.injective same)
  exact Dotted.join_injective_of_length_eq dotless otherDotless length text

theorem ascends_iff {paths : List LeafPath} :
    (paths.Pairwise fun earlier later => toLex (earlier.length, Dotted.join earlier) ≤
      toLex (later.length, Dotted.join later)) ↔
    paths.Pairwise fun earlier later => earlier.length < later.length ∨
      earlier.length = later.length ∧ Dotted.join earlier ≤ Dotted.join later := by
  simp only [Prod.Lex.toLex_le_toLex]

theorem filter_rank (paths : List LeafPath) (length : Nat) (text : String) :
    paths.filter (fun path => toLex (path.length, Dotted.join path) = toLex (length, text)) =
      paths.filter fun path => path.length = length ∧ Dotted.join path = text := by
  simp

/-- Sorting puts paths in the order of their lengths and dotted texts, keeps the order of those that
agree in both, and is determined by this. Paths without dots in front of their last segments are
sorted to one list, in whatever order they are given. -/
theorem sort_canonical :
    (∀ paths sorted : List LeafPath, sorted = sort paths ↔
      sorted.Perm paths ∧
      (sorted.Pairwise fun earlier later => earlier.length < later.length ∨
        earlier.length = later.length ∧ Dotted.join earlier ≤ Dotted.join later) ∧
      ∀ length text, (sorted.filter fun path => path.length = length ∧ Dotted.join path = text) =
        paths.filter fun path => path.length = length ∧ Dotted.join path = text) ∧
    ∀ paths others : List LeafPath, paths.Perm others → (∀ path ∈ paths, Dotless path) →
      sort paths = sort others := by
  constructor
  · intro paths sorted
    have determined : sorted = paths.mergeSort precedes ↔ _ := ranked.eq_mergeSort_iff
    rw [ascends_iff] at determined
    constructor
    · intro same
      obtain ⟨ascending, stable⟩ := determined.1 same
      refine ⟨same ▸ List.mergeSort_perm paths precedes, ascending, fun length text => ?_⟩
      rw [← filter_rank, ← filter_rank]
      exact stable _
    · rintro ⟨-, ascending, stable⟩
      refine determined.2 ⟨ascending, fun level => ?_⟩
      have atLevel := stable (ofLex level).1 (ofLex level).2
      rw [← filter_rank, ← filter_rank] at atLevel
      exact atLevel
  · intro paths others perm dotless
    refine ranked.mergeSort_eq_of_perm perm fun path inside other otherInside same => ?_
    exact (dotless path inside).eq_of_rank_eq (dotless other otherInside) same

def menuPaths : List LeafPath :=
  [["en", "menu", "a.b"], ["nb", "b.c"], ["en", "a", "b.b"], ["en", "x"]]

theorem menuPaths_sort_canonical : (∀ path ∈ menuPaths, Dotless path) ∧
    sort menuPaths = sort menuPaths.reverse := by
  have dotless : ∀ path ∈ menuPaths, Dotless path := by
    unfold menuPaths Dotless
    decide
  obtain ⟨-, inAnyOrder⟩ := sort_canonical
  exact ⟨dotless, inAnyOrder _ _ (List.reverse_perm _).symm dotless⟩

-- With dots in front of the last segments both orders of these paths stay as they are.
example : sort [["a", "b.c"], ["a.b", "c"]] = [["a", "b.c"], ["a.b", "c"]] := by cbv

example : sort [["a.b", "c"], ["a", "b.c"]] = [["a.b", "c"], ["a", "b.c"]] := by cbv

end Phrasebook.LeafPath
