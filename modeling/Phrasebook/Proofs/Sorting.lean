import Mathlib.Data.Prod.Lex
import Mathlib.Data.String.Basic

/-!
# Sorting by ranks

Markers, paths and categories are each sorted by a test that compares their ranks, which are pairs
of a number and a text (`Ranked`). What is sorted ascends by rank, some of the sorted values are
some of the values sorted (`Ranked.filter_mergeSort`), and the first is the one with the least rank
(`Ranked.head?_mergeSort_eq_some_iff`).

Values of one rank keep their order, and this and the ascent determine the sorted list
(`Ranked.eq_mergeSort_iff`). Where ranks belong to one value each, it does not depend on the order of
the values (`Ranked.mergeSort_eq_of_perm`).
-/

namespace Phrasebook

variable {α β : Type} [LinearOrder β] {le : α → α → Bool} {rank : α → β}

/-- A test that compares values by their ranks in a linear order. -/
structure Ranked (le : α → α → Bool) (rank : α → β) : Prop where
  le_iff : ∀ first second, le first second = true ↔ rank first ≤ rank second

namespace Ranked

theorem trans (ranked : Ranked le rank) (first second third : α) (before : le first second = true)
    (behind : le second third = true) : le first third = true := by
  rw [ranked.le_iff] at before behind ⊢
  exact before.trans behind

theorem total (ranked : Ranked le rank) (first second : α) :
    (le first second || le second first) = true := by
  rw [Bool.or_eq_true, ranked.le_iff, ranked.le_iff]
  exact le_total _ _

theorem pairwise_mergeSort (ranked : Ranked le rank) (values : List α) :
    (values.mergeSort le).Pairwise fun earlier later => rank earlier ≤ rank later := by
  refine (List.pairwise_mergeSort ranked.trans ranked.total values).imp ?_
  intro earlier later before
  exact (ranked.le_iff earlier later).1 before

theorem mergeSort_cons_eq (ranked : Ranked le rank) (head : α) (rest : List α) :
    (head :: rest).mergeSort le = (rest.mergeSort le).filter (fun other => !le head other) ++
      head :: (rest.mergeSort le).filter (le head) ∧
    rest.mergeSort le = (rest.mergeSort le).filter (fun other => !le head other) ++
      (rest.mergeSort le).filter (le head) := by
  obtain ⟨before, behind, whole, apart, above⟩ :=
    List.mergeSort_cons ranked.trans ranked.total head rest
  have sorted := List.pairwise_mergeSort ranked.trans ranked.total (head :: rest)
  rw [whole, List.pairwise_append] at sorted
  have below : ∀ other ∈ behind, le head other = true :=
    (List.pairwise_cons.1 sorted.2.1).1
  -- The two sides of `head` are told apart by the order alone, so that filters give them back.
  have front : (before ++ behind).filter (fun other => !le head other) = before := by
    rw [List.filter_append, List.filter_eq_self.2 above, List.filter_eq_nil_iff.2, List.append_nil]
    intro other member
    simp [below other member]
  have back : (before ++ behind).filter (le head) = behind := by
    rw [List.filter_append, List.filter_eq_self.2 below, List.filter_eq_nil_iff.2, List.nil_append]
    intro other member
    simpa using above other member
  rw [whole, apart, front, back]
  exact ⟨rfl, rfl⟩

theorem filter_mergeSort (ranked : Ranked le rank) (keep : α → Bool) (values : List α) :
    (values.mergeSort le).filter keep = (values.filter keep).mergeSort le := by
  induction values with
  | nil => simp
  | cons head rest ih =>
    obtain ⟨whole, -⟩ := ranked.mergeSort_cons_eq head rest
    obtain ⟨kept, parted⟩ := ranked.mergeSort_cons_eq head (rest.filter keep)
    have commuted : ∀ side : α → Bool, ((rest.mergeSort le).filter side).filter keep =
        ((rest.filter keep).mergeSort le).filter side := by
      intro side
      rw [← ih, List.filter_filter, List.filter_filter]
      simp only [Bool.and_comm]
    rw [whole, List.filter_append, commuted]
    by_cases isKept : keep head = true
    · rw [List.filter_cons_of_pos isKept, List.filter_cons_of_pos isKept, commuted, kept]
    · rw [List.filter_cons_of_neg isKept, List.filter_cons_of_neg isKept, commuted, ← parted]

theorem head?_mergeSort_eq_some_iff (ranked : Ranked le rank) {values : List α}
    (distinct : ∀ first ∈ values, ∀ second ∈ values, rank first = rank second → first = second)
    {value : α} : (values.mergeSort le).head? = some value ↔
      value ∈ values ∧ ∀ other ∈ values, rank value ≤ rank other := by
  have sorted := ranked.pairwise_mergeSort values
  have members : ∀ other, other ∈ values.mergeSort le ↔ other ∈ values :=
    fun _ => List.mem_mergeSort
  cases order : values.mergeSort le with
  | nil =>
    have empty : ∀ other, other ∉ values := fun other member => by
      simpa [order] using (members other).2 member
    simp [empty]
  | cons first rest =>
    rw [order] at sorted members
    have firstInside := (members first).1 List.mem_cons_self
    have least : ∀ other ∈ values, rank first ≤ rank other := by
      intro other member
      rcases List.mem_cons.1 ((members other).2 member) with rfl | later
      · exact le_rfl
      · exact (List.pairwise_cons.1 sorted).1 other later
    rw [List.head?_cons, Option.some.injEq]
    constructor
    · rintro rfl
      exact ⟨firstInside, least⟩
    · rintro ⟨inside, preceding⟩
      exact distinct first firstInside value inside
        ((least value inside).antisymm (preceding first firstInside))

theorem mem_iff_of_filter_rank_eq {first second : List α}
    (same : ∀ level, first.filter (rank · = level) = second.filter (rank · = level)) (value : α) :
    value ∈ first ↔ value ∈ second := by
  have atRank : value ∈ first.filter (rank · = rank value) ↔
      value ∈ second.filter (rank · = rank value) := by rw [same]
  simpa using atRank

theorem rank_head_le {head : α} {rest : List α}
    (ascending : (head :: rest).Pairwise fun earlier later => rank earlier ≤ rank later) {value : α}
    (inside : value ∈ head :: rest) : rank head ≤ rank value := by
  rcases List.mem_cons.1 inside with rfl | inside
  · exact le_rfl
  · exact (List.pairwise_cons.1 ascending).1 value inside

theorem eq_of_filter_rank_eq {first second : List α}
    (ascending : first.Pairwise fun earlier later => rank earlier ≤ rank later)
    (otherAscending : second.Pairwise fun earlier later => rank earlier ≤ rank later)
    (same : ∀ level, first.filter (rank · = level) = second.filter (rank · = level)) :
    first = second := by
  have members := mem_iff_of_filter_rank_eq same
  induction first generalizing second with
  | nil => exact (List.eq_nil_iff_forall_not_mem.2 fun value => by simp [← members]).symm
  | cons head rest ih =>
    cases second with
    | nil => exact absurd ((members head).1 List.mem_cons_self) List.not_mem_nil
    | cons other others =>
      -- Both heads have the least rank, and so they are the first values of that rank.
      have level : rank other = rank head :=
        (rank_head_le otherAscending ((members head).1 List.mem_cons_self)).antisymm
          (rank_head_le ascending ((members other).2 List.mem_cons_self))
      have heads := same (rank head)
      rw [List.filter_cons_of_pos (by simp), List.filter_cons_of_pos (by simpa using level)] at heads
      obtain ⟨rfl, restsHere⟩ := List.cons.inj heads
      have rests : ∀ level, rest.filter (rank · = level) = others.filter (rank · = level) := by
        intro level
        by_cases here : rank head = level
        · rw [← here]
          exact restsHere
        · have elsewhere := same level
          rwa [List.filter_cons_of_neg (by simpa using here),
            List.filter_cons_of_neg (by simpa using here)] at elsewhere
      rw [ih ascending.of_cons otherAscending.of_cons rests (mem_iff_of_filter_rank_eq rests)]

theorem filter_rank_mergeSort (ranked : Ranked le rank) (values : List α) (level : β) :
    (values.mergeSort le).filter (rank · = level) = values.filter (rank · = level) := by
  rw [ranked.filter_mergeSort]
  refine List.mergeSort_of_pairwise (List.pairwise_of_forall_mem_list ?_)
  intro first inside second otherInside
  have here : rank first = level := by simpa using (List.mem_filter.1 inside).2
  have there : rank second = level := by simpa using (List.mem_filter.1 otherInside).2
  exact (ranked.le_iff first second).2 (here.trans there.symm).le

/-- Sorting is the one way to put values in ascending order that keeps the order of those of each
rank. -/
theorem eq_mergeSort_iff (ranked : Ranked le rank) {values sorted : List α} :
    sorted = values.mergeSort le ↔
      (sorted.Pairwise fun earlier later => rank earlier ≤ rank later) ∧
        ∀ level, sorted.filter (rank · = level) = values.filter (rank · = level) := by
  constructor
  · rintro rfl
    exact ⟨ranked.pairwise_mergeSort values, ranked.filter_rank_mergeSort values⟩
  · rintro ⟨ascending, same⟩
    refine eq_of_filter_rank_eq ascending (ranked.pairwise_mergeSort values) fun level => ?_
    rw [same, ranked.filter_rank_mergeSort]

theorem mergeSort_eq_of_perm (ranked : Ranked le rank) {values others : List α}
    (perm : values.Perm others)
    (distinct : ∀ first ∈ values, ∀ second ∈ values, rank first = rank second → first = second) :
    values.mergeSort le = others.mergeSort le := by
  refine List.Perm.eq_of_pairwise (fun first second inside otherInside before behind => ?_)
    (ranked.pairwise_mergeSort values) (ranked.pairwise_mergeSort others)
    ((List.mergeSort_perm values le).trans (perm.trans (List.mergeSort_perm others le).symm))
  exact distinct first (List.mem_mergeSort.1 inside) second
    (perm.mem_iff.2 (List.mem_mergeSort.1 otherInside)) (before.antisymm behind)

end Ranked

end Phrasebook
