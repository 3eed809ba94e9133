import Mathlib.Data.List.Nodup
import Phrasebook.Message.Marker
import Phrasebook.Proofs.Sorting
import Phrasebook.Proofs.Text.Positions

namespace Phrasebook

namespace Marker

theorem begins_iff {marker : Marker} {text : List Char} :
    marker.begins text = true ↔ marker.text.toList <+: text :=
  List.isPrefixOf_iff_prefix

theorem ranked : Ranked precedes fun marker =>
    toLex (OrderDual.toDual (Text.byteLength marker.text.toList), marker.text) where
  le_iff marker other := by simp [precedes, Prod.Lex.toLex_le_toLex]

end Marker

namespace MarkerSet

theorem of_mem_distinct {markers : List Marker} {marker : Marker}
    (member : marker ∈ distinct markers) : marker ∈ markers ∧ marker.text ≠ "" := by
  induction markers with
  | nil => cases member
  | cons head rest ih =>
    rw [distinct] at member
    split at member
    · have inside := ih member
      exact ⟨List.mem_cons_of_mem head inside.1, inside.2⟩
    · rename_i filled
      rcases List.mem_cons.1 member with rfl | member
      · exact ⟨List.mem_cons_self, filled⟩
      · have inside := ih (List.mem_filter.1 member).1
        exact ⟨List.mem_cons_of_mem head inside.1, inside.2⟩

theorem nodup_distinct (markers : List Marker) : ((distinct markers).map (·.text)).Nodup := by
  induction markers with
  | nil => exact List.nodup_nil
  | cons head rest ih =>
    rw [distinct]
    split
    · exact ih
    · rw [List.map_cons, List.nodup_cons]
      constructor
      · intro repeated
        obtain ⟨other, member, same⟩ := List.mem_map.1 repeated
        have different : other.text ≠ head.text := by simpa using (List.mem_filter.1 member).2
        exact different same
      · exact ih.sublist (List.filter_sublist.map _)

theorem distinct_eq_self {markers : List Marker} (filled : ∀ marker ∈ markers, marker.text ≠ "")
    (nodup : (markers.map (·.text)).Nodup) : distinct markers = markers := by
  induction markers with
  | nil => rfl
  | cons marker rest ih =>
    rw [List.forall_mem_cons] at filled
    rw [List.map_cons, List.nodup_cons] at nodup
    rw [distinct, if_neg filled.1, ih filled.2 nodup.2, List.filter_eq_self.2]
    intro other member
    have different : other.text ≠ marker.text := fun same =>
      nodup.1 (same ▸ List.mem_map_of_mem member)
    simpa using different

theorem mergeSort_eq_of_perm {markers others : List Marker}
    (nodup : (markers.map (·.text)).Nodup) (perm : markers.Perm others) :
    markers.mergeSort Marker.precedes = others.mergeSort Marker.precedes := by
  refine Marker.ranked.mergeSort_eq_of_perm perm ?_
  intro marker member other otherMember ranks
  exact List.inj_on_of_nodup_map nodup member otherMember (Prod.mk.inj (toLex_inj.1 ranks)).2

/-- No marker is empty, none is there twice, and longer ones stand first. -/
structure Canonical (set : MarkerSet) : Prop where
  filled : ∀ marker ∈ set.markers, marker.text ≠ ""
  nodup : (set.markers.map (·.text)).Nodup
  descending : set.markers.Pairwise fun marker other =>
    Text.byteLength other.text.toList ≤ Text.byteLength marker.text.toList

theorem canonical_ofList (markers : List Marker) : (ofList markers).Canonical where
  filled marker member := (of_mem_distinct (List.mem_mergeSort.1 member)).2
  nodup := ((List.mergeSort_perm _ _).map _).nodup_iff.2 (nodup_distinct markers)
  descending := by
    refine (Marker.ranked.pairwise_mergeSort _).imp ?_
    intro marker other before
    rcases Prod.Lex.toLex_le_toLex.1 before with longer | ⟨size, -⟩
    · exact Nat.le_of_lt longer
    · exact Nat.le_of_eq (OrderDual.toDual_inj.1 size).symm

theorem ofList_eq_of_perm {markers ordered : List Marker} (same : distinct markers = markers)
    (perm : markers.Perm ordered)
    (sorted : ordered.Pairwise fun marker other => marker.precedes other = true) :
    ofList markers = ⟨ordered⟩ := by
  have nodup := nodup_distinct markers
  rw [same] at nodup
  rw [ofList, same, mergeSort_eq_of_perm nodup perm, List.mergeSort_of_pairwise sorted]

theorem ofList_eq_of_ordered {markers : List Marker} (same : distinct markers = markers)
    (ordered : markers.Pairwise fun marker other => marker.precedes other = true) :
    ofList markers = ⟨markers⟩ :=
  ofList_eq_of_perm same (.refl markers) ordered

section Matching

variable {set : MarkerSet} {text : List Char} {marker other : Marker}

theorem Canonical.eq_of_text_eq (canonical : set.Canonical) (member : marker ∈ set.markers)
    (otherMember : other ∈ set.markers) (same : marker.text = other.text) : marker = other :=
  List.inj_on_of_nodup_map canonical.nodup member otherMember same

theorem mem_of_match? (found : set.match? text = some marker) : marker ∈ set.markers :=
  List.mem_of_find?_eq_some found

theorem begins_of_match? (found : set.match? text = some marker) :
    marker.text.toList <+: text :=
  Marker.begins_iff.1 (List.find?_some (p := fun marker : Marker => marker.begins text) found)

theorem not_begins_of_match?_eq_none (unmatched : set.match? text = none)
    (member : marker ∈ set.markers) : ¬marker.text.toList <+: text := by
  have rejected := List.find?_eq_none.1 unmatched marker member
  rwa [Marker.begins_iff] at rejected

theorem Canonical.longest_of_match? (canonical : set.Canonical)
    (found : set.match? text = some marker) (member : other ∈ set.markers)
    (begins : other.text.toList <+: text) :
    Text.byteLength other.text.toList ≤ Text.byteLength marker.text.toList := by
  obtain ⟨-, before, behind, split, passed⟩ := List.find?_eq_some_iff_append.1 found
  have descending := canonical.descending
  rw [split] at member descending
  rcases List.mem_append.1 member with earlier | later
  · have rejected := passed other earlier
    rw [Marker.begins_iff.2 begins] at rejected
    cases rejected
  · rcases List.mem_cons.1 later with rfl | later
    · exact Nat.le_refl _
    · exact (List.pairwise_cons.1 (List.pairwise_append.1 descending).2.1).1 other later

end Matching

end MarkerSet

end Phrasebook
