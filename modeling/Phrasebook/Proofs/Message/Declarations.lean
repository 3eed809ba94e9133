import Phrasebook.Message.Token
import Phrasebook.Proofs.Message.Markers

namespace Phrasebook

namespace MarkerSet

def isFirst (markers : List Marker) (place : Nat) (marker : Marker) : Bool :=
  marker.text ≠ "" && (markers.take place).all (marker.text ≠ ·.text)

def declared (markers : List Marker) : List Marker :=
  (markers.zipIdx.filter fun entry => isFirst markers entry.2 entry.1).map Prod.fst

theorem isFirst_cons (head : Marker) (rest : List Marker) (place : Nat) (marker : Marker) :
    isFirst (head :: rest) (place + 1) marker =
      (marker.text ≠ head.text && isFirst rest place marker) := by
  simp [isFirst, Bool.and_left_comm]

theorem declared_cons (head : Marker) (rest : List Marker) :
    declared (head :: rest) = (if head.text = "" then [] else [head]) ++
      (declared rest).filter (·.text ≠ head.text) := by
  have behind : ((rest.zipIdx 1).filter fun entry =>
      isFirst (head :: rest) entry.2 entry.1).map Prod.fst =
        (declared rest).filter (·.text ≠ head.text) := by
    rw [declared, List.filter_map, List.filter_filter, List.zipIdx_succ, List.filter_map,
      List.map_map]
    congr 1
    refine List.filter_congr fun entry _ => ?_
    simp [isFirst_cons]
  rw [← behind, declared, List.zipIdx_cons, List.filter_cons]
  by_cases empty : head.text = "" <;> simp [isFirst, empty]

theorem distinct_eq_declared (markers : List Marker) : distinct markers = declared markers := by
  induction markers with
  | nil => rfl
  | cons head rest ih =>
    rw [distinct, declared_cons, ← ih]
    by_cases empty : head.text = ""
    · -- An empty marker hides other empty ones only, and none of these is left.
      have filled : ∀ other ∈ distinct rest, decide (other.text ≠ head.text) = true := by
        intro other member
        simpa [empty] using (of_mem_distinct member).2
      rw [if_pos empty, if_pos empty, List.nil_append, List.filter_eq_self.2 filled]
    · rw [if_neg empty, if_neg empty]
      rfl

theorem declared_eq_self {markers : List Marker} (filled : ∀ marker ∈ markers, marker.text ≠ "")
    (nodup : (markers.map (·.text)).Nodup) : declared markers = markers := by
  rw [← distinct_eq_declared, distinct_eq_self filled nodup]

theorem declared_declared (markers : List Marker) :
    declared (declared markers) = declared markers := by
  rw [← distinct_eq_declared markers]
  exact declared_eq_self (fun _ member => (of_mem_distinct member).2) (nodup_distinct markers)

theorem markers_ofList_perm (markers : List Marker) :
    (ofList markers).markers.Perm (declared markers) := by
  rw [← distinct_eq_declared]
  exact List.mergeSort_perm _ _

theorem ofList_eq_iff {markers others : List Marker} :
    ofList markers = ofList others ↔ (declared markers).Perm (declared others) := by
  constructor
  · intro same
    have perm := markers_ofList_perm markers
    rw [same] at perm
    exact perm.symm.trans (markers_ofList_perm others)
  · intro perm
    rw [← distinct_eq_declared, ← distinct_eq_declared] at perm
    rw [ofList, ofList, mergeSort_eq_of_perm (nodup_distinct markers) perm]

/-- Markers with different texts make one set in whatever order they are declared, so that every
text is cut alike and every kind has the same marker. Any other list makes the set of its markers
without the empty ones and without those that repeat a text, and two lists make one set if and only
if these are the same up to their order. -/
theorem ofList_reordered (markers : List Marker) :
    ((∀ marker ∈ markers, marker.text ≠ "") → (markers.map (·.text)).Nodup →
      ∀ ordered, markers.Perm ordered →
        ofList ordered = ofList markers ∧
        (∀ text, (ofList ordered).tokenize text = (ofList markers).tokenize text) ∧
        ∀ kind, (ofList ordered).textFor? kind = (ofList markers).textFor? kind) ∧
    ofList markers = ofList (declared markers) ∧
    ∀ others, ofList markers = ofList others ↔ (declared markers).Perm (declared others) := by
  refine ⟨fun filled nodup ordered perm => ?_, ?_, fun others => ofList_eq_iff⟩
  · have orderedFilled : ∀ marker ∈ ordered, marker.text ≠ "" := fun marker member =>
      filled marker (perm.mem_iff.2 member)
    have orderedNodup : (ordered.map (·.text)).Nodup := ((perm.map _).nodup_iff).1 nodup
    have same : ofList ordered = ofList markers := by
      rw [ofList_eq_iff, declared_eq_self filled nodup, declared_eq_self orderedFilled orderedNodup]
      exact perm.symm
    exact ⟨same, fun text => by rw [same], fun kind => by rw [same]⟩
  · rw [ofList_eq_iff, declared_declared]

def tiedMarkers : List Marker :=
  [⟨"%", .interpolationOpener⟩, ⟨"]]", .interpolationCloser⟩, ⟨"é", .nestingCloser⟩,
    ⟨"%%", .nestingOpener⟩]

def repeatedMarkers : List Marker :=
  ⟨"", .nestingSeparator⟩ :: tiedMarkers.reverse ++ [⟨"%%", .formatSeparator⟩]

theorem tiedMarkers_reordered :
    (∀ marker ∈ tiedMarkers, marker.text ≠ "") ∧ (tiedMarkers.map (·.text)).Nodup ∧
    ofList tiedMarkers.reverse = ofList tiedMarkers ∧
    ofList repeatedMarkers = ofList tiedMarkers ∧
    ofList repeatedMarkers.reverse ≠ ofList repeatedMarkers := by
  have filled : ∀ marker ∈ tiedMarkers, marker.text ≠ "" := by decide
  have nodup : (tiedMarkers.map (·.text)).Nodup := by decide
  obtain ⟨reordered, -⟩ := ofList_reordered tiedMarkers
  obtain ⟨-, cleaned, same⟩ := ofList_reordered repeatedMarkers
  have kept : declared repeatedMarkers = tiedMarkers.reverse := by decide
  obtain ⟨backwards, -⟩ := reordered filled nodup _ (List.reverse_perm _).symm
  refine ⟨filled, nodup, backwards, ?_, fun alike => ?_⟩
  · rw [cleaned, kept, backwards]
  · have perm := (same _).1 alike.symm
    revert perm
    decide

end MarkerSet

end Phrasebook
