import Phrasebook.Inference.Basic
import Phrasebook.Proofs.Dictionary.Lookup

namespace Phrasebook

def Segment.argumentFor? (name : String) : Segment → Option (Option String)
  | nesting _ key argument? =>
    if key.trimmed = name ∧ name ≠ "" then some (argument?.map (·.text)) else none
  | _ => none

/-- The argument with which a message first refers to a name; none if it does not, or if it cannot
be understood. -/
def Inferrer.argumentIn? (inferrer : Inferrer) (text name : String) : Option (Option String) :=
  match inferrer.markers.parse text with
  | .error _ => none
  | .ok segments => segments.findSome? (Segment.argumentFor? name)

namespace Inferred

@[simp] theorem references_warn (inferred : Inferred) (warning : Warning) :
    (inferred.warn warning).references = inferred.references := rfl

@[simp] theorem references_withVariable (inferred : Inferred) (name : String) :
    (inferred.withVariable name).references = inferred.references := rfl

theorem references_withNewVariables (inferred : Inferred) (members : List (String × Json)) :
    (members.foldl (fun inferred entry => inferred.withNewVariable entry.1) inferred).references =
      inferred.references := by
  induction members generalizing inferred with
  | nil => rfl
  | cons entry rest ih => exact ih (inferred.withNewVariable entry.1)

theorem references_withArgument (inferred : Inferred) (argument : String) :
    (inferred.withArgument argument).references = inferred.references := by
  unfold withArgument
  simp only
  split
  · exact references_withNewVariables inferred _
  · exact references_warn inferred _

theorem get?_references_withSegment (site : MessageSite) (segments : List Segment)
    (inferred : Inferred) (segment : Segment) (index : Nat) (name : String) :
    (inferred.withSegment site segments (segment, index)).references.get? name =
      (inferred.references.get? name).or (segment.argumentFor? name) := by
  cases segment with
  | literal token => simp [withSegment, Segment.argumentFor?]
  | interpolation opener key format? =>
    have kept : (inferred.withSegment site segments
        (.interpolation opener key format?, index)).references = inferred.references := by
      simp only [withSegment]
      by_cases blank : key.trimmed = ""
      · rw [if_pos blank, references_warn]
      · rw [if_neg blank, references_withVariable]
    simp [kept, Segment.argumentFor?]
  | nesting opener key argument? =>
    have kept : ((argument?.map fun argument => inferred.withArgument argument.text).getD
        inferred).references = inferred.references := by
      cases argument? with
      | none => rfl
      | some argument => rw [Option.map_some, Option.getD_some, references_withArgument]
    simp only [withSegment, Segment.argumentFor?]
    by_cases blank : key.trimmed = ""
    · have unnamed : ¬(key.trimmed = name ∧ name ≠ "") := fun ⟨same, filled⟩ =>
        filled (same ▸ blank)
      rw [if_pos blank, references_warn, kept, if_neg unnamed, Option.or_none]
    · rw [if_neg blank, withReference, Dictionary.get?_insertNew, kept]
      by_cases same : name = key.trimmed
      · subst same
        cases inferred.references.get? key.trimmed <;> simp [blank]
      · simp [same, Ne.symm same]

theorem get?_references_foldl_withSegment (site : MessageSite) (all segments : List Segment)
    (inferred : Inferred) (index : Nat) (name : String) :
    ((segments.zipIdx index).foldl (withSegment site all) inferred).references.get? name =
      (inferred.references.get? name).or (segments.findSome? (Segment.argumentFor? name)) := by
  induction segments generalizing inferred index with
  | nil => simp
  | cons segment rest ih =>
    rw [List.zipIdx_cons, List.foldl_cons, ih, get?_references_withSegment, List.findSome?_cons,
      Option.or_assoc]
    cases segment.argumentFor? name <;> rfl

end Inferred

theorem Inferrer.get?_references_infer (inferrer : Inferrer) (site : MessageSite) (name : String) :
    (inferrer.infer site).references.get? name = inferrer.argumentIn? site.text name := by
  unfold infer argumentIn?
  cases inferrer.markers.parse site.text with
  | error fault => rfl
  | ok segments => exact Inferred.get?_references_foldl_withSegment site segments segments _ 0 name

end Phrasebook
