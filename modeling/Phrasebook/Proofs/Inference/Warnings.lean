import Phrasebook.Inference.Basic
import Mathlib.Data.String.Basic

namespace Phrasebook

def Warning.IsConflict (warning : Warning) : Prop :=
  warning.message = "duplicate inferred values with different values detected"

/-- Joined variables warn of nothing else. -/
theorem isConflict_of_mem_mergeVariables {examples further : Dictionary Json} {warning : Warning}
    (member : warning ∈ (mergeVariables examples further).2) : warning.IsConflict := by
  obtain ⟨entry, -, warned⟩ := List.mem_filterMap.1 member
  rw [conflict?] at warned
  cases found : examples.get? entry.1 with
  | none => simp [found] at warned
  | some former =>
    by_cases same : former.same entry.2
    · simp [found, same] at warned
    · simp only [found, if_neg same, Option.some.injEq] at warned
      exact warned ▸ rfl

theorem Warning.not_isConflict_of_head {warning : Warning} (first : Char)
    (head : warning.message.toList.head? = some first) (other : first ≠ 'd') :
    ¬warning.IsConflict := by
  intro conflict
  rw [conflict] at head
  exact other (Option.some.inj head).symm

theorem MessageSite.not_isConflict_unparsed (site : MessageSite) (fault : MessageFault) :
    ¬(site.unparsed fault).IsConflict := by
  refine Warning.not_isConflict_of_head 'T' ?_ (by decide)
  simp [unparsed, Warning.withDetails, Warning.withError, Warning.aboutVariable, Warning.new]

theorem MessageSite.not_isConflict_blankKey (site : MessageSite) (subject : String)
    (segments : List Segment) (opener : Token) (index : Nat) :
    ¬(site.blankKey subject segments opener index).IsConflict := by
  refine Warning.not_isConflict_of_head 'A' ?_ (by decide)
  simp only [blankKey, Warning.withDetails, Warning.aboutVariable, Warning.new,
    String.toList_append, List.head?_append]
  rfl

/-- Properties that every step of an inference keeps. Its steps warn, but not of conflicts. -/
structure Inferred.Closed (property : Inferred → Prop) : Prop where
  ofNames : ∀ names, property (Inferred.ofNames names)
  warn : ∀ inferred warning, ¬warning.IsConflict → property inferred →
    property (inferred.warn warning)
  withVariable : ∀ inferred name, property inferred → property (inferred.withVariable name)
  withNewVariable : ∀ inferred name, property inferred → property (inferred.withNewVariable name)
  withReference : ∀ inferred key argument?, property inferred →
    property (inferred.withReference key argument?)

namespace Inferred.Closed

variable {property : Inferred → Prop} {inferred : Inferred}

theorem withArgument (closed : Closed property) (holds : property inferred) (argument : String) :
    property (inferred.withArgument argument) := by
  unfold Inferred.withArgument
  simp only
  split
  · exact List.foldlRecOn _ _ holds fun _ former entry _ =>
      closed.withNewVariable _ entry.1 former
  · refine closed.warn _ _ ?_ holds
    simp [Warning.IsConflict, Warning.withDetails, Warning.withError, Warning.aboutVariable,
      Warning.new]

theorem withSegment (closed : Closed property) (holds : property inferred) (site : MessageSite)
    (segments : List Segment) (entry : Segment × Nat) :
    property (inferred.withSegment site segments entry) := by
  obtain ⟨segment, index⟩ := entry
  cases segment with
  | literal token => exact holds
  | interpolation opener key format? =>
    simp only [Inferred.withSegment]
    by_cases blank : key.trimmed = ""
    · rw [if_pos blank]
      exact closed.warn _ _ (site.not_isConflict_blankKey _ segments opener index) holds
    · rw [if_neg blank]
      exact closed.withVariable _ _ holds
  | nesting opener key argument? =>
    have behindArgument : property ((argument?.map fun argument =>
        inferred.withArgument argument.text).getD inferred) := by
      cases argument? with
      | none => exact holds
      | some argument =>
        rw [Option.map_some, Option.getD_some]
        exact closed.withArgument holds argument.text
    simp only [Inferred.withSegment]
    by_cases blank : key.trimmed = ""
    · rw [if_pos blank]
      exact closed.warn _ _ (site.not_isConflict_blankKey _ segments opener index) behindArgument
    · rw [if_neg blank]
      exact closed.withReference _ _ _ behindArgument

theorem infer (closed : Closed property) (inferrer : Inferrer) (site : MessageSite) :
    property (inferrer.infer site) := by
  have captured := closed.ofNames ((inferrer.pattern.captures site.text).map (·.name))
  unfold Inferrer.infer
  simp only
  split
  · exact closed.warn _ _ (site.not_isConflict_unparsed _) captured
  · exact List.foldlRecOn _ _ captured fun _ former entry _ =>
      closed.withSegment former site _ entry

end Inferred.Closed

theorem Inferred.closed_harmless : Closed fun inferred =>
    ∀ warning ∈ inferred.warnings, ¬warning.IsConflict where
  ofNames _ _ member := nomatch member
  withVariable _ _ former := former
  withNewVariable _ _ former := former
  withReference _ _ _ former := former
  warn inferred warning harmless former other member := by
    rcases List.mem_append.1 member with earlier | last
    · exact former other earlier
    · exact List.mem_singleton.1 last ▸ harmless

theorem Inferrer.not_isConflict_of_mem_infer (inferrer : Inferrer) (site : MessageSite) :
    ∀ warning ∈ (inferrer.infer site).warnings, ¬warning.IsConflict :=
  Inferred.closed_harmless.infer inferrer site

end Phrasebook
