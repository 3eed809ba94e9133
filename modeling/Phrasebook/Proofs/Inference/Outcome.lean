import Phrasebook.Proofs.Inference.Examples
import Phrasebook.Proofs.Inference.References

namespace Phrasebook

/-! ## Arguments -/

namespace Json

theorem mismatch_ne_ok (expected : String) (text : List Char) (read : Json × List Char) :
    mismatch expected text ≠ .ok read := by
  intro accepted
  unfold mismatch at accepted
  split at accepted
  · cases accepted
  · cases accepted
  · obtain ⟨⟨found, rest⟩, -, accepted⟩ := Segment.exists_of_bind_eq_ok accepted
    simp only at accepted
    split at accepted <;> cases accepted

theorem Shape.exists_of_map_eq_ok {item : Shape} {limit : Nat} {text rest : List Char} {json : Json}
    (read : Shape.map item limit text = .ok (json, rest)) : ∃ members, json = .object members := by
  unfold Shape.map at read
  split at read
  · cases read
  · obtain ⟨⟨members, behind⟩, -, read⟩ := Segment.exists_of_bind_eq_ok read
    cases read
    exact ⟨members, rfl⟩
  · exact absurd read (mismatch_ne_ok _ _ _)

theorem exists_of_whole_eq_ok {α : Type} {read : Read α} {text : String} {value : α}
    (accepted : whole read text = .ok value) : ∃ rest, read text.toList = .ok (value, rest) := by
  unfold whole at accepted
  simp only at accepted
  split at accepted
  · cases accepted
  · rename_i found rest reads
    split at accepted
    · cases accepted
      exact ⟨rest, reads⟩
    · cases accepted

end Json

theorem objectOf_eq_ok_iff_whole {text : String} {members : List (String × Json)} :
    objectOf text = .ok members ↔
      Json.whole (Json.Shape.map Json.Shape.any Json.nestingLimit) text =
        .ok (.object members) := by
  unfold objectOf
  cases read : Json.whole (Json.Shape.map Json.Shape.any Json.nestingLimit) text with
  | error misread => simp [Except.map]
  | ok json =>
    obtain ⟨rest, shaped⟩ := Json.exists_of_whole_eq_ok read
    obtain ⟨found, rfl⟩ := Json.Shape.exists_of_map_eq_ok shaped
    simp [Except.map, Json.members?]

def Decodes (argument : String) (members : List (String × Json)) : Prop :=
  Json.whole (Json.Shape.map Json.Shape.any Json.nestingLimit) (argumentText argument) =
    .ok (.object members)

theorem objectOf_eq_ok_iff {argument : String} {members : List (String × Json)} :
    objectOf (argumentText argument) = .ok members ↔ Decodes argument members :=
  objectOf_eq_ok_iff_whole

theorem exists_decodes_iff {argument : String} :
    (∃ members, Decodes argument members) ↔ (objectOf (argumentText argument)).isOk = true := by
  simp only [← objectOf_eq_ok_iff]
  cases objectOf (argumentText argument) <;> simp [Except.isOk, Except.toBool]

/-! ## Segments by themselves -/

namespace Segment

def interpolatedKey? : Segment → Option String
  | interpolation _ key _ => some key.trimmed
  | _ => none

def nestedKey? : Segment → Option String
  | nesting _ key _ => some key.trimmed
  | _ => none

def argument? : Segment → Option String
  | nesting _ _ argument? => argument?.map (·.text)
  | _ => none

def Introduces (segment : Segment) (name : String) : Prop :=
  segment.interpolatedKey? = some name ∧ name ≠ "" ∨
    ∃ argument ∈ segment.argument?, ∃ members,
      Decodes argument members ∧ name ∈ members.map (·.1)

def Undecoded (segment : Segment) : Prop :=
  ∃ argument ∈ segment.argument?, ¬∃ members, Decodes argument members

instance : DecidablePred Undecoded := fun segment =>
  decidable_of_iff (segment.argument?.any fun argument => !(objectOf (argumentText argument)).isOk)
    (by simp [Undecoded, exists_decodes_iff, Option.any_eq_true])

def HasBlankKey (segment : Segment) : Prop := segment.key?.map Token.trimmed = some ""

instance : DecidablePred HasBlankKey := fun _ => inferInstanceAs (Decidable (_ = _))

def argumentWarnings (argument : String) : List Warning :=
  ((Inferred.ofNames []).withArgument argument).warnings

def warnings (site : MessageSite) (all : List Segment) (index : Nat) : Segment → List Warning
  | literal _ => []
  | interpolation opener key _ =>
    if key.trimmed = "" then [site.blankKey "variables" all opener index] else []
  | nesting opener key argument? =>
    (argument?.elim [] fun argument => argumentWarnings argument.text) ++
      if key.trimmed = "" then [site.blankKey "references" all opener index] else []

end Segment

/-! ## Variables -/

namespace Inferred

theorem isSome_examples_withVariables (names : List String) (examples : Dictionary Json)
    (name : String) : ((names.foldl (fun examples name =>
        examples.insert name (Example.forName name)) examples).get? name).isSome ↔
      name ∈ names ∨ (examples.get? name).isSome := by
  induction names generalizing examples with
  | nil => simp
  | cons first rest ih =>
    rw [List.foldl_cons, ih, Dictionary.get?_insert, List.mem_cons]
    by_cases same : name = first <;> simp [same]

theorem isSome_examples_ofNames (names : List String) (name : String) :
    ((ofNames names).examples.get? name).isSome ↔ name ∈ names ∧ name ≠ "" := by
  rw [ofNames, isSome_examples_withVariables]
  simp

theorem isSome_examples_withNewVariables (members : List (String × Json)) (inferred : Inferred)
    (name : String) : ((members.foldl (fun inferred entry =>
        inferred.withNewVariable entry.1) inferred).examples.get? name).isSome ↔
      (inferred.examples.get? name).isSome ∨ name ∈ members.map (·.1) := by
  induction members generalizing inferred with
  | nil => simp
  | cons first rest ih =>
    rw [List.foldl_cons, ih, withNewVariable, Dictionary.get?_insertNew, List.map_cons,
      List.mem_cons]
    by_cases same : name = first.1 <;> simp [same]

theorem isSome_examples_withArgument (inferred : Inferred) (argument name : String) :
    ((inferred.withArgument argument).examples.get? name).isSome ↔
      (inferred.examples.get? name).isSome ∨
        ∃ members, Decodes argument members ∧ name ∈ members.map (·.1) := by
  simp only [← objectOf_eq_ok_iff, withArgument]
  cases objectOf (argumentText argument) with
  | error misread => simp [warn]
  | ok members => simp only [isSome_examples_withNewVariables, Except.ok.injEq, exists_eq_left']

theorem isSome_examples_withSegment (site : MessageSite) (all : List Segment)
    (inferred : Inferred) (segment : Segment) (index : Nat) (name : String) :
    ((inferred.withSegment site all (segment, index)).examples.get? name).isSome ↔
      (inferred.examples.get? name).isSome ∨ segment.Introduces name := by
  cases segment with
  | literal token =>
    simp [withSegment, Segment.Introduces, Segment.interpolatedKey?, Segment.argument?]
  | interpolation opener key format? =>
    simp only [withSegment, Segment.Introduces, Segment.interpolatedKey?, Segment.argument?,
      Option.some.injEq, Option.mem_def, reduceCtorEq, false_and, exists_false, or_false]
    by_cases blank : key.trimmed = ""
    · have unnamed : ¬(key.trimmed = name ∧ name ≠ "") := by
        rw [blank]
        exact fun both => both.2 both.1.symm
      rw [if_pos blank, warn, or_iff_left unnamed]
    · rw [if_neg blank, withVariable, Dictionary.get?_insert]
      by_cases same : name = key.trimmed
      · subst same
        simp [blank]
      · simp [same, Ne.symm same]
  | nesting opener key argument? =>
    -- Neither a reference nor a warning touches the variables of the argument.
    have kept : (inferred.withSegment site all (.nesting opener key argument?, index)).examples =
        ((argument?.map fun argument => inferred.withArgument argument.text).getD
          inferred).examples := by
      simp only [withSegment]
      split <;> rfl
    rw [kept]
    simp only [Segment.Introduces, Segment.interpolatedKey?, Segment.argument?, reduceCtorEq,
      false_and, false_or]
    cases argument? with
    | none => simp
    | some argument => simp [isSome_examples_withArgument]

theorem isSome_examples_foldl_withSegment (site : MessageSite) (all segments : List Segment)
    (inferred : Inferred) (index : Nat) (name : String) :
    (((segments.zipIdx index).foldl (withSegment site all) inferred).examples.get? name).isSome ↔
      (inferred.examples.get? name).isSome ∨ ∃ segment ∈ segments, segment.Introduces name := by
  induction segments generalizing inferred index with
  | nil => simp
  | cons segment rest ih =>
    rw [List.zipIdx_cons, List.foldl_cons, ih, isSome_examples_withSegment, or_assoc]
    simp only [List.mem_cons, exists_eq_or_imp]

/-! ## Warnings -/

theorem warnings_withNewVariables (members : List (String × Json)) (inferred : Inferred) :
    (members.foldl (fun inferred entry => inferred.withNewVariable entry.1) inferred).warnings =
      inferred.warnings := by
  induction members generalizing inferred with
  | nil => rfl
  | cons entry rest ih => exact ih (inferred.withNewVariable entry.1)

theorem warnings_withArgument (inferred : Inferred) (argument : String) :
    (inferred.withArgument argument).warnings =
      inferred.warnings ++ Segment.argumentWarnings argument := by
  simp only [Segment.argumentWarnings, withArgument]
  cases objectOf (argumentText argument) with
  | error misread => rfl
  | ok members => simp only [warnings_withNewVariables, ofNames, List.append_nil]

theorem warnings_withSegment (site : MessageSite) (all : List Segment) (inferred : Inferred)
    (segment : Segment) (index : Nat) :
    (inferred.withSegment site all (segment, index)).warnings =
      inferred.warnings ++ segment.warnings site all index := by
  cases segment with
  | literal token => simp [withSegment, Segment.warnings]
  | interpolation opener key format? =>
    simp only [withSegment, Segment.warnings]
    by_cases blank : key.trimmed = ""
    · rw [if_pos blank, if_pos blank, warn]
    · rw [if_neg blank, if_neg blank, withVariable, List.append_nil]
  | nesting opener key argument? =>
    have behindArgument : ((argument?.map fun argument =>
        inferred.withArgument argument.text).getD inferred).warnings = inferred.warnings ++
          argument?.elim [] fun argument => Segment.argumentWarnings argument.text := by
      cases argument? with
      | none => simp
      | some argument => rw [Option.map_some, Option.getD_some, warnings_withArgument]; rfl
    simp only [withSegment, Segment.warnings, ← List.append_assoc, ← behindArgument]
    by_cases blank : key.trimmed = ""
    · rw [if_pos blank, if_pos blank, warn]
    · rw [if_neg blank, if_neg blank, withReference, List.append_nil]

theorem warnings_foldl_withSegment (site : MessageSite) (all segments : List Segment)
    (inferred : Inferred) (index : Nat) :
    ((segments.zipIdx index).foldl (withSegment site all) inferred).warnings = inferred.warnings ++
      (segments.zipIdx index).flatMap fun entry => entry.1.warnings site all entry.2 := by
  induction segments generalizing inferred index with
  | nil => simp
  | cons segment rest ih =>
    rw [List.zipIdx_cons, List.foldl_cons, ih, warnings_withSegment, List.append_assoc,
      List.flatMap_cons]

end Inferred

namespace Segment

variable (site : MessageSite) (all : List Segment)

theorem argumentWarnings_cases (argument : String) :
    ((objectOf (argumentText argument)).isOk = true ∧ argumentWarnings argument = []) ∨
      ((objectOf (argumentText argument)).isOk = false ∧
        ∃ warning, argumentWarnings argument = [warning] ∧ warning.level = .minor) := by
  simp only [argumentWarnings, Inferred.withArgument]
  cases objectOf (argumentText argument) with
  | error misread => exact .inr ⟨rfl, _, rfl, rfl⟩
  | ok members => exact .inl ⟨rfl, Inferred.warnings_withNewVariables members _⟩

theorem length_warnings (segment : Segment) (index : Nat) :
    (segment.warnings site all index).length =
      (if segment.Undecoded then 1 else 0) + if segment.HasBlankKey then 1 else 0 := by
  cases segment with
  | literal token => simp [warnings, Undecoded, argument?, HasBlankKey, key?]
  | interpolation opener key format? =>
    by_cases blank : key.trimmed = "" <;>
      simp [warnings, Undecoded, argument?, HasBlankKey, key?, blank]
  | nesting opener key argument? =>
    have argued : (argument?.elim [] fun argument => argumentWarnings argument.text).length =
        if (nesting opener key argument?).Undecoded then 1 else 0 := by
      cases argument? with
      | none => simp [Undecoded, Segment.argument?]
      | some argument =>
        have undecoded : (nesting opener key (some argument)).Undecoded ↔
            ¬(objectOf (argumentText argument.text)).isOk = true := by
          simp [Undecoded, Segment.argument?, exists_decodes_iff]
        rw [Option.elim_some]
        rcases argumentWarnings_cases argument.text with ⟨read, warned⟩ | ⟨unread, _, warned, -⟩
        · simp [undecoded, read, warned]
        · simp [undecoded, unread, warned]
    simp only [warnings, List.length_append, argued, HasBlankKey, key?]
    by_cases blank : key.trimmed = "" <;> simp [blank]

theorem length_flatMap_warnings (segments : List Segment) (index : Nat) :
    ((segments.zipIdx index).flatMap fun entry => entry.1.warnings site all entry.2).length =
      segments.countP (Undecoded ·) + segments.countP (HasBlankKey ·) := by
  induction segments generalizing index with
  | nil => rfl
  | cons segment rest ih =>
    rw [List.zipIdx_cons, List.flatMap_cons, List.length_append, ih, length_warnings,
      List.countP_cons, List.countP_cons]
    simp only [decide_eq_true_eq]
    omega

theorem level_of_mem_warnings {segment : Segment} {index : Nat} {warning : Warning}
    (member : warning ∈ segment.warnings site all index) : warning.level = .minor := by
  have keyed : ∀ subject opener (key : Token),
      warning ∈ (if key.trimmed = "" then [site.blankKey subject all opener index] else []) →
        warning.level = .minor := by
    intro subject opener key warned
    split at warned
    · obtain rfl := List.mem_singleton.1 warned
      rfl
    · cases warned
  cases segment with
  | literal token => cases member
  | interpolation opener key format? => exact keyed _ opener key member
  | nesting opener key argument? =>
    rcases List.mem_append.1 member with argued | warned
    · cases argument? with
      | none => cases argued
      | some argument =>
        rw [Option.elim_some] at argued
        rcases argumentWarnings_cases argument.text with ⟨-, none⟩ | ⟨-, other, one, minor⟩
        · rw [none] at argued
          cases argued
        · rw [one] at argued
          exact List.mem_singleton.1 argued ▸ minor
    · exact keyed _ opener key warned

end Segment

/-! ## References -/

theorem Segment.argumentFor?_eq_some_iff {segment : Segment} {name : String}
    {argument? : Option String} : segment.argumentFor? name = some argument? ↔
      name ≠ "" ∧ segment.nestedKey? = some name ∧ segment.argument? = argument? := by
  cases segment with
  | nesting opener key given? =>
    simp only [argumentFor?, nestedKey?, Segment.argument?, Option.ite_none_right_eq_some,
      Option.some.injEq]
    rw [and_comm (a := key.trimmed = name), and_assoc]
  | _ => simp [argumentFor?, nestedKey?]

theorem Segment.argumentFor?_eq_none_iff {segment : Segment} {name : String} (filled : name ≠ "") :
    segment.argumentFor? name = none ↔ segment.nestedKey? ≠ some name := by
  cases segment <;> simp [argumentFor?, nestedKey?, filled]

theorem Segment.findSome?_argumentFor?_eq_some_iff {segments : List Segment} {name : String}
    {argument? : Option String} :
    segments.findSome? (argumentFor? name) = some argument? ↔ name ≠ "" ∧
      ∃ before segment after, segments = before ++ segment :: after ∧
        segment.nestedKey? = some name ∧ segment.argument? = argument? ∧
          ∀ earlier ∈ before, earlier.nestedKey? ≠ some name := by
  simp only [List.findSome?_eq_some_iff, argumentFor?_eq_some_iff]
  constructor
  · rintro ⟨before, segment, after, split, ⟨filled, keyed, argued⟩, passed⟩
    refine ⟨filled, before, segment, after, split, keyed, argued, ?_⟩
    exact fun earlier member => (argumentFor?_eq_none_iff filled).1 (passed earlier member)
  · rintro ⟨filled, before, segment, after, split, keyed, argued, passed⟩
    refine ⟨before, segment, after, split, ⟨filled, keyed, argued⟩, ?_⟩
    exact fun earlier member => (argumentFor?_eq_none_iff filled).2 (passed earlier member)

/-! ## Messages -/

/-- A message names the variables that the pattern finds and, if it can be understood, those that
its segments introduce. -/
def Inferrer.Names (inferrer : Inferrer) (text name : String) : Prop :=
  (name ∈ (inferrer.pattern.captures text).map (·.name) ∧ name ≠ "") ∨
    ∃ segments, inferrer.markers.parse text = .ok segments ∧
      ∃ segment ∈ segments, segment.Introduces name

theorem Inferrer.isSome_examples_infer (inferrer : Inferrer) (site : MessageSite) (name : String) :
    ((inferrer.infer site).examples.get? name).isSome ↔ inferrer.Names site.text name := by
  unfold infer Names
  cases inferrer.markers.parse site.text with
  | error fault => simp [Inferred.warn, Inferred.isSome_examples_ofNames]
  | ok segments =>
    simp only [Inferred.isSome_examples_foldl_withSegment, Inferred.isSome_examples_ofNames,
      Except.ok.injEq, exists_eq_left']

/-- Each variable has the example for its name, and every warning is minor. A message that cannot
be understood has the names that the pattern finds and one warning. Any other message has these
names, those that its segments introduce, the references of its nestings, and a warning for each
argument that is not read and for each blank key. -/
theorem Inferrer.infer_outcome (inferrer : Inferrer) (site : MessageSite) :
    let inferred := inferrer.infer site
    let captured := (inferrer.pattern.captures site.text).map (·.name)
    Example.Suitable inferred.examples ∧
      (∀ warning ∈ inferred.warnings, warning.level = .minor) ∧
      match inferrer.markers.parse site.text with
      | .error _ =>
        (∀ name, (inferred.examples.get? name).isSome ↔ name ∈ captured ∧ name ≠ "") ∧
          inferred.references = ∅ ∧ inferred.warnings.length = 1
      | .ok segments =>
        (∀ name, (inferred.examples.get? name).isSome ↔
          (name ∈ captured ∧ name ≠ "") ∨ ∃ segment ∈ segments, segment.Introduces name) ∧
        (∀ name argument?, inferred.references.get? name = some argument? ↔ name ≠ "" ∧
          ∃ before segment after, segments = before ++ segment :: after ∧
            segment.nestedKey? = some name ∧ segment.argument? = argument? ∧
              ∀ earlier ∈ before, earlier.nestedKey? ≠ some name) ∧
        inferred.warnings.length =
          segments.countP (Segment.Undecoded ·) + segments.countP (Segment.HasBlankKey ·) := by
  intro inferred captured
  refine ⟨inferrer.suitable_infer site, ?_⟩
  have unfolded : inferred = inferrer.infer site := rfl
  unfold infer at unfolded
  cases parsed : inferrer.markers.parse site.text with
  | error fault =>
    rw [parsed] at unfolded
    rw [unfolded]
    refine ⟨?_, ?_, rfl, rfl⟩
    · intro warning member
      obtain rfl := List.mem_singleton.1 member
      rfl
    · exact Inferred.isSome_examples_ofNames captured
  | ok segments =>
    rw [parsed] at unfolded
    rw [unfolded]
    refine ⟨?_, ?_, ?_, ?_⟩
    · intro warning member
      rw [Inferred.warnings_foldl_withSegment] at member
      obtain ⟨entry, -, warned⟩ := List.mem_flatMap.1 member
      exact Segment.level_of_mem_warnings _ _ warned
    · intro name
      rw [Inferred.isSome_examples_foldl_withSegment, Inferred.isSome_examples_ofNames]
    · intro name argument?
      rw [Inferred.get?_references_foldl_withSegment, ← Segment.findSome?_argumentFor?_eq_some_iff]
      rfl
    · rw [Inferred.warnings_foldl_withSegment, List.length_append,
        Segment.length_flatMap_warnings]
      simp [Inferred.ofNames]

end Phrasebook
