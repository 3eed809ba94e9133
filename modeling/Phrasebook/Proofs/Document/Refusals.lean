import Phrasebook.Proofs.Checks
import Phrasebook.Proofs.Document.Members

namespace Phrasebook.Json

inductive Ordered : Json → Prop
  | leaf {value : Json} (isLeaf : value.members? = none) : Ordered value
  | object {members : List (String × Json)} (ascending : Entries.Ascending members)
    (below : ∀ member ∈ members, member.2.Ordered) : Ordered (.object members)

def refusal? (limit : Nat) (keys : List String) : Json → Option LeafFault
  | string _ => none
  | number _ => none
  | object _ => if limit ≤ keys.length then some (.tooDeep (Dotted.join keys) limit) else none
  | value => some (.unsupportedType (Dotted.join keys) value.typeName)

def Admitted (limit : Nat) (keys : List String) (value : Json) : Prop :=
  ∀ path node, value.at? path = some node → node.refusal? limit (keys ++ path) = none

/-- The fault is that of the refused node at the least path. -/
def FirstRefusal (limit : Nat) (keys : List String) (value : Json) : Check LeafFault :=
  fun fault => ∃ path node, value.at? path = some node ∧
    node.refusal? limit (keys ++ path) = some fault ∧
    ∀ earlier other, earlier < path → value.at? earlier = some other →
      other.refusal? limit (keys ++ earlier) = none

variable {limit : Nat} {keys : List String} {value : Json}

theorem FirstRefusal.not_admitted {fault : LeafFault}
    (first : value.FirstRefusal limit keys fault) :
    ¬value.Admitted limit keys := by
  obtain ⟨path, node, located, refused, -⟩ := first
  intro admitted
  cases refused.symm.trans (admitted path node located)

theorem FirstRefusal.unique {fault other : LeafFault}
    (first : value.FirstRefusal limit keys fault) (second : value.FirstRefusal limit keys other) :
    fault = other := by
  obtain ⟨path, node, located, refused, before⟩ := first
  obtain ⟨path', node', located', refused', before'⟩ := second
  have same : path = path' := by
    refine Std.Trichotomous.trichotomous (r := (· < ·)) path path' (fun earlier => ?_)
      fun later => ?_
    · cases refused.symm.trans (before' path node earlier located)
    · cases refused'.symm.trans (before path' node' later located')
  subst same
  obtain rfl := Option.some.inj (located.symm.trans located')
  exact Option.some.inj (refused.symm.trans refused')

/-! ## Checking the order -/

mutual

def isOrdered : Json → Bool
  | object members => decide (Entries.Ascending members) && areOrdered members
  | _ => true
termination_by structural value => value

def areOrdered : List (String × Json) → Bool
  | [] => true
  | (_, value) :: rest => value.isOrdered && areOrdered rest
termination_by structural members => members

end

theorem areOrdered_iff {members : List (String × Json)} :
    areOrdered members = true ↔ ∀ member ∈ members, member.2.isOrdered = true := by
  induction members with
  | nil => simp [areOrdered]
  | cons member rest ih => rw [areOrdered, Bool.and_eq_true, ih, List.forall_mem_cons]

theorem isOrdered_iff : value.isOrdered = true ↔ value.Ordered := by
  induction value using inductOn with
  | leaf value isLeaf =>
    cases value with
    | object members => cases isLeaf
    | _ => exact iff_of_true rfl (.leaf rfl)
  | object members ih =>
    rw [isOrdered, Bool.and_eq_true, decide_eq_true_eq, areOrdered_iff]
    constructor
    · rintro ⟨ascending, below⟩
      exact .object ascending fun member inside => (ih member inside).1 (below member inside)
    · intro ordered
      cases ordered with
      | leaf isLeaf => cases isLeaf
      | object ascending below =>
        exact ⟨ascending, fun member inside => (ih member inside).2 (below member inside)⟩

instance (value : Json) : Decidable value.Ordered := decidable_of_iff _ isOrdered_iff

/-! ## One node -/

theorem at?_cons_of_isLeaf (isLeaf : value.members? = none) (key : String)
    (path : List String) : value.at? (key :: path) = none := by
  cases value with
  | object members => cases isLeaf
  | _ => rfl

theorem at?_of_isLeaf (isLeaf : value.members? = none) {path : List String} {node : Json}
    (located : value.at? path = some node) : path = [] ∧ node = value := by
  cases path with
  | nil => exact ⟨rfl, (Option.some.inj located).symm⟩
  | cons key path => cases (at?_cons_of_isLeaf isLeaf key path).symm.trans located

theorem admitted_iff_of_isLeaf (isLeaf : value.members? = none) :
    value.Admitted limit keys ↔ value.refusal? limit keys = none := by
  constructor
  · intro admitted
    simpa using admitted [] value rfl
  · intro unrefused path node located
    obtain ⟨rfl, rfl⟩ := at?_of_isLeaf isLeaf located
    simpa using unrefused

theorem firstRefusal_of_refusal? {fault : LeafFault}
    (refused : value.refusal? limit keys = some fault) : value.FirstRefusal limit keys fault :=
  ⟨[], value, rfl, by simpa using refused, fun _ _ earlier => absurd earlier (List.not_lt_nil _)⟩

theorem leavesUnder_of_refusal? {fault : LeafFault}
    (refused : value.refusal? limit keys = some fault) :
    leavesUnder limit keys value = .error fault := by
  cases value with
  | object members =>
    rw [refusal?, Option.ite_none_right_eq_some] at refused
    obtain ⟨deep, ⟨⟩⟩ := refused
    rw [leavesUnder, if_pos deep]
  | _ => cases refused <;> rfl

/-! ## Members -/

section Members

variable {members : List (String × Json)}

theorem leavesOfMembers_eq_mapM : leavesOfMembers limit keys members =
    (members.mapM fun member => leavesUnder limit (keys ++ [member.1]) member.2).map
      List.flatten := by
  induction members with
  | nil => rfl
  | cons member rest ih =>
    rw [leavesOfMembers, ih, List.mapM_cons]
    cases leavesUnder limit (keys ++ [member.1]) member.2 with
    | error fault => rfl
    | ok leaves =>
      cases rest.mapM fun member => leavesUnder limit (keys ++ [member.1]) member.2 <;> rfl

theorem leavesUnder_object_eq_error {front back : List (String × Json)} {member : String × Json}
    {fault : LeafFault} (shallow : keys.length < limit)
    (before : ∀ other ∈ front, ∃ leaves, leavesUnder limit (keys ++ [other.1]) other.2 = .ok leaves)
    (fails : leavesUnder limit (keys ++ [member.1]) member.2 = .error fault) :
    leavesUnder limit keys (object (front ++ member :: back)) = .error fault := by
  have stopped : (front ++ member :: back).mapM (fun member =>
      leavesUnder limit (keys ++ [member.1]) member.2) = .error fault :=
    mapM_eq_error_iff.2 ⟨front, member, back, rfl, before, fails⟩
  rw [leavesUnder, if_neg (Nat.not_le.2 shallow), leavesOfMembers_eq_mapM, stopped]
  rfl

theorem at?_cons_eq_some_iff (ascending : Entries.Ascending members) {key : String}
    {path : List String} {node : Json} : (object members).at? (key :: path) = some node ↔
      ∃ value, (key, value) ∈ members ∧ value.at? path = some node := by
  simp only [at?, member?, Option.bind_eq_some_iff, ascending.lookup_eq_some_iff]

theorem admitted_object_iff (ascending : Entries.Ascending members) :
    (object members).Admitted limit keys ↔
      keys.length < limit ∧ ∀ member ∈ members, member.2.Admitted limit (keys ++ [member.1]) := by
  constructor
  · intro admitted
    refine ⟨?_, fun member inside path node located => ?_⟩
    · simpa [refusal?] using admitted [] (object members) rfl
    · have below := admitted (member.1 :: path) node
        ((at?_cons_eq_some_iff ascending).2 ⟨member.2, inside, located⟩)
      rwa [List.append_assoc]
  · rintro ⟨shallow, each⟩ path node located
    cases path with
    | nil =>
      obtain rfl := Option.some.inj located
      simpa [refusal?] using shallow
    | cons key path =>
      obtain ⟨value, inside, located⟩ := (at?_cons_eq_some_iff ascending).1 located
      have below := each (key, value) inside path node located
      rwa [List.append_assoc] at below

theorem FirstRefusal.ofMember {front back : List (String × Json)} {member : String × Json}
    (ascending : Entries.Ascending (front ++ member :: back)) (shallow : keys.length < limit)
    (before : ∀ other ∈ front, other.2.Admitted limit (keys ++ [other.1])) {fault : LeafFault}
    (first : member.2.FirstRefusal limit (keys ++ [member.1]) fault) :
    (object (front ++ member :: back)).FirstRefusal limit keys fault := by
  obtain ⟨path, node, located, refused, least⟩ := first
  refine ⟨member.1 :: path, node, ?_, ?_, ?_⟩
  · exact (at?_cons_eq_some_iff ascending).2 ⟨member.2, by simp, located⟩
  · rwa [List.append_assoc] at refused
  · intro earlier other below found
    cases earlier with
    | nil =>
      obtain rfl := Option.some.inj found
      simpa [refusal?] using shallow
    | cons key earlier =>
      obtain ⟨value, inside, further⟩ := (at?_cons_eq_some_iff ascending).1 found
      rw [← List.singleton_append, ← List.append_assoc]
      -- A smaller key is that of a member in front, and the same key that of the member itself.
      have behind : ∀ further ∈ back, member.1 < further.1 :=
        (List.pairwise_cons.1 (List.pairwise_append.1 ascending).2.1).1
      rcases List.mem_append.1 inside with inside | inside
      · exact before (key, value) inside earlier other further
      · rcases List.mem_cons.1 inside with rfl | inside
        · rcases List.cons_lt_cons_iff.1 below with smaller | ⟨-, below⟩
          · exact absurd smaller (String.lt_irrefl _)
          · exact least earlier other below further
        · have larger := behind (key, value) inside
          rcases List.cons_lt_cons_iff.1 below with smaller | ⟨rfl, -⟩
          · exact absurd (String.lt_trans larger smaller) (String.lt_irrefl _)
          · exact absurd larger (String.lt_irrefl _)

theorem heightOfMembers_le {bound : Nat} (each : ∀ member ∈ members, member.2.height ≤ bound) :
    heightOfMembers members ≤ bound := by
  induction members with
  | nil => exact Nat.zero_le bound
  | cons member rest ih =>
    obtain ⟨here, there⟩ := List.forall_mem_cons.1 each
    exact Nat.max_le.2 ⟨here, ih there⟩

end Members

/-! ## Documents -/

theorem Admitted.textual (admitted : value.Admitted limit keys) (ordered : value.Ordered) :
    value.Textual := by
  induction ordered generalizing keys with
  | @leaf value isLeaf =>
    have unrefused := (admitted_iff_of_isLeaf isLeaf).1 admitted
    cases value with
    | string text => exact .string text
    | number value => exact .number value
    | object members => cases isLeaf
    | _ => cases unrefused
  | object ascending below ih =>
    obtain ⟨-, each⟩ := (admitted_object_iff ascending).1 admitted
    exact .object ascending fun member inside => ih member inside (each member inside)

theorem Admitted.nested (admitted : value.Admitted limit keys) (ordered : value.Ordered)
    (shallow : keys.length ≤ limit) : keys.length + value.height ≤ limit := by
  induction ordered generalizing keys with
  | @leaf value isLeaf =>
    cases value with
    | object members => cases isLeaf
    | _ => exact shallow
  | @object members ascending below ih =>
    obtain ⟨above, each⟩ := (admitted_object_iff ascending).1 admitted
    have lower : heightOfMembers members ≤ limit - (keys.length + 1) := by
      refine heightOfMembers_le fun member inside => ?_
      have nested := ih member inside (each member inside) (by simpa using Nat.succ_le_of_lt above)
      rw [List.length_append, List.length_singleton] at nested
      omega
    rw [height]
    omega

theorem Admitted.exists_leavesUnder (admitted : value.Admitted limit keys)
    (ordered : value.Ordered) (shallow : keys.length ≤ limit) :
    ∃ leaves, leavesUnder limit keys value = .ok leaves ∧ Lists leaves keys value :=
  leavesUnder_eq_ok (admitted.textual ordered) (admitted.nested ordered shallow)

theorem Ordered.admitted_or_firstRefusal (ordered : value.Ordered) (shallow : keys.length ≤ limit) :
    value.Admitted limit keys ∨ ∃ fault, leavesUnder limit keys value = .error fault ∧
      value.FirstRefusal limit keys fault := by
  classical
  induction ordered generalizing keys with
  | @leaf value isLeaf =>
    cases refused : value.refusal? limit keys with
    | none => exact .inl ((admitted_iff_of_isLeaf isLeaf).2 refused)
    | some fault =>
      exact .inr ⟨fault, leavesUnder_of_refusal? refused, firstRefusal_of_refusal? refused⟩
  | @object members ascending below ih =>
    by_cases deep : limit ≤ keys.length
    · have refused : (Json.object members).refusal? limit keys =
          some (.tooDeep (Dotted.join keys) limit) := if_pos deep
      exact .inr ⟨_, leavesUnder_of_refusal? refused, firstRefusal_of_refusal? refused⟩
    · have lower : ∀ member : String × Json, (keys ++ [member.1]).length ≤ limit := by
        intro member
        rw [List.length_append, List.length_singleton]
        omega
      cases found : members.find? fun member =>
          ¬member.2.Admitted limit (keys ++ [member.1]) with
      | none =>
        refine .inl ((admitted_object_iff ascending).2 ⟨Nat.lt_of_not_le deep, ?_⟩)
        intro member inside
        simpa using List.find?_eq_none.1 found member inside
      | some member =>
        obtain ⟨refused, front, back, rfl, before⟩ := List.find?_eq_some_iff_append.1 found
        have refused : ¬member.2.Admitted limit (keys ++ [member.1]) := by simpa using refused
        have before : ∀ other ∈ front, other.2.Admitted limit (keys ++ [other.1]) :=
          fun other inside => by simpa using before other inside
        obtain ⟨fault, fails, first⟩ :=
          (ih member (by simp) (lower member)).resolve_left refused
        have flattened : ∀ other ∈ front, ∃ leaves,
            leavesUnder limit (keys ++ [other.1]) other.2 = .ok leaves := by
          intro other inside
          obtain ⟨leaves, flat, -⟩ := (before other inside).exists_leavesUnder
            (below other (List.mem_append_left _ inside)) (lower other)
          exact ⟨leaves, flat⟩
        exact .inr ⟨fault, leavesUnder_object_eq_error (Nat.lt_of_not_le deep) flattened fails,
          first.ofMember ascending (Nat.lt_of_not_le deep) before⟩

variable {document : Json}

theorem Ordered.leaves_or_firstRefusal (ordered : document.Ordered) (limit : Nat) :
    document.Admitted limit [] ∨
      ∃ fault, document.leaves limit = .error fault ∧ document.FirstRefusal limit [] fault :=
  ordered.admitted_or_firstRefusal (Nat.zero_le limit)

theorem Ordered.checked_leaves (ordered : document.Ordered) (limit : Nat) :
    Checked [document.FirstRefusal limit []] (document.leaves limit) := by
  refine checked_singleton_iff.2 fun fault => ?_
  rcases ordered.leaves_or_firstRefusal limit with admitted | ⟨other, fails, first⟩
  · obtain ⟨leaves, flat, -⟩ := admitted.exists_leavesUnder ordered (Nat.zero_le limit)
    rw [Json.leaves, flat]
    exact iff_of_false (fun fails => by cases fails) fun first => first.not_admitted admitted
  · rw [fails, Except.error.injEq]
    constructor
    · rintro rfl
      exact first
    · exact first.unique

theorem Ordered.exists_leaves_iff (ordered : document.Ordered) :
    (∃ leaves, document.leaves limit = .ok leaves) ↔ document.Admitted limit [] := by
  constructor
  · rintro ⟨leaves, flat⟩
    rcases ordered.leaves_or_firstRefusal limit with admitted | ⟨fault, fails, -⟩
    · exact admitted
    · cases flat.symm.trans fails
  · intro admitted
    obtain ⟨leaves, flat, -⟩ := admitted.exists_leavesUnder ordered (Nat.zero_le limit)
    exact ⟨leaves, flat⟩

theorem Ordered.mem_leaves_iff (ordered : document.Ordered) {leaves : List LeafPath}
    (flat : document.leaves limit = .ok leaves) {leaf : LeafPath} : leaf ∈ leaves ↔
      ∃ path text, leaf = path ++ [text] ∧ document.textAt? path = some text := by
  have admitted := ordered.exists_leaves_iff.1 ⟨leaves, flat⟩
  obtain ⟨others, same, listed⟩ := admitted.exists_leavesUnder ordered (Nat.zero_le limit)
  obtain rfl := Except.ok.inj (flat.symm.trans same)
  exact listed leaf

end Phrasebook.Json
