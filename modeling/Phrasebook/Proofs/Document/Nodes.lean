import Phrasebook.Proofs.Document.Refusals

namespace Phrasebook.Json

variable {limit : Nat} {keys : List String} {value : Json} {members : List (String × Json)}

/-! ## Nodes -/

mutual

def nodesUnder (keys : List String) : Json → List (List String × Json)
  | object members => (keys, object members) :: nodesOfMembers keys members
  | value => [(keys, value)]
termination_by structural value => value

def nodesOfMembers (keys : List String) : List (String × Json) → List (List String × Json)
  | [] => []
  | (key, value) :: rest => nodesUnder (keys ++ [key]) value ++ nodesOfMembers keys rest
termination_by structural members => members

end

def nodes (document : Json) : List (List String × Json) := nodesUnder [] document

theorem nodesUnder_of_isLeaf (isLeaf : value.members? = none) (keys : List String) :
    nodesUnder keys value = [(keys, value)] := by
  cases value with
  | object members => cases isLeaf
  | _ => rfl

theorem nodesOfMembers_eq_flatMap (keys : List String) (members : List (String × Json)) :
    nodesOfMembers keys members =
      members.flatMap fun member => nodesUnder (keys ++ [member.1]) member.2 := by
  induction members with
  | nil => rfl
  | cons member rest ih => rw [nodesOfMembers, ih, List.flatMap_cons]

theorem Ordered.mem_nodesUnder_iff (ordered : value.Ordered) {path : List String} {node : Json} :
    (path, node) ∈ nodesUnder keys value ↔
      ∃ rest, path = keys ++ rest ∧ value.at? rest = some node := by
  induction ordered generalizing keys with
  | leaf isLeaf =>
    rw [nodesUnder_of_isLeaf isLeaf, List.mem_singleton, Prod.mk.injEq]
    constructor
    · rintro ⟨rfl, rfl⟩
      exact ⟨[], (List.append_nil _).symm, rfl⟩
    · rintro ⟨rest, rfl, located⟩
      obtain ⟨rfl, rfl⟩ := at?_of_isLeaf isLeaf located
      exact ⟨List.append_nil _, rfl⟩
  | object ascending below ih =>
    rw [nodesUnder, List.mem_cons, nodesOfMembers_eq_flatMap, List.mem_flatMap, Prod.mk.injEq]
    constructor
    · rintro (⟨rfl, rfl⟩ | ⟨member, inside, among⟩)
      · exact ⟨[], (List.append_nil _).symm, rfl⟩
      · obtain ⟨rest, rfl, located⟩ := (ih member inside).1 among
        refine ⟨member.1 :: rest, List.append_assoc _ _ _, ?_⟩
        exact (at?_cons_eq_some_iff ascending).2 ⟨member.2, inside, located⟩
    · rintro ⟨rest, rfl, located⟩
      cases rest with
      | nil => exact .inl ⟨List.append_nil _, (Option.some.inj located).symm⟩
      | cons key rest =>
        obtain ⟨value, inside, located⟩ := (at?_cons_eq_some_iff ascending).1 located
        refine .inr ⟨(key, value), inside, (ih _ inside).2 ⟨rest, ?_, located⟩⟩
        exact (List.append_assoc keys [key] rest).symm

theorem Ordered.pairwise_nodesUnder (ordered : value.Ordered) :
    (nodesUnder keys value).Pairwise fun first second => first.1 < second.1 := by
  induction ordered generalizing keys with
  | leaf isLeaf =>
    rw [nodesUnder_of_isLeaf isLeaf]
    exact List.pairwise_singleton _ _
  | @object members ascending below ih =>
    have split : ∀ member ∈ members, ∀ entry ∈ nodesUnder (keys ++ [member.1]) member.2,
        ∃ rest, entry.1 = keys ++ member.1 :: rest := by
      intro member inside entry among
      obtain ⟨rest, same, -⟩ := ((below member inside).mem_nodesUnder_iff).1 among
      exact ⟨rest, same.trans (List.append_assoc _ _ _)⟩
    rw [nodesUnder, nodesOfMembers_eq_flatMap, List.pairwise_cons, List.pairwise_flatMap]
    refine ⟨fun entry among => ?_, fun member inside => ih member inside, ?_⟩
    · obtain ⟨member, inside, among⟩ := List.mem_flatMap.1 among
      obtain ⟨rest, same⟩ := split member inside entry among
      have longer : keys ++ [] < keys ++ member.1 :: rest :=
        List.append_left_lt (List.nil_lt_cons _ _)
      rwa [List.append_nil, ← same] at longer
    · refine ascending.imp_of_mem fun {first second} inside otherInside smaller => ?_
      intro entry among other otherAmong
      obtain ⟨rest, same⟩ := split first inside entry among
      obtain ⟨otherRest, otherSame⟩ := split second otherInside other otherAmong
      rw [same, otherSame]
      exact List.append_left_lt (List.cons_lt_cons_iff.2 (.inl smaller))

/-! ## Leaves among nodes -/

def leafAmong? (entry : List String × Json) : Option LeafPath :=
  entry.2.leafText?.map fun text => entry.1 ++ [text]

def refusalAmong? (limit : Nat) (entry : List String × Json) : Option LeafFault :=
  entry.2.refusal? limit entry.1

def gather (limit : Nat) (entries : List (List String × Json)) :
    Except LeafFault (List LeafPath) :=
  match entries.findSome? (refusalAmong? limit) with
  | some fault => .error fault
  | none => .ok (entries.filterMap leafAmong?)

section Gather

variable {entry : List String × Json} {rest : List (List String × Json)}

theorem gather_cons_of_refusal? {fault : LeafFault}
    (refused : refusalAmong? limit entry = some fault) :
    gather limit (entry :: rest) = .error fault := by
  simp [gather, refused]

theorem gather_cons (unrefused : refusalAmong? limit entry = none) :
    gather limit (entry :: rest) =
      (gather limit rest).map fun leaves => (leafAmong? entry).toList ++ leaves := by
  simp only [gather, List.findSome?_cons, unrefused, List.filterMap_cons]
  cases rest.findSome? (refusalAmong? limit) with
  | some fault => rfl
  | none => cases leafAmong? entry <;> rfl

theorem gather_append (front back : List (List String × Json)) :
    gather limit (front ++ back) =
      (gather limit front).bind fun leaves => (gather limit back).map (leaves ++ ·) := by
  unfold gather
  rw [List.findSome?_append, List.filterMap_append]
  cases front.findSome? (refusalAmong? limit) with
  | some fault => rfl
  | none => cases back.findSome? (refusalAmong? limit) <;> rfl

theorem leavesOfMembers_eq_gather
    (each : ∀ member ∈ members, leavesUnder limit (keys ++ [member.1]) member.2 =
      gather limit (nodesUnder (keys ++ [member.1]) member.2)) :
    leavesOfMembers limit keys members = gather limit (nodesOfMembers keys members) := by
  induction members with
  | nil => rfl
  | cons member rest ih =>
    obtain ⟨here, there⟩ := List.forall_mem_cons.1 each
    rw [leavesOfMembers, nodesOfMembers, gather_append, here, ih there]
    rfl

theorem leavesUnder_eq_gather (limit : Nat) (keys : List String) (value : Json) :
    leavesUnder limit keys value = gather limit (nodesUnder keys value) := by
  induction value using inductOn generalizing keys with
  | leaf value isLeaf =>
    cases value with
    | object members => cases isLeaf
    | _ => rfl
  | object members ih =>
    by_cases deep : limit ≤ keys.length
    · have refused : refusalAmong? limit (keys, object members) =
          some (.tooDeep (Dotted.join keys) limit) := if_pos deep
      rw [leavesUnder_of_refusal? refused, nodesUnder, gather_cons_of_refusal? refused]
    · have unrefused : refusalAmong? limit (keys, object members) = none := if_neg deep
      rw [leavesUnder, if_neg deep, nodesUnder, gather_cons unrefused,
        leavesOfMembers_eq_gather fun member inside => ih member inside _]
      cases gather limit (nodesOfMembers keys members) <;> rfl

end Gather

theorem leaves_eq_gather (limit : Nat) (document : Json) :
    document.leaves limit = gather limit document.nodes :=
  leavesUnder_eq_gather limit [] document

/-! ## Walking with a stack -/

def push (keys : List String) (members : List (String × Json))
    (pending : List (List String × Json)) : List (List String × Json) :=
  members.reverse.foldl (fun pending member => (keys ++ [member.1], member.2) :: pending) pending

theorem push_eq_append (keys : List String) (members : List (String × Json))
    (pending : List (List String × Json)) : push keys members pending =
      members.map (fun member => (keys ++ [member.1], member.2)) ++ pending := by
  rw [push, List.foldl_reverse]
  induction members with
  | nil => rfl
  | cons member rest ih => rw [List.foldr_cons, ih, List.map_cons, List.cons_append]

theorem sum_sizeOf_push_lt (keys : List String) (members : List (String × Json))
    (pending : List (List String × Json)) :
    ((push keys members pending).map fun entry => sizeOf entry.2).sum <
      sizeOf (object members) + (pending.map fun entry => sizeOf entry.2).sum := by
  have inside := Entries.sum_sizeOf_le members
  rw [push_eq_append, List.map_append, List.sum_append, List.map_map]
  simp only [Function.comp_def, object.sizeOf_spec]
  omega

/-- Takes pending nodes one by one, behind the leaves that were found so far. -/
def walk (limit : Nat) (found : List LeafPath) :
    List (List String × Json) → Except LeafFault (List LeafPath)
  | [] => .ok found
  | (keys, string text) :: pending => walk limit (found ++ [keys ++ [text]]) pending
  | (keys, number value) :: pending => walk limit (found ++ [keys ++ [value.leafText]]) pending
  | (keys, object members) :: pending =>
    if limit ≤ keys.length then .error (.tooDeep (Dotted.join keys) limit)
    else walk limit found (push keys members pending)
  | (keys, value) :: _ => .error (.unsupportedType (Dotted.join keys) value.typeName)
termination_by pending => (pending.map fun entry => sizeOf entry.2).sum
decreasing_by
  · simp
  · simp
  · have smaller := sum_sizeOf_push_lt keys members pending
    simpa using smaller

theorem walk_eq_gather (limit : Nat) (found : List LeafPath)
    (pending : List (List String × Json)) : walk limit found pending =
      (gather limit (pending.flatMap fun entry => nodesUnder entry.1 entry.2)).map
        (found ++ ·) := by
  induction found, pending using walk.induct limit with
  | case1 found =>
    rw [walk]
    exact congrArg Except.ok (List.append_nil found).symm
  | case2 found keys text pending ih | case3 found keys value pending ih =>
    rw [walk, ih, List.flatMap_cons, nodesUnder_of_isLeaf rfl, List.singleton_append,
      gather_cons rfl]
    cases gather limit (pending.flatMap fun entry => nodesUnder entry.1 entry.2) <;>
      simp [Except.map, leafAmong?, leafText?]
  | case4 found keys members pending deep =>
    have refused : refusalAmong? limit (keys, object members) =
        some (.tooDeep (Dotted.join keys) limit) := if_pos deep
    rw [walk, if_pos deep, List.flatMap_cons, nodesUnder, List.cons_append,
      gather_cons_of_refusal? refused]
    rfl
  | case5 found keys members pending shallow ih =>
    have unrefused : refusalAmong? limit (keys, object members) = none := if_neg shallow
    -- Pushed in reverse, the members are taken in their order, and before what was pending.
    rw [walk, if_neg shallow, ih, List.flatMap_cons, nodesUnder, List.cons_append,
      gather_cons unrefused, push_eq_append, List.flatMap_append, List.flatMap_map,
      nodesOfMembers_eq_flatMap]
    cases gather limit _ <;> rfl
  | case6 found keys value pending noText noNumber noObject =>
    have stopped : walk limit found ((keys, value) :: pending) =
        .error (.unsupportedType (Dotted.join keys) value.typeName) := by
      rw [walk] <;> assumption
    rw [stopped, List.flatMap_cons]
    cases value with
    | string text => exact absurd rfl (noText text)
    | number value => exact absurd rfl (noNumber value)
    | object members => exact absurd rfl (noObject members)
    | _ => rw [nodesUnder_of_isLeaf rfl, List.singleton_append, gather_cons_of_refusal? rfl]; rfl

theorem walk_eq_leaves (limit : Nat) (document : Json) :
    walk limit [] [([], document)] = document.leaves limit := by
  rw [walk_eq_gather, List.flatMap_singleton, leaves_eq_gather, nodes]
  cases gather limit (nodesUnder [] document) <;> rfl

/-! ## Flattening -/

theorem refusal?_eq_none_iff : value.refusal? limit keys = none ↔
    (∃ text, value.leafText? = some text) ∨
      ∃ members, value = .object members ∧ keys.length < limit := by
  cases value <;> simp [refusal?, leafText?]

theorem gather_eq_ok_iff {entries : List (List String × Json)} {leaves : List LeafPath} :
    gather limit entries = .ok leaves ↔
      (∀ entry ∈ entries, refusalAmong? limit entry = none) ∧
        leaves = entries.filterMap leafAmong? := by
  rw [← List.findSome?_eq_none_iff, gather]
  cases entries.findSome? (refusalAmong? limit) <;> simp [eq_comm]

theorem gather_eq_error_iff {entries : List (List String × Json)} {fault : LeafFault} :
    gather limit entries = .error fault ↔ ∃ front entry back, entries = front ++ entry :: back ∧
      refusalAmong? limit entry = some fault ∧
        ∀ earlier ∈ front, refusalAmong? limit earlier = none := by
  rw [← List.findSome?_eq_some_iff, gather]
  cases entries.findSome? (refusalAmong? limit) <;> simp

def Apart (path other : List String) : Prop := ¬path <+: other ∧ ¬other <+: path

structure Flattened (document : Json) (leaves : List LeafPath) : Prop where
  eq_filterMap : leaves = document.nodes.filterMap leafAmong?
  mem_iff : ∀ leaf, leaf ∈ leaves ↔
    ∃ path text, leaf = path ++ [text] ∧ document.textAt? path = some text
  ascending : leaves.Pairwise fun leaf other => leaf.dropLast < other.dropLast
  apart : leaves.Pairwise fun leaf other => Apart leaf.dropLast other.dropLast

variable {document : Json}

theorem Ordered.exists_leaves_iff_forall (ordered : document.Ordered) :
    (∃ leaves, document.leaves limit = .ok leaves) ↔
      ∀ path node, document.at? path = some node →
        (∃ text, node.leafText? = some text) ∨
          ∃ members, node = .object members ∧ path.length < limit := by
  rw [ordered.exists_leaves_iff, Admitted]
  simp only [List.nil_append, refusal?_eq_none_iff]

theorem Ordered.pairwise_filterMap_nodes (ordered : document.Ordered) :
    (document.nodes.filterMap leafAmong?).Pairwise
      fun leaf other => leaf.dropLast < other.dropLast := by
  have keysOf : ∀ {entry : List String × Json} {leaf : LeafPath},
      leafAmong? entry = some leaf → leaf.dropLast = entry.1 := by
    intro entry leaf among
    obtain ⟨text, -, rfl⟩ := Option.map_eq_some_iff.1 among
    exact List.dropLast_concat
  refine ordered.pairwise_nodesUnder.filterMap leafAmong? ?_
  intro entry other smaller leaf among otherLeaf otherAmong
  rwa [keysOf among, keysOf otherAmong]

theorem apart_of_textAt? {path other : List String} {text otherText : String}
    (leaf : document.textAt? path = some text) (otherLeaf : document.textAt? other = some otherText)
    (different : path ≠ other) : Apart path other := by
  have short : ∀ {path other : List String} {text otherText : String},
      document.textAt? path = some text → document.textAt? other = some otherText →
        path ≠ other → ¬path <+: other := by
    rintro path _ text otherText leaf otherLeaf different ⟨rest, rfl⟩
    have below : rest ≠ [] := fun none => different (by rw [none, List.append_nil])
    cases (textAt?_below_leaf leaf below).symm.trans otherLeaf
  exact ⟨short leaf otherLeaf different, short otherLeaf leaf different.symm⟩

theorem Ordered.flattened (ordered : document.Ordered) {leaves : List LeafPath}
    (flat : document.leaves limit = .ok leaves) : document.Flattened leaves := by
  have same : leaves = document.nodes.filterMap leafAmong? :=
    (gather_eq_ok_iff.1 ((leaves_eq_gather limit document).symm.trans flat)).2
  have ascending : leaves.Pairwise fun leaf other => leaf.dropLast < other.dropLast :=
    same ▸ ordered.pairwise_filterMap_nodes
  refine ⟨same, fun leaf => ordered.mem_leaves_iff flat, ascending, ?_⟩
  refine ascending.imp_of_mem fun {leaf other} inside otherInside smaller => ?_
  obtain ⟨path, text, rfl, found⟩ := (ordered.mem_leaves_iff flat).1 inside
  obtain ⟨otherPath, otherText, rfl, otherFound⟩ := (ordered.mem_leaves_iff flat).1 otherInside
  rw [List.dropLast_concat, List.dropLast_concat] at smaller ⊢
  exact apart_of_textAt? found otherFound (ne_of_lt smaller)

/-- A walk with a stack finds the leaves of a document. There are leaves if and only if each node is
a text, a number or an object under fewer keys than the limit. They come in the order of the nodes,
and no path of keys leads on to another one. Otherwise the fault is that of the first refused node,
where nodes are in the order of their paths. -/
theorem Ordered.leaves_outcome (ordered : document.Ordered) (limit : Nat) :
    walk limit [] [([], document)] = document.leaves limit ∧
    ((∃ leaves, document.leaves limit = .ok leaves) ↔
      ∀ path node, document.at? path = some node →
        (∃ text, node.leafText? = some text) ∨
          ∃ members, node = .object members ∧ path.length < limit) ∧
    (∀ leaves, document.leaves limit = .ok leaves → document.Flattened leaves) ∧
    (∀ fault, document.leaves limit = .error fault ↔ ∃ front path node back,
      document.nodes = front ++ (path, node) :: back ∧ node.refusal? limit path = some fault ∧
        ∀ earlier ∈ front, earlier.2.refusal? limit earlier.1 = none) ∧
    (∀ path node, (path, node) ∈ document.nodes ↔ document.at? path = some node) ∧
    document.nodes.Pairwise fun entry other => entry.1 < other.1 := by
  refine ⟨walk_eq_leaves limit document, ordered.exists_leaves_iff_forall,
    fun leaves => ordered.flattened, ?_, ?_, ordered.pairwise_nodesUnder⟩
  · intro fault
    rw [leaves_eq_gather, gather_eq_error_iff]
    simp only [Prod.exists, refusalAmong?]
  · intro path node
    rw [nodes, ordered.mem_nodesUnder_iff]
    simp

def raggedDocument : Json :=
  object [("en", object [("items", array [string "a"]), ("menu", object [("open", string "Open")])]),
    ("nb", null)]

theorem raggedDocument_leaves_outcome : raggedDocument.Ordered ∧
    raggedDocument.leaves 1 = .error (.tooDeep "en" 1) ∧
    raggedDocument.leaves 2 = .error (.unsupportedType "en.items" "array") := by
  have ordered : raggedDocument.Ordered := by decide
  obtain ⟨-, -, -, shallow, -⟩ := ordered.leaves_outcome 1
  obtain ⟨-, -, -, deeper, -⟩ := ordered.leaves_outcome 2
  refine ⟨ordered, (shallow _).2 ⟨[([], raggedDocument)], ["en"], _, _, rfl, rfl, ?_⟩,
    (deeper _).2 ⟨[([], raggedDocument), (["en"], _)], ["en", "items"], _, _, rfl, rfl, ?_⟩⟩
  · simp [raggedDocument, refusal?]
  · simp [raggedDocument, refusal?]

end Phrasebook.Json
