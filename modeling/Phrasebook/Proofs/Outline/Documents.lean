import Phrasebook.Proofs.Document.Nodes
import Phrasebook.Proofs.Export.Written

namespace Phrasebook

/-! ## Listings of leaves -/

theorem LeafPath.splitText?_eq_some_iff {leaf : LeafPath} {keys : List String} {text : String} :
    leaf.splitText? = some (keys, text) ↔ leaf = keys ++ [text] := by
  rcases List.eq_nil_or_concat' leaf with rfl | ⟨front, last, rfl⟩
  · simp [splitText?]
  · simp [splitText?]

namespace Listing

def ofLeaves (leaves : List LeafPath) : Listing :=
  leaves.filterMap fun leaf => leaf.splitText?.filter fun entry => entry.2 ≠ ""

theorem mem_ofLeaves_iff {leaves : List LeafPath} {path : List String} {text : String} :
    (path, text) ∈ ofLeaves leaves ↔ path ++ [text] ∈ leaves ∧ text ≠ "" := by
  simp only [ofLeaves, List.mem_filterMap, Option.filter_eq_some_iff, decide_eq_true_eq,
    LeafPath.splitText?_eq_some_iff]
  constructor
  · rintro ⟨leaf, member, rfl, filled⟩
    exact ⟨member, filled⟩
  · rintro ⟨member, filled⟩
    exact ⟨_, member, rfl, filled⟩

theorem foldl_addLeaf (leaves : List LeafPath) :
    leaves.foldl Outline.addLeaf Trie.blank = Trie.ofLabels (ofLeaves leaves) := by
  rw [Trie.ofLabels, ofLeaves, List.foldl_filterMap]
  apply List.foldl_ext
  intro outline leaf _
  unfold Outline.addLeaf
  cases leaf.splitText? with
  | none => rfl
  | some entry =>
    obtain ⟨keys, text⟩ := entry
    by_cases blank : text = ""
    · simp [blank, Option.filter]
    · simp [blank, Option.filter]

end Listing

namespace Outline

/-! ## Documents of outlines -/

/-- An outline shows a text at a path if it is that of the node there, is not empty, and all nodes
above have empty texts. -/
def Shows (outline : Outline) (path : List String) (text : String) : Prop :=
  outline.labelAt? path = some text ∧ text ≠ "" ∧
    ∀ front, front <+: path → front ≠ path → outline.labelAt? front = some ""

theorem document_of_label_ne_empty {outline : Outline} (labelled : outline.label ≠ "") :
    outline.document = .error (.notAMap (Json.string outline.label).compact) := by
  have written : outline.write = .string outline.label := by
    obtain ⟨⟨label, children⟩, ordered⟩ := outline
    exact if_pos labelled
  unfold Outline.document
  rw [written]
  split
  · rename_i same
    cases same
  · rename_i same
    exact absurd (Json.string.inj same) labelled
  · rfl

/-- An outline makes a document if no text stands at its top. It is the one document of the texts
that the outline shows in which nothing is empty, unless all of it is. -/
theorem document_outcome (outline : Outline) :
    (outline.label = "" →
      (∃ document, outline.document = .ok document) ∧
      ∀ document, outline.document = .ok document ↔ document.Pruned ∧
        ∀ path text, document.at? path = some (.string text) ↔ outline.Shows path text) ∧
    (outline.label ≠ "" →
      outline.document = .error (.notAMap (Json.string outline.label).compact)) := by
  refine ⟨fun textless => ?_, document_of_label_ne_empty⟩
  obtain ⟨document, made, pruned, same⟩ := document_eq_ok textless
  have shown : ∀ path text,
      document.at? path = some (.string text) ↔ outline.Shows path text := by
    intro path text
    rw [pruned.at?_eq_string_iff, same]
    exact outline.ordered.filledAt?_write
  refine ⟨⟨document, made⟩, fun other => ?_⟩
  rw [made, Except.ok.injEq]
  constructor
  · rintro rfl
    exact ⟨pruned, shown⟩
  · rintro ⟨otherPruned, otherShown⟩
    apply pruned.eq_of_at?_iff otherPruned
    intro path text
    rw [shown, otherShown]

def layeredOutline : Outline :=
  Trie.ofLabels [(["en"], "Hello"), (["en", "menu"], "Menu"), (["nb", "menu", "closed"], ""),
    (["nb", "open"], "Åpne")]

theorem layeredOutline_document_outcome : layeredOutline.label = "" ∧
    (∃ document, layeredOutline.document = .ok document ∧ document.Pruned ∧
      document.at? ["nb", "open"] = some (.string "Åpne") ∧
      document.at? ["en", "menu"] ≠ some (.string "Menu")) ∧
    Outline.document (Trie.leaf "Hello") = .error (.notAMap (Json.string "Hello").compact) := by
  have textless : layeredOutline.label = "" := by decide
  obtain ⟨⟨document, made⟩, iff⟩ := (document_outcome layeredOutline).1 textless
  obtain ⟨pruned, shown⟩ := (iff document).1 made
  refine ⟨textless, ⟨document, made, pruned, (shown _ _).2 ?_, fun hidden => ?_⟩,
    (document_outcome (Trie.leaf "Hello")).2 (by decide)⟩
  · refine ⟨by decide, by decide, fun front before short => ?_⟩
    simp only [List.prefix_cons_iff, List.prefix_nil] at before
    obtain rfl | ⟨_, rfl, rfl | ⟨_, rfl, rfl⟩⟩ := before
    · decide
    · decide
    · exact absurd rfl short
  · obtain ⟨-, -, above⟩ := (shown _ _).1 hidden
    exact absurd (above ["en"] (by decide) (by decide)) (by decide)

/-! ## Outlines of documents -/

variable {document : Json} {outline : Outline}

theorem ofDocument_eq_ok_iff : ofDocument document = .ok outline ↔
    (∃ members, document = .object members) ∧
      ∃ leaves, document.leaves Json.defaultDepth = .ok leaves ∧
        outline = Trie.ofLabels (Listing.ofLeaves leaves) := by
  cases document with
  | object members =>
    rw [ofDocument]
    cases (Json.object members).leaves Json.defaultDepth with
    | error fault => simp [Except.mapError, bind, Except.bind]
    | ok leaves => simp [Except.mapError, bind, Except.bind, Listing.foldl_addLeaf, eq_comm]
  | _ => simp [ofDocument]

/-- A document has an outline if it is an object and has nothing in it but texts, numbers, and
objects that are not nested too deep. -/
theorem exists_ofDocument_iff (ordered : document.Ordered) :
    (∃ outline, ofDocument document = .ok outline) ↔
      (∃ members, document = .object members) ∧
        ∀ path node, document.at? path = some node →
          (∃ text, node.leafText? = some text) ∨
            ∃ members, node = .object members ∧ path.length < Json.defaultDepth := by
  rw [← ordered.exists_leaves_iff_forall]
  simp only [ofDocument_eq_ok_iff]
  constructor
  · rintro ⟨outline, isObject, leaves, flat, -⟩
    exact ⟨isObject, leaves, flat⟩
  · rintro ⟨isObject, leaves, flat⟩
    exact ⟨_, isObject, leaves, flat, rfl⟩

/-- The outline of a document makes the document again, but for numbers, which are texts then, and
for empty texts and objects without content, which are gone. -/
theorem document_ofDocument (ordered : document.Ordered)
    (made : ofDocument document = .ok outline) :
    outline.document = .ok document.condensed ∧ document.condensed.Pruned ∧
      ∀ path text, document.condensed.at? path = some (.string text) ↔
        (∃ value, document.at? path = some (.number value) ∧ value.leafText = text) ∨
          document.at? path = some (.string text) ∧ text ≠ "" := by
  obtain ⟨⟨members, rfl⟩, leaves, flat, rfl⟩ := ofDocument_eq_ok_iff.1 made
  have textual := (ordered.exists_leaves_iff.1 ⟨leaves, flat⟩).textual ordered
  have listed : ∀ path text, text ≠ "" →
      ((path, text) ∈ Listing.ofLeaves leaves ↔
        (Json.object members).textAt? path = some text) := by
    intro path text filled
    rw [Listing.mem_ofLeaves_iff, ordered.mem_leaves_iff flat]
    simp [filled]
  have rooted : (Listing.ofLeaves leaves).textAt [] = "" := by
    -- A text at the top would make the document a leaf.
    by_contra filled
    cases (listed [] _ filled).1 (Listing.mem_of_textAt filled)
  obtain ⟨written, same, pruned, shows⟩ := Listing.document_eq_ok rooted
  have condensedPruned := textual.condensed_pruned
  refine ⟨?_, condensedPruned, fun path text => textual.at?_condensed_iff⟩
  have restored : written = (Json.object members).condensed := by
    apply pruned.eq_of_at?_iff condensedPruned
    intro path text
    rw [pruned.at?_eq_string_iff, condensedPruned.at?_eq_string_iff, shows,
      Listing.shows_iff_of_mem_iff listed, textual.filledAt?_condensed]
  rw [same, restored]

def sparseDocument : Json :=
  .object [("", .object [("a.b", .number (.integer (-3)))]),
    ("menu", .object [("closed", .object [("none", .string "")]), ("open", .string "Åpne")])]

theorem sparseDocument_document_ofDocument : sparseDocument.Ordered ∧
    ∃ outline, ofDocument sparseDocument = .ok outline ∧ outline.document = .ok (.object
      [("", .object [("a.b", .string "-3")]), ("menu", .object [("open", .string "Åpne")])]) := by
  have ordered : sparseDocument.Ordered := by decide
  obtain ⟨outline, made⟩ : ∃ outline, ofDocument sparseDocument = .ok outline := ⟨_, rfl⟩
  have condensed : sparseDocument.condensed = .object [("", .object [("a.b", .string "-3")]),
      ("menu", .object [("open", .string "Åpne")])] := rfl
  rw [← condensed]
  exact ⟨ordered, outline, made, (document_ofDocument ordered made).1⟩

end Outline

end Phrasebook
