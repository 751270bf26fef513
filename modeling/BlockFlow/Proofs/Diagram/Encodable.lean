import BlockFlow.Proofs.Diagram.Validation
import BlockFlow.Proofs.Source.Encodable

/-!
# Diagrams whose programs can be encoded

What holds of the statement of every block, whatever is nested in it, holds of every statement of a
built program (`forall_mem_walk_build`). The texts of a statement are made of the data of its block,
so a saved diagram whose strings hold no surrogates gives source code that can be written to a file.
-/

namespace BlockFlow

open Text (Encodable)

/-! ## Blocks -/

namespace Json

/-- The items of a value are parts of its text. -/
theorem Encodable.of_mem_items {j : Json} (h : j.Encodable) : ∀ t ∈ j.items, t.Encodable := by
  unfold items
  split
  · exact h.text.of_mem_items
  · exact List.forall_mem_nil _

/-- So are the items of an array, each trimmed. -/
theorem Encodable.of_mem_arrayItems {j : Json} (h : j.Encodable) :
    ∀ t ∈ j.arrayItems, t.Encodable := by
  cases j with
  | arr entries =>
    intro t ht
    obtain ⟨item, hitem, rfl⟩ := List.mem_map.1 (List.mem_of_mem_filter ht)
    exact ((encodableItems_iff entries).1 h item hitem).text.trim
  | _ => exact h.of_mem_items

end Json

/-- A parameter has its type and name from words, or from fixed texts. -/
theorem Param.encodable_ofWords {words : List Text} (h : ∀ t ∈ words, t.Encodable) :
    (Param.ofWords words).typeName.Encodable ∧ (Param.ofWords words).name.Encodable := by
  match words with
  | [] => exact ⟨Text.encodable_ofString _, Text.encodable_ofString _⟩
  | [name] => exact ⟨Text.encodable_ofString _, h name List.mem_cons_self⟩
  | typeName :: name :: _ => exact ⟨h typeName (by simp), h name (by simp)⟩

namespace Node

/-- A block whose type and data hold no surrogates. -/
structure Encodable (n : Node) : Prop where
  type : n.typeName.Encodable
  data : Json.EncodableFields n.data

variable {n : Node}

/-- The text of a field of a block. -/
theorem Encodable.text (h : n.Encodable) (key : Text) : (n.text key).Encodable :=
  h.data.text key

/-- The values of the cases of a block. -/
theorem Encodable.of_mem_caseValues (h : n.Encodable) : ∀ t ∈ n.caseValues, t.Encodable := by
  have hcases := h.data.get "cases"
  unfold caseValues
  split
  · rename_i cases hget
    rw [hget] at hcases
    intro t ht
    obtain ⟨case, hcase, rfl⟩ := List.mem_map.1 ht
    have hvalue := (Json.encodableItems_iff cases).1 hcases case hcase
    -- A case is an object with a value, or the value itself.
    split
    · exact Json.EncodableFields.text hvalue "value"
    · exact hvalue.text
  · exact List.forall_mem_nil _

/-- The statement of a block has its texts from the type and the data. -/
theorem Encodable.statement (h : n.Encodable) : n.statement.Encodable := by
  unfold Statement.Encodable Node.statement
  cases n.kind <;> simp only [Statement.texts, List.forall_mem_cons, List.map_nil]
  case arrayValues =>
    exact ⟨h.text _, h.text _, (h.data.get "values").of_mem_arrayItems⟩
  case functionDefine =>
    refine ⟨h.text _, ?_⟩
    intro t ht
    obtain ⟨p, hp, ht⟩ := List.mem_flatMap.1 ht
    obtain ⟨item, hitem, rfl⟩ := List.mem_map.1 hp
    have hparam := Param.encodable_ofWords ((h.text "params").of_mem_items item hitem).of_mem_words
    rcases List.mem_pair.1 ht with rfl | rfl
    · exact hparam.1
    · exact hparam.2
  case functionCall => exact ⟨h.text _, (h.text "args").of_mem_items⟩
  case objectCreate => exact ⟨h.text _, h.text _, (h.text "args").of_mem_items⟩
  case classDefine => exact ⟨h.text _, (h.text _).trim, List.forall_mem_nil _⟩
  -- A block without a type has a fixed kind instead.
  case entry | unknown =>
    refine ⟨?_, List.forall_mem_nil _⟩
    split
    · exact Text.encodable_ofString _
    · exact h.type
  all_goals simp [h.text]

/-- Only a switch has texts beyond those of its block on its own: the values of its cases. -/
theorem texts_assemble_subset (n : Node) (bodies : List (List (Statement Unit))) :
    (n.assemble bodies).texts ⊆ n.statement.texts ++ n.caseValues := by
  unfold assemble
  split
  case h_2 subject _ _ id hstatement =>
    have hvalues : (n.caseValues.zip bodies).map (·.1) ⊆ n.caseValues := by
      intro t ht
      obtain ⟨case, hcase, rfl⟩ := List.mem_map.1 ht
      exact (List.of_mem_zip hcase).1
    rw [hstatement, Statement.texts, Statement.texts]
    exact List.cons_subset.2 ⟨by simp, List.Subset.trans hvalues (List.subset_append_right _ _)⟩
  all_goals
    rename_i hstatement
    simp [hstatement, Statement.texts]

/-- So has the assembled statement of a block. -/
theorem Encodable.assemble (h : n.Encodable) (bodies : List (List (Statement Unit))) :
    (n.assemble bodies).Encodable := by
  intro t ht
  rcases List.mem_append.1 (n.texts_assemble_subset bodies ht) with ht | ht
  · exact h.statement t ht
  · exact h.of_mem_caseValues t ht

end Node

/-! ## Programs -/

namespace Diagram

variable {g : Diagram} {expand : Bool} {P : Statement Unit → Prop}

/-- What holds of the statements of all blocks holds of all statements that are built from
starts. -/
theorem Follows.forall_walkAll {placed placed' : List Text} {starts : List (Option Text)}
    {bodies : List (List (Statement Unit))} (hP : ∀ n ∈ g.nodes, ∀ inner, P (n.assemble inner))
    (h : Follows g expand placed starts bodies placed') :
    ∀ s ∈ bodies.flatMap Statement.walkAll, P s := by
  induction h with
  | nil => simp
  | stop _ _ ih => simpa [Statement.walkAll] using ih
  | @step _ _ _ _ node _ nested _ _ found _ inner _ ihInner ihOthers =>
    rw [flatMap_walkAll_cons, inner.walk_assemble]
    simp only [List.forall_mem_append, List.forall_mem_singleton]
    exact ⟨⟨hP node (mem_nodes_of_node? found).1 nested, ihInner⟩, ihOthers⟩

/-- What holds of the statements of all blocks holds of all definitions and of what is nested in
them. -/
theorem Defines.forall_walkAll {kind : Kind} {handle : Text} {placed placed' : List Text}
    {nodes : List Node} {ss : List (Statement Unit)}
    (hP : ∀ n ∈ g.nodes, ∀ inner, P (n.assemble inner))
    (hkind : kind = .classDefine ∨ kind = .functionDefine) (hnodes : nodes ⊆ g.nodes)
    (h : Defines g expand kind handle placed nodes ss placed') :
    ∀ s ∈ Statement.walkAll ss, P s := by
  induction h with
  | nil => simp [Statement.walkAll]
  | skip _ _ ih => exact ih (List.cons_subset.1 hnodes).2
  | @define _ _ _ node _ body _ ofKind _ inner _ ih =>
    obtain ⟨hnode, hrest⟩ := List.cons_subset.1 hnodes
    have hbody := inner.forall_walkAll hP
    rw [Statement.walkAll, node.nested_assemble_definition body (ofKind ▸ hkind),
      List.forall_mem_append, List.forall_mem_cons]
    exact ⟨⟨hP node hnode [body], by simpa using hbody⟩, ih hrest⟩

/-- What holds of the statements of all blocks, whatever is nested in them, holds of all statements
of a built program. -/
theorem forall_mem_walk_build (hP : ∀ n ∈ g.nodes, ∀ inner, P (n.assemble inner)) :
    ∀ s ∈ (g.build expand).walk, P s := by
  obtain ⟨_, _, h⟩ := g.built expand
  have hclasses := h.classes.forall_walkAll hP (Or.inl rfl) (List.Subset.refl _)
  have hfunctions := h.functions.forall_walkAll hP (Or.inr rfl) (List.Subset.refl _)
  have hbody : ∀ s ∈ Statement.walkAll (g.build expand).body, P s := by
    cases hentry : g.entry? with
    | none => simp [h.noEntry hentry, Statement.walkAll]
    | some entry =>
      obtain ⟨_, hfollows⟩ := h.body entry hentry
      simpa using hfollows.forall_walkAll hP
  rw [Built.walk_eq, List.forall_mem_append, List.forall_mem_append]
  exact ⟨⟨hclasses, hfunctions⟩, hbody⟩

/-- A diagram without surrogates makes a program without surrogates. -/
theorem encodable_build (h : ∀ n ∈ g.nodes, n.Encodable) (expand : Bool) :
    (g.build expand).Encodable :=
  forall_mem_walk_build fun n hn inner => (h n hn).assemble inner

end Diagram

/-! ## Saved diagrams -/

/-- A block that is read from an entry has its texts from there. -/
theorem Node.encodable_of_ofJson? {entry : Json} {n : Node} (h : entry.Encodable)
    (hn : Node.ofJson? entry = some n) : n.Encodable := by
  cases entry with
  | obj fields =>
    have htype := (Json.EncodableFields.get h "type").text
    have hdata := Json.EncodableFields.get h "data"
    unfold Node.ofJson? at hn
    obtain ⟨id, -, hn⟩ := Option.bind_eq_some_iff.1 hn
    obtain rfl := Option.some.inj hn
    constructor
    -- Type and data fall back to fixed values where the entry has others.
    · dsimp only
      split
      · exact htype
      · exact Text.encodable_ofString _
    · dsimp only
      split
      · rename_i data hget
        rw [hget] at hdata
        exact hdata
      · trivial
  | _ => cases hn

/-- So have all blocks of a loaded diagram. -/
theorem Diagram.encodable_ofEntries {nodes : List Json} (h : ∀ entry ∈ nodes, entry.Encodable)
    (edges : List Json) : ∀ n ∈ (Diagram.ofEntries nodes edges).nodes, n.Encodable := by
  intro n hn
  obtain ⟨entry, hentry, hread⟩ := List.mem_filterMap.1 hn
  exact Node.encodable_of_ofJson? (h entry hentry) hread

/-- The diagram inside a saved value is a part of it. -/
theorem Schema.encodable_unwrap {j : Json} (h : j.Encodable) : (unwrap j).Encodable := by
  unfold unwrap
  split
  case h_1 fields =>
    -- The diagram may be wrapped in an object, if that object has no lists of its own.
    split
    · exact h
    · have hdiagram := Json.EncodableFields.get h "diagram"
      split
      · rename_i diagram hget
        rw [hget] at hdiagram
        exact hdiagram
      · exact h
  case h_2 => exact h

/-- The entries of a checked diagram hold no surrogates if the saved value does not. -/
theorem Schema.encodable_of_validate {strict : Bool} {j : Json} {ws : List Warning}
    {nodes edges : List Json} (h : j.Encodable)
    (hvalid : validate strict j = (ws, .ok (nodes, edges))) :
    ∀ entry ∈ nodes, entry.Encodable := by
  obtain ⟨fields, hfields, hnodes, -⟩ := of_parts (of_validate hvalid).1
  have hunwrapped := encodable_unwrap h
  rw [hfields] at hunwrapped
  have hlist := Json.EncodableFields.get hunwrapped "nodes"
  rw [hnodes] at hlist
  exact (Json.encodableItems_iff nodes).1 hlist

end BlockFlow
