import BlockFlow.Proofs.Diagram.Simulation

/-!
# Expanding nested definitions

With `expand` a function or class block inside a sequence is followed into its body. The flag is
read at such blocks only, and a walk gets to a block only along an arrow. So a diagram in which no
arrow leads to a definition is walked alike with the flag and without it (`Flat.walk_eq`): its
definitions are placed by the passes over all blocks, which follow their bodies in any case.
-/

namespace BlockFlow

namespace Node

/-- A block that defines a function or a class. -/
def IsDefinition (n : Node) : Prop :=
  n.kind = .functionDefine ∨ n.kind = .classDefine

instance (n : Node) : Decidable n.IsDefinition :=
  inferInstanceAs (Decidable (_ ∨ _))

/-- A block that defines nothing has the same sections in both modes. -/
theorem sections_expand {n : Node} (h : ¬ n.IsDefinition) :
    n.sections true = n.sections false := by
  unfold sections
  cases hkind : n.kind <;> simp_all [IsDefinition]

end Node

namespace Diagram

open Build

/-- A diagram in which no arrow leads to a definition. -/
def Flat (g : Diagram) : Prop :=
  ∀ e ∈ g.edges, ∀ n ∈ g.nodes, n.id = e.target → ¬ n.IsDefinition

instance (g : Diagram) : Decidable g.Flat :=
  inferInstanceAs (Decidable (∀ e ∈ g.edges, ∀ n ∈ g.nodes, n.id = e.target → ¬ n.IsDefinition))

/-- A start to which an arrow leads, if there is a start at all. -/
def Aimed (g : Diagram) (start : Option Text) : Prop :=
  ∀ id ∈ start, ∃ e ∈ g.edges, e.target = id

variable {g : Diagram}

/-! ## Where the flag is read -/

/-- It has the same successor. -/
theorem successor?_expand (g : Diagram) {n : Node} (h : ¬ n.IsDefinition) :
    g.successor? true n = g.successor? false n := by
  unfold successor?
  cases hkind : n.kind <;> simp_all [Node.IsDefinition]

/-- And the same is noticed in the search for it. -/
theorem successorEvents_expand (g : Diagram) {n : Node} (h : ¬ n.IsDefinition) :
    g.successorEvents true n = g.successorEvents false n := by
  unfold successorEvents
  cases hkind : n.kind <;> simp_all [Node.IsDefinition]

/-! ## What is followed -/

/-- A handle leads along an arrow. -/
theorem aimed_handleTarget? (g : Diagram) (id handle : Text) :
    g.Aimed (g.handleTarget? id handle) := by
  intro target htarget
  rw [handleTarget?_eq] at htarget
  obtain ⟨e, he, -, rfl⟩ := exists_edge_of_arrow? htarget
  exact ⟨e, he, rfl⟩

/-- So does the first arrow. -/
theorem aimed_firstTarget? (g : Diagram) (id : Text) : g.Aimed (g.firstTarget? id) := by
  intro target htarget
  rw [firstTarget?_eq] at htarget
  obtain ⟨e, he, -, rfl⟩ := exists_edge_of_arrow? htarget
  exact ⟨e, he, rfl⟩

/-- A block is followed by another one along an arrow. -/
theorem aimed_successor? (g : Diagram) (expand : Bool) (n : Node) :
    g.Aimed (g.successor? expand n) := by
  intro target htarget
  obtain ⟨e, he, -, rfl⟩ := exists_edge_of_successor? htarget
  exact ⟨e, he, rfl⟩

/-- Starts that are followed alike one by one are followed alike in turn. -/
theorem walkEach_congr_mem
    {follow follow' : Option Text → Progress → List (Statement Unit) × Progress}
    {starts : List (Option Text)} (h : ∀ start ∈ starts, ∀ p, follow start p = follow' start p)
    (p : Progress) : walkEach follow starts p = walkEach follow' starts p := by
  induction starts generalizing p with
  | nil => rfl
  | cons start starts ih =>
    rw [List.forall_mem_cons] at h
    simp only [walkEach, h.1 p, ih h.2]

namespace Flat

/-- The block at which an arrow of a flat diagram ends is no definition. -/
theorem not_isDefinition (h : g.Flat) {id : Text} {node : Node} (haimed : g.Aimed (some id))
    (hnode : g.node? id = some node) : ¬ node.IsDefinition := by
  obtain ⟨e, he, htarget⟩ := haimed id rfl
  obtain ⟨hmem, hid⟩ := mem_nodes_of_node? hnode
  exact h e he node hmem (hid.trans htarget.symm)

/-- A walk that sets out along an arrow never reads the flag: by induction on the bound, as all the
walks that it starts set out along arrows again. -/
theorem walk_eq (h : g.Flat) (bound : Nat) (start : Option Text) (haimed : g.Aimed start)
    (p : Progress) : g.walk true bound start p = g.walk false bound start p := by
  induction bound generalizing start p with
  | zero => rfl
  | succ bound ih =>
    cases start with
    | none => rfl
    | some id =>
      cases hnode : g.node? id with
      | none => simp only [walk, hnode]
      | some node =>
        -- The flag is read at the block, and then in the walks that start from it.
        have hdef := h.not_isDefinition haimed hnode
        have hstarts : ∀ start ∈ (node.sections false).map (g.handleTarget? id), ∀ p,
            g.walk true bound start p = g.walk false bound start p := by
          intro start hstart
          obtain ⟨handle, -, rfl⟩ := List.mem_map.1 hstart
          exact ih _ (g.aimed_handleTarget? id handle)
        simp only [walk, hnode, Node.sections_expand hdef, successor?_expand g hdef,
          successorEvents_expand g hdef, walkEach_congr_mem hstarts,
          ih _ (g.aimed_successor? false node)]

/-- A pass over definitions follows the body of each in both modes, and from there only arrows. -/
theorem placeDefinitions_eq (h : g.Flat) (kind : Kind) (handle : Text) (nodes : List Node)
    (p : Progress) :
    g.placeDefinitions true kind handle nodes p =
      g.placeDefinitions false kind handle nodes p := by
  induction nodes generalizing p with
  | nil => rfl
  | cons node nodes ih =>
    simp only [placeDefinitions, h.walk_eq g.fuel _ (g.aimed_handleTarget? node.id handle), ih]

/-- The main body is walked along the arrow of the entry. -/
theorem placeBody_eq (h : g.Flat) (p : Progress) :
    g.placeBody true p = g.placeBody false p := by
  unfold placeBody
  cases g.entry? with
  | none => rfl
  | some entry => exact h.walk_eq g.fuel _ (g.aimed_firstTarget? entry.id) _

/-- All three passes are the same in both modes. -/
theorem buildWithProgress_eq (h : g.Flat) :
    g.buildWithProgress true = g.buildWithProgress false := by
  simp only [buildWithProgress, h.placeDefinitions_eq, h.placeBody_eq]

end Flat

/-- Where no arrow leads to a function or class block, nested definitions may as well be expanded:
the same program is built, and the same is noticed on the way. -/
theorem build_expand_conservative (g : Diagram) (h : g.Flat) :
    g.build true = g.build false ∧ g.buildEvents true = g.buildEvents false := by
  unfold build buildEvents
  rw [h.buildWithProgress_eq]
  exact ⟨rfl, rfl⟩

/-- A class and a function that no arrow leads to, each with a body, and a main body whose loop also
leads into the body of the function. -/
def outlined : Diagram where
  nodes := [⟨"start", "input", []⟩, ⟨"c", "classDefine", [("className", .str "C")]⟩,
    ⟨"m", "variableDeclare", [("varName", .str "n"), ("value", .str "1")]⟩,
    ⟨"f", "functionDefine", [("name", .str "f")]⟩, ⟨"w", "while", [("condition", .str "x")]⟩,
    ⟨"b", "print", [("value", .str "y")]⟩, ⟨"d", "print", [("value", .str "z")]⟩]
  edges := [⟨"c", "m", .str "members", .null, none⟩, ⟨"f", "b", .str "body", .null, none⟩,
    ⟨"start", "w", .null, .null, none⟩, ⟨"w", "b", .str "loopBody", .null, none⟩,
    ⟨"w", "d", .null, .null, none⟩, ⟨"d", "w", .null, .null, none⟩]

/-- All six blocks besides the entry are placed, and alike in both modes. -/
theorem build_expand_conservative_outlined :
    outlined.Flat ∧ (outlined.build true).walk.length = 6 ∧
      outlined.build true = outlined.build false ∧
      outlined.buildEvents true = outlined.buildEvents false := by
  have hflat : outlined.Flat := by decide
  exact ⟨hflat, by decide, build_expand_conservative outlined hflat⟩

/-- One arrow to a definition is enough for the flag to be seen. -/
example :
    let g : Diagram := { outlined with edges := ⟨"m", "f", .null, .null, none⟩ :: outlined.edges }
    ¬ g.Flat ∧ g.build true ≠ g.build false := by
  decide

end Diagram

end BlockFlow
