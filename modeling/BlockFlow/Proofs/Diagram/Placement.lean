import BlockFlow.Proofs.Diagram.Following

/-!
# Placement of blocks

A build has three passes over one set of placed ids: the classes, the functions that are still free,
and the main body. `Defines` describes a pass over definitions as `Follows` describes a walk, and
`built` puts the three passes together. Across all of them a block is placed at most once, and every
statement of the program, wherever it is nested, is the statement of a block of the diagram.
-/

namespace BlockFlow

namespace Diagram

open Build

variable {g : Diagram} {expand : Bool} {kind : Kind} {handle : Text}

/-- The definitions of a kind that are built from a list of blocks, between the ids that are placed
before and those that are placed after. -/
inductive Defines (g : Diagram) (expand : Bool) (kind : Kind) (handle : Text) :
    List Text → List Node → List (Statement Unit) → List Text → Prop
  | nil {placed : List Text} : Defines g expand kind handle placed [] [] placed
  | skip {placed placed' : List Text} {node : Node} {nodes : List Node}
      {ss : List (Statement Unit)} (other : node.kind ≠ kind ∨ node.id ∈ placed)
      (others : Defines g expand kind handle placed nodes ss placed') :
      Defines g expand kind handle placed (node :: nodes) ss placed'
  | define {placed placed' placed'' : List Text} {node : Node} {nodes : List Node}
      {body ss : List (Statement Unit)} (ofKind : node.kind = kind) (free : node.id ∉ placed)
      (inner : Follows g expand (node.id :: placed) [g.handleTarget? node.id handle] [body]
        placed')
      (others : Defines g expand kind handle placed' nodes ss placed'') :
      Defines g expand kind handle placed (node :: nodes) (node.assemble [body] :: ss) placed''

/-- A definition is placed before what is followed from its handle. -/
theorem Follows.places_definition {placed placed' : List Text} {node : Node}
    {target : Option Text} {body : List (Statement Unit)}
    (hkind : node.kind = .classDefine ∨ node.kind = .functionDefine) (hfree : node.id ∉ placed)
    (h : Follows g expand (node.id :: placed) [target] [body] placed') :
    Places placed (node.assemble [body]).walk placed' := by
  have hwalk : (node.assemble [body]).walk = [node.assemble [body]] ++ Statement.walkAll body := by
    simp [Statement.walk, node.nested_assemble_definition body hkind]
  rw [hwalk]
  exact (Places.single (node.id_assemble [body]) hfree).append h.places_single

namespace Defines

variable {placed placed' : List Text} {nodes : List Node} {ss : List (Statement Unit)}

/-- A pass places definitions and all that is nested in them in depth-first order. -/
theorem places (hkind : kind = .classDefine ∨ kind = .functionDefine)
    (h : Defines g expand kind handle placed nodes ss placed') :
    Places placed (Statement.walkAll ss) placed' := by
  induction h with
  | nil => simpa [Statement.walkAll] using Places.nil
  | skip _ _ ih => exact ih
  | define ofKind free inner _ ih =>
    rw [Statement.walkAll_cons]
    exact (inner.places_definition (ofKind ▸ hkind) free).append ih

/-- A definition is built when exactly the definitions before it are placed. -/
theorem split (hkind : kind = .classDefine ∨ kind = .functionDefine)
    {before after : List (Statement Unit)} {s : Statement Unit}
    (h : Defines g expand kind handle placed nodes (before ++ s :: after) placed') :
    ∃ (node : Node) (body : List (Statement Unit)) (earlier later : List Text),
      node.kind = kind ∧ node.id ∉ earlier ∧ s = node.assemble [body] ∧
      Places placed (Statement.walkAll before) earlier ∧
      Follows g expand (node.id :: earlier) [g.handleTarget? node.id handle] [body] later := by
  generalize hss : before ++ s :: after = ss at h
  induction h generalizing before with
  | nil => simp at hss
  | skip _ _ ih => exact ih hss
  | @define placed _ _ node _ body _ ofKind free inner _ ih =>
    cases before with
    | nil =>
      obtain ⟨rfl, rfl⟩ := List.cons.inj hss
      have hbefore : Places placed (Statement.walkAll []) placed := by
        simpa [Statement.walkAll] using Places.nil
      exact ⟨node, body, placed, _, ofKind, free, rfl, hbefore, inner⟩
    | cons first before =>
      obtain ⟨rfl, htail⟩ := List.cons.inj hss
      obtain ⟨n, b, earlier, later, hn, hfree, hs, hbefore, hfollows⟩ := ih htail
      refine ⟨n, b, earlier, later, hn, hfree, hs, ?_, hfollows⟩
      rw [Statement.walkAll_cons]
      exact (inner.places_definition (ofKind ▸ hkind) free).append hbefore

/-- Every statement that a pass builds is the statement of a block. -/
theorem found (hkind : kind = .classDefine ∨ kind = .functionDefine)
    (h : Defines g expand kind handle placed nodes ss placed') (hnodes : nodes ⊆ g.nodes) :
    ∀ s ∈ Statement.walkAll ss, ∃ node ∈ g.nodes, s.shell = node.statement := by
  induction h with
  | nil => simp [Statement.walkAll]
  | skip _ _ ih => exact ih (fun n hn => hnodes (List.mem_cons_of_mem _ hn))
  | @define _ _ _ node _ body _ ofKind _ inner _ ih =>
    intro s hs
    rw [Statement.walkAll, node.nested_assemble_definition body (ofKind ▸ hkind)] at hs
    rcases List.mem_append.mp hs with hs | hs
    · rcases List.mem_cons.mp hs with rfl | hs
      · exact ⟨node, hnodes List.mem_cons_self, node.shell_assemble _⟩
      · obtain ⟨n, hn, hshell⟩ := inner.found s (by simpa using hs)
        exact ⟨n, (mem_nodes_of_node? hn).1, hshell⟩
    · exact ih (fun n hn => hnodes (List.mem_cons_of_mem _ hn)) s hs

end Defines

/-- The pass over definitions does what `Defines` says. -/
theorem defines_placeDefinitions (g : Diagram) (expand : Bool) (kind : Kind) (handle : Text)
    (nodes : List Node) (p : Progress) :
    Defines g expand kind handle p.placed nodes
      (g.placeDefinitions expand kind handle nodes p).1
      (g.placeDefinitions expand kind handle nodes p).2.placed := by
  induction nodes generalizing p with
  | nil => exact .nil
  | cons node nodes ih =>
    unfold placeDefinitions
    split
    -- A free block of the kind is placed, and its body followed.
    · rename_i h
      have hinner := follows_walk g expand g.fuel (g.handleTarget? node.id handle)
        (p.place node.id) (g.card_free_lt_fuel _)
      exact .define h.1 h.2 hinner (ih _)
    · -- A block of another kind, or one that is placed already.
      rename_i h
      refine .skip ?_ (ih p)
      by_cases hkind : node.kind = kind
      · exact Or.inr (by simpa [hkind] using h)
      · exact Or.inl hkind

/-- What the three passes of a build leave behind. -/
structure Built (g : Diagram) (expand : Bool) (p : Program Unit)
    (afterClasses afterFunctions : List Text) : Prop where
  classes : Defines g expand .classDefine "members" [] g.nodes p.classes afterClasses
  functions : Defines g expand .functionDefine "body" afterClasses g.nodes p.functions
    afterFunctions
  noEntry : g.entry? = none → p.body = []
  body : ∀ entry, g.entry? = some entry → ∃ placed,
    Follows g expand (entry.id :: afterFunctions) [g.firstTarget? entry.id] [p.body] placed

/-- A build runs through its three passes without reaching the bound of a walk. -/
theorem built (g : Diagram) (expand : Bool) :
    ∃ afterClasses afterFunctions,
      Built g expand (g.build expand) afterClasses afterFunctions := by
  let classes := g.placeDefinitions expand .classDefine "members" g.nodes .start
  let functions := g.placeDefinitions expand .functionDefine "body" g.nodes classes.2
  refine ⟨classes.2.placed, functions.2.placed, ?_, ?_, ?_, ?_⟩
  · exact defines_placeDefinitions g expand .classDefine "members" g.nodes .start
  · exact defines_placeDefinitions g expand .functionDefine "body" g.nodes classes.2
  · intro hentry
    show (g.placeBody expand functions.2).1 = []
    simp [placeBody, hentry]
  · intro entry hentry
    refine ⟨(g.placeBody expand functions.2).2.placed, ?_⟩
    show Follows g expand _ _ [(g.placeBody expand functions.2).1] _
    rw [placeBody, hentry]
    exact follows_walk g expand g.fuel (g.firstTarget? entry.id)
      ((functions.2.place entry.id).note (g.choiceEvents entry.id)) (g.card_free_lt_fuel _)

namespace Built

variable {p : Program Unit} {afterClasses afterFunctions : List Text}

/-- The definitions of a program are placed in depth-first order. -/
theorem places (h : Built g expand p afterClasses afterFunctions) :
    Places [] (Statement.walkAll p.classes ++ Statement.walkAll p.functions) afterFunctions :=
  (h.classes.places (Or.inl rfl)).append (h.functions.places (Or.inr rfl))

/-- The statements of a program are those of its definitions, followed by those of its main body. -/
theorem walk_eq (p : Program Unit) :
    p.walk = Statement.walkAll p.classes ++ Statement.walkAll p.functions
      ++ Statement.walkAll p.body := by
  simp [Program.walk]

/-- No two statements of a program carry the same id. -/
theorem nodup_id (h : Built g expand p afterClasses afterFunctions) :
    (p.walk.map Statement.id).Nodup := by
  rw [walk_eq, List.map_append]
  cases hentry : g.entry? with
  | none => simpa [h.noEntry hentry, Statement.walkAll] using h.places.once
  | some entry =>
    obtain ⟨_, hbody⟩ := h.body entry hentry
    have hplaces := hbody.places_single
    rw [List.nodup_append]
    refine ⟨h.places.once, hplaces.once, ?_⟩
    -- What the body places is free after the definitions, so it has none of their ids.
    rintro _ hs _ ht rfl
    obtain ⟨s, hs, hsid⟩ := List.mem_map.mp hs
    obtain ⟨t, ht, htid⟩ := List.mem_map.mp ht
    apply hplaces.free t ht
    rw [htid, ← hsid, List.map_cons, h.places.order]
    simp only [List.map_nil, List.append_nil, List.mem_cons, List.mem_reverse]
    exact Or.inr (List.mem_map_of_mem hs)

/-- Every statement of a program is the statement of a block. -/
theorem found (h : Built g expand p afterClasses afterFunctions) {s : Statement Unit}
    (hs : s ∈ p.walk) : ∃ node ∈ g.nodes, s.shell = node.statement := by
  rw [walk_eq, List.mem_append, List.mem_append] at hs
  rcases hs with (hs | hs) | hs
  · exact h.classes.found (Or.inl rfl) (List.Subset.refl _) s hs
  · exact h.functions.found (Or.inr rfl) (List.Subset.refl _) s hs
  · cases hentry : g.entry? with
    | none => simp [h.noEntry hentry, Statement.walkAll] at hs
    | some entry =>
      obtain ⟨_, hbody⟩ := h.body entry hentry
      obtain ⟨n, hn, hshell⟩ := hbody.found s (by simpa using hs)
      exact ⟨n, (mem_nodes_of_node? hn).1, hshell⟩

end Built

/-- Every statement of a program that is built, wherever it is nested, is the statement of a block
of the diagram. -/
theorem exists_node_of_mem_walk_build {s : Statement Unit} (hs : s ∈ (g.build expand).walk) :
    ∃ node ∈ g.nodes, s.shell = node.statement := by
  obtain ⟨_, _, h⟩ := g.built expand
  exact h.found hs

/-- A block is placed at most once in the whole program, and every statement is the statement of a
block that carries its id, up to what is nested in it. -/
theorem build_places_once (g : Diagram) (expand : Bool) :
    ((g.build expand).walk.map Statement.id).Nodup ∧
      ∀ s ∈ (g.build expand).walk,
        ∃ node ∈ g.nodes, s.id = some node.id ∧ s.shell = node.statement := by
  constructor
  · obtain ⟨_, _, h⟩ := g.built expand
    exact h.nodup_id
  · intro s hs
    obtain ⟨node, hnode, hshell⟩ := exists_node_of_mem_walk_build hs
    refine ⟨node, hnode, ?_, hshell⟩
    rw [← Statement.id_shell, hshell, Node.id_statement]

/-- A diagram with a cycle, two branches that meet, an arrow into the void and an id that two blocks
share. -/
def tangled : Diagram where
  nodes := [⟨"start", "input", []⟩, ⟨"a", "if", [("condition", .str "x")]⟩, ⟨"a", "print", []⟩,
    ⟨"b", "print", [("value", .str "y")]⟩]
  edges := [⟨"start", "a", .null, .null, none⟩, ⟨"a", "b", .str "true", .null, none⟩,
    ⟨"a", "b", .str "false", .null, none⟩, ⟨"a", "c", .str "next", .null, none⟩,
    ⟨"b", "a", .null, .null, none⟩]

/-- A block at which two branches meet is placed, and belongs to a block of the diagram. -/
theorem build_places_once_tangled :
    .print "y" (some "b") ∈ (tangled.build true).walk ∧
      ∃ node ∈ tangled.nodes, some (Text.ofString "b") = some node.id ∧
        (Statement.print "y" (some "b") : Statement Unit).shell = node.statement := by
  have hmem : .print "y" (some "b") ∈ (tangled.build true).walk := by decide
  exact ⟨hmem, (build_places_once tangled true).2 _ hmem⟩

end Diagram

end BlockFlow
