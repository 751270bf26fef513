import BlockFlow.Proofs.Diagram.Simulation
import Mathlib.Data.List.Find
import Mathlib.Data.List.Forall2
import Mathlib.Data.List.Nodup

/-!
# What a build does not look at

A program depends on a diagram only through the blocks that are found under the ids a walk can
reach, the first arrow of each handle of these blocks, the order of the definitions, and the block
where the main body starts (`build_congr`). So the arrows may be given in any order that keeps, for
every block, the order in which its handles are first used. The blocks may be given in any order
that keeps the definitions and the start, and a block to which no arrow leads may be added.
-/

namespace BlockFlow

namespace Diagram

variable {g g' : Diagram} {expand : Bool}

/-- Two diagrams that a build cannot tell apart are built to the same program. -/
theorem build_congr (reach : Text → Prop) (hnode : ∀ id, reach id → g'.node? id = g.node? id)
    (harrow : ∀ n ∈ g.nodes, ∀ select : Option Text → Bool,
      g'.arrow? (some n.id) (fun j => select j.name?) =
        g.arrow? (some n.id) fun j => select j.name?)
    (hclosed : ∀ n ∈ g.nodes, ∀ e ∈ g.edges, e.source = n.id → reach e.target)
    (hdefinitions : ∀ kind, kind = .classDefine ∨ kind = .functionDefine →
      g'.nodes.filter (·.kind = kind) = g.nodes.filter (·.kind = kind))
    (hentry : g'.entry? = g.entry?) : g'.build expand = g.build expand := by
  have hs : Simulates (fun id => id) reach g g' := by
    refine ⟨fun _ _ h => h, ?_, ?_, hclosed, ?_, ?_⟩
    · intro id hid
      rw [hnode id hid]
      exact Option.map_id'.symm
    · intro n hn select
      rw [harrow n hn select]
      exact Option.map_id'.symm
    · intro kind hkind
      rw [hdefinitions kind hkind]
      exact (List.map_id' _).symm
    · rw [hentry]
      exact Option.map_id'.symm
  rw [hs.build_eq, Program.rename_self]

/-! ## Arrows -/

/-- The arrows of a list whose handle counts as the same as that of no earlier one. -/
def unshadowed (alike : Json → Json → Bool) : List Edge → List Edge
  | [] => []
  | e :: rest =>
    e :: (unshadowed alike rest).filter fun later => !alike e.sourceHandle later.sourceHandle

/-- Two lists of arrows with the same targets, by handles that count as the same. -/
def SameChoices (alike : Json → Json → Bool) : List Edge → List Edge → Prop :=
  List.Forall₂ fun e e' => alike e.sourceHandle e'.sourceHandle = true ∧ e.target = e'.target

instance (alike : Json → Json → Bool) (es es' : List Edge) :
    Decidable (SameChoices alike es es') :=
  inferInstanceAs (Decidable (List.Forall₂ _ es es'))

variable {alike : Json → Json → Bool}

/-- The first arrow of a choice is not shadowed. -/
theorem find?_unshadowed {select : Json → Bool}
    (hselect : ∀ j k, alike j k = true → select j = select k) (es : List Edge) :
    (unshadowed alike es).find? (fun e => select e.sourceHandle) =
      es.find? fun e => select e.sourceHandle := by
  induction es with
  | nil => rfl
  | cons e rest ih =>
    rw [unshadowed, List.find?_cons, List.find?_cons]
    cases he : select e.sourceHandle with
    | true => rfl
    | false =>
      rw [← ih, List.find?_filter]
      apply List.find?_congr
      intro later _
      -- An arrow that is shadowed by `e` is not selected either.
      cases halike : alike e.sourceHandle later.sourceHandle with
      | false => simp
      | true => simp [← hselect _ _ halike, he]

/-- Lists with the same choices lead to the same target, whatever is selected. -/
theorem SameChoices.find? {select : Json → Bool}
    (hselect : ∀ j k, alike j k = true → select j = select k) {es es' : List Edge}
    (h : SameChoices alike es es') :
    (es.find? fun e => select e.sourceHandle).map (·.target) =
      (es'.find? fun e => select e.sourceHandle).map (·.target) := by
  induction h with
  | nil => rfl
  | @cons e e' es es' hfirst _ ih =>
    obtain ⟨halike, htarget⟩ := hfirst
    rw [List.find?_cons, List.find?_cons, hselect _ _ halike]
    cases select e'.sourceHandle with
    | true => exact congrArg some htarget
    | false => exact ih

/-- The arrows of a block are chosen from its own ones. -/
theorem arrow?_eq_outgoing (g : Diagram) (id : Text) (select : Json → Bool) :
    g.arrow? (some id) select =
      ((g.outgoing id).find? fun e => select e.sourceHandle).map (·.target) := by
  simp [arrow?, outgoing, List.find?_filter, Bool.beq_eq_decide_eq]

/-- A program depends on the arrows only through the first arrow of every handle of a block, in the
order of these arrows. Handles may be compared in any way that does not confuse their names. -/
theorem build_edge_insensitive (alike : Json → Json → Bool)
    (hnames : ∀ j k, alike j k = true → j.name? = k.name?) (nodes : List Node)
    (edges edges' : List Edge)
    (h : ∀ n ∈ nodes, SameChoices alike
      (unshadowed alike ((⟨nodes, edges⟩ : Diagram).outgoing n.id))
      (unshadowed alike ((⟨nodes, edges'⟩ : Diagram).outgoing n.id))) (expand : Bool) :
    (⟨nodes, edges⟩ : Diagram).build expand = (⟨nodes, edges'⟩ : Diagram).build expand := by
  refine build_congr (fun _ => True) (fun _ _ => rfl) ?_ (fun _ _ _ _ _ => trivial)
    (fun _ _ => rfl) rfl
  intro n hn select
  have hselect : ∀ j k, alike j k = true → select j.name? = select k.name? := by
    intro j k hjk
    rw [hnames j k hjk]
  have htarget := (h n hn).find? hselect
  rw [find?_unshadowed hselect, find?_unshadowed hselect] at htarget
  rw [arrow?_eq_outgoing, arrow?_eq_outgoing]
  exact htarget

/-- A loop with a body and something after it. -/
def wired : Diagram where
  nodes := [⟨"start", "input", []⟩, ⟨"w", "while", [("condition", .str "c")]⟩,
    ⟨"a", "print", [("value", .str "x")]⟩, ⟨"b", "print", [("value", .str "y")]⟩]
  edges := [⟨"start", "w", .null, .null, none⟩, ⟨"w", "a", .str "loopBody", .null, none⟩,
    ⟨"w", "b", .int 1, .null, none⟩]

/-- The same loop with its arrows in another order, with further arrows on handles that are used
before, and with an arrow from nowhere. -/
def rewired : Diagram where
  nodes := wired.nodes
  edges := [⟨"w", "a", .str "loopBody", .str "in", some "e1"⟩, ⟨"void", "b", .null, .null, none⟩,
    ⟨"w", "w", .str "loopBody", .null, none⟩, ⟨"start", "w", .null, .null, some "e2"⟩,
    ⟨"w", "b", .bool true, .null, none⟩, ⟨"w", "a", .int 1, .null, none⟩,
    ⟨"start", "b", .null, .null, none⟩]

/-- Handles are compared as values, where true is the number one. -/
def handlesAlike (j k : Json) : Bool :=
  match j, k with
  | .bool true, .int 1 => true
  | .int 1, .bool true => true
  | j, k => decide (j = k)

/-- The two loops choose alike for every block, so they are built alike. -/
theorem build_edge_insensitive_rewired :
    (∀ n ∈ wired.nodes, SameChoices handlesAlike
      (unshadowed handlesAlike (wired.outgoing n.id))
      (unshadowed handlesAlike (rewired.outgoing n.id))) ∧
      wired.build true = rewired.build true := by
  have hnames : ∀ j k, handlesAlike j k = true → j.name? = k.name? := by
    intro j k hjk
    unfold handlesAlike at hjk
    split at hjk
    · rfl
    · rfl
    · rw [of_decide_eq_true hjk]
  have h : ∀ n ∈ wired.nodes, SameChoices handlesAlike
      (unshadowed handlesAlike (wired.outgoing n.id))
      (unshadowed handlesAlike (rewired.outgoing n.id)) := by
    decide
  exact ⟨h, build_edge_insensitive handlesAlike hnames wired.nodes _ _ h true⟩

/-! ## Blocks -/

/-- The same arrows, and the same blocks with different ids in another order, which keeps the order
of the classes, the order of the functions, and the block where the main body starts. -/
structure Reorders (g g' : Diagram) : Prop where
  edges : g.edges = g'.edges
  perm : g.nodes.Perm g'.nodes
  ids : (g.nodes.map (·.id)).Nodup
  classes : g.nodes.filter (·.kind = .classDefine) = g'.nodes.filter (·.kind = .classDefine)
  functions : g.nodes.filter (·.kind = .functionDefine) =
    g'.nodes.filter (·.kind = .functionDefine)
  entry : g.entry? = g'.entry?

/-- A block with an id of its own that plays no part: it is not where the main body starts, it is no
definition, and no arrow of another block leads to it. -/
structure Isolated (g : Diagram) (n : Node) : Prop where
  fresh : ∀ m ∈ g.nodes, m.id ≠ n.id
  notStart : n.id ≠ "start"
  notEntry : n.kind ≠ .entry
  notClass : n.kind ≠ .classDefine
  notFunction : n.kind ≠ .functionDefine
  unreached : ∀ m ∈ g.nodes, ∀ e ∈ g.edges, e.source = m.id → e.target ≠ n.id

/-- If the ids are different, the order of the blocks does not matter to what is found. -/
theorem Reorders.node? (h : Reorders g g') (id : Text) : g.node? id = g'.node? id := by
  apply List.find?_eq_find?_of_perm h.perm
  intro m hm n hn
  simp only [Set.mem_ofPred_eq, beq_iff_eq] at hm hn
  exact List.inj_on_of_nodup_map h.ids hm.1 hn.1 (hm.2.trans hn.2.symm)

/-- Blocks in another order are found, walked and listed as before. -/
theorem Reorders.build_eq (h : Reorders g g') (expand : Bool) :
    g.build expand = g'.build expand := by
  refine build_congr (fun _ => True) (fun id _ => h.node? id) ?_ (fun _ _ _ _ _ => trivial) ?_
    h.entry
  · intro n _ select
    rw [arrow?, arrow?, h.edges]
  · rintro kind (rfl | rfl)
    · exact h.classes
    · exact h.functions

/-- A block that is passed over may as well be missing. -/
theorem find?_insert {p : Node → Bool} {n : Node} (hn : p n = false) (before after : List Node) :
    (before ++ n :: after).find? p = (before ++ after).find? p := by
  rw [List.find?_append, List.find?_append, List.find?_cons_of_neg (by simp [hn])]

/-- The arrows of other blocks do not change with those of a block. -/
theorem arrow?_congr {n : Node} {id : Text} (hid : id ≠ n.id)
    (h : g'.edges.filter (·.source ≠ n.id) = g.edges.filter (·.source ≠ n.id))
    (select : Json → Bool) : g'.arrow? (some id) select = g.arrow? (some id) select := by
  have hfilter (es : List Edge) :
      es.find? (fun e => some e.source = some id && select e.sourceHandle) =
        (es.filter (·.source ≠ n.id)).find?
          fun e => some e.source = some id && select e.sourceHandle := by
    rw [List.find?_filter]
    apply List.find?_congr
    intro e _
    -- An arrow of the block itself is not selected in either list.
    by_cases he : e.source = id <;> simp [he, hid]
  rw [arrow?, arrow?, hfilter g'.edges, hfilter g.edges, h]

/-- A walk never gets to a block that plays no part, so its arrows make no difference either. -/
theorem Isolated.build_eq {before after : List Node} {edges edges' : List Edge} {n : Node}
    (h : Isolated ⟨before ++ after, edges⟩ n)
    (hedges : edges'.filter (·.source ≠ n.id) = edges.filter (·.source ≠ n.id)) (expand : Bool) :
    (⟨before ++ n :: after, edges'⟩ : Diagram).build expand =
      (⟨before ++ after, edges⟩ : Diagram).build expand := by
  -- What a walk can reach is every id but that of the new block.
  refine build_congr (· ≠ n.id) ?_ ?_ h.unreached ?_ ?_
  · intro id hid
    exact find?_insert (by simpa using hid.symm) before after
  · intro m hm select
    exact arrow?_congr (h.fresh m hm) hedges _
  · rintro kind hkind
    have hn : n.kind ≠ kind := by
      rcases hkind with rfl | rfl
      · exact h.notClass
      · exact h.notFunction
    simp [List.filter_append, hn]
  · unfold entry?
    rw [find?_insert (by simpa using h.notEntry), find?_insert (by simpa using h.notStart)]

/-- A program depends on the list of blocks only through the blocks that are found under ids, the
order of the definitions and the block where the main body starts: other blocks may change places,
and a block that plays no part may be added anywhere, with any arrows that leave it. -/
theorem build_node_insensitive (expand : Bool) :
    (∀ g g' : Diagram, Reorders g g' → g.build expand = g'.build expand) ∧
    ∀ before after edges edges' n, Isolated ⟨before ++ after, edges⟩ n →
      edges'.filter (·.source ≠ n.id) = edges.filter (·.source ≠ n.id) →
      (⟨before ++ n :: after, edges'⟩ : Diagram).build expand =
        (⟨before ++ after, edges⟩ : Diagram).build expand := by
  constructor
  · intro g g' h
    exact h.build_eq expand
  · intro before after edges edges' n h hedges
    exact h.build_eq hedges expand

/-- The diagram `wired` with its blocks in another order. -/
def shuffled : Diagram where
  nodes := [⟨"b", "print", [("value", .str "y")]⟩, ⟨"w", "while", [("condition", .str "c")]⟩,
    ⟨"start", "input", []⟩, ⟨"a", "print", [("value", .str "x")]⟩]
  edges := wired.edges

/-- A block that stands apart, from which arrows lead to itself and to a loop. -/
def stray : Node :=
  ⟨"stray", "if", [("condition", .str "z")]⟩

/-- The arrows of `wired` and those of `stray` among them. -/
def strayEdges : List Edge :=
  [⟨"stray", "w", .str "true", .null, none⟩, ⟨"start", "w", .null, .null, none⟩,
    ⟨"w", "a", .str "loopBody", .null, none⟩, ⟨"stray", "stray", .null, .null, none⟩,
    ⟨"w", "b", .int 1, .null, none⟩]

/-- Both parts for the loop: its blocks in another order, and a block that stands apart. -/
theorem build_node_insensitive_wired :
    Reorders wired shuffled ∧ wired.build true = shuffled.build true ∧ Isolated wired stray ∧
      (⟨wired.nodes.take 1 ++ stray :: wired.nodes.drop 1, strayEdges⟩ : Diagram).build true =
        wired.build true := by
  have hreorders : Reorders wired shuffled :=
    ⟨rfl, by decide, by decide, by decide, by decide, by decide⟩
  have hisolated : Isolated wired stray :=
    ⟨by decide, by decide, by decide, by decide, by decide, by decide⟩
  exact ⟨hreorders, (build_node_insensitive true).1 _ _ hreorders, hisolated,
    (build_node_insensitive true).2 (wired.nodes.take 1) (wired.nodes.drop 1) wired.edges
      strayEdges stray hisolated (by decide)⟩

end Diagram

end BlockFlow
