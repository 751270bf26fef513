import BlockFlow.Proofs.Diagram.Structure
import BlockFlow.Proofs.Diagram.Termination
import BlockFlow.Proofs.Program.Relabelling
import Mathlib.Data.List.GetD

/-!
# Builds that run alike

What a build leaves behind determines the program (`Built.eq_build`): from the same ids that are
placed before, the same starts give the same statements. To compare the builds of two diagrams it is
therefore enough to turn what one of them leaves behind into what the other one does.

`Simulates` says when this is possible. The ids may change on the way, by a renaming that keeps them
apart. Blocks have to be found under corresponding ids only as far as a walk can reach, and arrows
have to lead to corresponding blocks only as far as they are chosen by the names of their handles.
-/

namespace BlockFlow

/-- The name of a handle. A handle that is not given as a text has none. -/
def Json.name? : Json → Option Text
  | .str name => some name
  | _ => none

/-- A handle is given as a text exactly if it has this name. -/
theorem Json.eq_str_iff (j : Json) (name : Text) : j = .str name ↔ j.name? = some name := by
  cases j <;> simp [Json.name?]

/-! ## Blocks under other ids -/

namespace Node

/-- A block under another id. -/
def rename (r : Text → Text) (n : Node) : Node :=
  { n with id := r n.id }

variable (r : Text → Text) (n : Node)

/-- The id is the renamed one. -/
@[simp]
theorem id_rename : (n.rename r).id = r n.id :=
  rfl

/-- Renaming keeps the kind. -/
@[simp]
theorem kind_rename : (n.rename r).kind = n.kind :=
  rfl

/-- Renaming keeps the sections, since they come from the kind and the data. -/
@[simp]
theorem sections_rename (expand : Bool) : (n.rename r).sections expand = n.sections expand :=
  rfl

/-- The own statement of a renamed block is its renamed statement. -/
theorem statement_rename : (n.rename r).statement = n.statement.rename r := by
  have htext : ∀ key, (n.rename r).text key = n.text key := fun _ => rfl
  unfold statement
  simp only [kind_rename, htext]
  cases n.kind <;> rfl

/-- The statement of a block under another id is the renamed statement, if what is nested in it is
renamed as well. -/
theorem assemble_rename (bodies : List (List (Statement Unit))) :
    (n.rename r).assemble (bodies.map (Statement.renameAll r)) = (n.assemble bodies).rename r := by
  have hhead : (bodies.map (Statement.renameAll r)).headD [] =
      Statement.renameAll r (bodies.headD []) := by
    cases bodies <;> rfl
  have hget (i : Nat) : (bodies.map (Statement.renameAll r)).getD i [] =
      Statement.renameAll r (bodies.getD i []) :=
    List.getD_map _ [] _
  have hcases : n.caseValues.zip (bodies.map (Statement.renameAll r)) =
      Statement.relabelCases (Option.map r) (fun fields => fields) (n.caseValues.zip bodies) := by
    rw [List.zip_map_right, Statement.relabelCases_eq_map]
    rfl
  have hvalues : (n.rename r).caseValues = n.caseValues := rfl
  unfold assemble
  rw [statement_rename, hhead, hget, hvalues, hcases, hget]
  cases n.statement <;> rfl

end Node

namespace Diagram

/-! ## What is built is determined -/

variable {g g' : Diagram} {expand : Bool} {kind : Kind} {handle : Text}
  {placed placed' placed'' : List Text} {starts : List (Option Text)}
  {bodies bodies' : List (List (Statement Unit))} {nodes : List Node}
  {ss ss' : List (Statement Unit)}

/-- A block that is found and not placed yet is placed. -/
theorem not_blocked {id : Text} {node : Node} (found : g.node? id = some node)
    (free : id ∉ placed) : ¬ g.Blocked placed (some id) := by
  intro blocked
  rcases blocked id rfl with hmissing | hplaced
  · simp [hmissing] at found
  · exact free hplaced

/-- The same starts give the same statements. -/
theorem Follows.unique (h : Follows g expand placed starts bodies placed')
    (h' : Follows g expand placed starts bodies' placed'') :
    bodies = bodies' ∧ placed' = placed'' := by
  induction h generalizing bodies' placed'' with
  | nil =>
    cases h'
    exact ⟨rfl, rfl⟩
  | stop blocked _ ih =>
    -- The walk is blocked at the start, so the other one cannot have placed a block there.
    cases h' with
    | stop _ others =>
      obtain ⟨rfl, rfl⟩ := ih others
      exact ⟨rfl, rfl⟩
    | step found free _ _ => exact absurd blocked (not_blocked found free)
  | step found free _ _ ihInner ihOthers =>
    -- A block is placed by both, and it is the same one.
    cases h' with
    | stop blocked _ => exact absurd blocked (not_blocked found free)
    | step found' _ inner others =>
      obtain rfl := Option.some.inj (found.symm.trans found')
      obtain ⟨rfl, rfl⟩ := ihInner inner
      obtain ⟨hbodies, rfl⟩ := ihOthers others
      obtain ⟨rfl, rfl⟩ := List.cons.inj hbodies
      exact ⟨rfl, rfl⟩

/-- The same blocks give the same definitions. -/
theorem Defines.unique (h : Defines g expand kind handle placed nodes ss placed')
    (h' : Defines g expand kind handle placed nodes ss' placed'') :
    ss = ss' ∧ placed' = placed'' := by
  induction h generalizing ss' placed'' with
  | nil =>
    cases h'
    exact ⟨rfl, rfl⟩
  | skip other _ ih =>
    cases h' with
    | skip _ others => exact ih others
    | define ofKind free _ _ => exact absurd other (by simp [ofKind, free])
  | define ofKind free inner _ ih =>
    cases h' with
    | skip other _ => exact absurd other (by simp [ofKind, free])
    | define _ _ inner' others =>
      obtain ⟨hbody, rfl⟩ := inner.unique inner'
      obtain rfl := List.singleton_inj.mp hbody
      obtain ⟨rfl, rfl⟩ := ih others
      exact ⟨rfl, rfl⟩

/-- What the three passes of a build leave behind is the program that is built. -/
theorem Built.eq_build {p : Program Unit} {afterClasses afterFunctions : List Text}
    (h : Built g expand p afterClasses afterFunctions) : g.build expand = p := by
  obtain ⟨_, _, hbuild⟩ := g.built expand
  obtain ⟨hclasses, rfl⟩ := hbuild.classes.unique h.classes
  obtain ⟨hfunctions, rfl⟩ := hbuild.functions.unique h.functions
  have hbody : (g.build expand).body = p.body := by
    cases hentry : g.entry? with
    | none => rw [hbuild.noEntry hentry, h.noEntry hentry]
    | some entry =>
      obtain ⟨_, hfollows⟩ := hbuild.body entry hentry
      obtain ⟨_, hfollows'⟩ := h.body entry hentry
      exact List.singleton_inj.mp (hfollows.unique hfollows').1
  show g.build expand = ⟨p.classes, p.functions, p.body⟩
  rw [← hclasses, ← hfunctions, ← hbody]

/-- A pass over definitions looks at the blocks of its kind only. -/
theorem defines_filter_iff :
    Defines g expand kind handle placed (nodes.filter (·.kind = kind)) ss placed' ↔
      Defines g expand kind handle placed nodes ss placed' := by
  induction nodes generalizing placed ss with
  | nil => rfl
  | cons node nodes ih =>
    -- Only a block of the kind is in both lists; any other one is skipped.
    by_cases hkind : node.kind = kind
    · rw [List.filter_cons_of_pos (by simpa using hkind)]
      constructor
      · intro h
        cases h with
        | skip other others => exact .skip other (ih.mp others)
        | define ofKind free inner others => exact .define ofKind free inner (ih.mp others)
      · intro h
        cases h with
        | skip other others => exact .skip other (ih.mpr others)
        | define ofKind free inner others => exact .define ofKind free inner (ih.mpr others)
    · rw [List.filter_cons_of_neg (by simpa using hkind), ih]
      constructor
      · exact .skip (Or.inl hkind)
      · intro h
        cases h with
        | skip _ others => exact others
        | define ofKind _ _ _ => exact absurd ofKind hkind

/-! ## Arrows chosen by name -/

/-- The target by a handle, in terms of the name of the handle. -/
theorem handleTarget?_eq_name (g : Diagram) (id handle : Text) :
    g.handleTarget? id handle = g.arrow? (some id) fun j => j.name? = some handle := by
  rw [handleTarget?_eq, arrowBy?]
  simp only [Json.eq_str_iff]

/-- The target by any other handle, in terms of the name as well. -/
theorem otherTarget?_eq_name (g : Diagram) (id handle : Text) :
    g.otherTarget? id handle = g.arrow? (some id) fun j => j.name? ≠ some handle := by
  rw [otherTarget?_eq]
  simp only [ne_eq, Json.eq_str_iff]

/-- An arrow that is found is one that leaves the block. -/
theorem exists_edge_of_arrow? {id target : Text} {select : Json → Bool}
    (h : g.arrow? (some id) select = some target) :
    ∃ e ∈ g.edges, e.source = id ∧ e.target = target := by
  obtain ⟨e, he, rfl⟩ := Option.map_eq_some_iff.mp h
  have hsource := List.find?_some he
  exact ⟨e, List.mem_of_find?_eq_some he, by simp_all, rfl⟩

/-- A sequence goes on along an arrow that leaves the block. -/
theorem exists_edge_of_successor? {n : Node} {target : Text}
    (h : g.successor? expand n = some target) :
    ∃ e ∈ g.edges, e.source = n.id ∧ e.target = target := by
  have hpast (handle : Text)
      (h : (g.handleTarget? n.id "next").or (g.otherTarget? n.id handle) = some target) :
      ∃ e ∈ g.edges, e.source = n.id ∧ e.target = target := by
    rcases Option.or_eq_some_iff.mp h with h | ⟨-, h⟩
    · exact exists_edge_of_arrow? (handleTarget?_eq g n.id "next" ▸ h)
    · exact exists_edge_of_arrow? (otherTarget?_eq g n.id handle ▸ h)
  unfold successor? at h
  -- An arrow out of a branch, of any other plain block, or past the body of a loop or a definition.
  split at h
  case h_1 | h_2 => exact exists_edge_of_arrow? (handleTarget?_eq g n.id "next" ▸ h)
  case h_7 => exact exists_edge_of_arrow? (firstTarget?_eq g n.id ▸ h)
  all_goals exact hpast _ h

/-! ## Simulations -/

/-- One diagram behaves like another with its ids renamed, as far as a build can tell. -/
structure Simulates (r : Text → Text) (reach : Text → Prop) (g g' : Diagram) : Prop where
  /-- Different ids stay different. -/
  injective : Function.Injective r
  /-- Under an id that a walk can reach the same block is found. -/
  node : ∀ id, reach id → g'.node? (r id) = (g.node? id).map (Node.rename r)
  /-- Arrows that are chosen by the names of their handles lead to the same ids. -/
  arrow : ∀ n ∈ g.nodes, ∀ select : Option Text → Bool,
    g'.arrow? (some (r n.id)) (fun j => select j.name?) =
      (g.arrow? (some n.id) fun j => select j.name?).map r
  /-- From a block a walk can only reach such ids. -/
  closed : ∀ n ∈ g.nodes, ∀ e ∈ g.edges, e.source = n.id → reach e.target
  /-- The definitions of either kind are the same, in the same order. -/
  definitions : ∀ kind, kind = .classDefine ∨ kind = .functionDefine →
    g'.nodes.filter (·.kind = kind) = (g.nodes.filter (·.kind = kind)).map (Node.rename r)
  /-- The main body starts at the same block. -/
  entry : g'.entry? = g.entry?.map (Node.rename r)

namespace Simulates

variable {r : Text → Text} {reach : Text → Prop}

/-- The targets by a handle correspond. -/
theorem handleTarget? (hs : Simulates r reach g g') {n : Node} (hn : n ∈ g.nodes)
    (handle : Text) :
    g'.handleTarget? (r n.id) handle = (g.handleTarget? n.id handle).map r := by
  rw [handleTarget?_eq_name, handleTarget?_eq_name]
  exact hs.arrow n hn fun name => name = some handle

/-- The targets by any other handle correspond. -/
theorem otherTarget? (hs : Simulates r reach g g') {n : Node} (hn : n ∈ g.nodes)
    (handle : Text) :
    g'.otherTarget? (r n.id) handle = (g.otherTarget? n.id handle).map r := by
  rw [otherTarget?_eq_name, otherTarget?_eq_name]
  exact hs.arrow n hn fun name => name ≠ some handle

/-- The first targets correspond. -/
theorem firstTarget? (hs : Simulates r reach g g') {n : Node} (hn : n ∈ g.nodes) :
    g'.firstTarget? (r n.id) = (g.firstTarget? n.id).map r := by
  rw [firstTarget?_eq, firstTarget?_eq]
  exact hs.arrow n hn fun _ => true

/-- Sequences go on at corresponding blocks. -/
theorem successor? (hs : Simulates r reach g g') {n : Node} (hn : n ∈ g.nodes) :
    g'.successor? expand (n.rename r) = (g.successor? expand n).map r := by
  unfold Diagram.successor?
  simp only [Node.kind_rename, Node.id_rename, hs.handleTarget? hn, hs.otherTarget? hn,
    hs.firstTarget? hn]
  cases n.kind <;> cases expand <;> simp [Option.map_or]

/-- A walk from a block only meets ids that it can reach. -/
theorem reach_of_arrow (hs : Simulates r reach g g') {n : Node} (hn : n ∈ g.nodes)
    {id : Text} (h : ∃ e ∈ g.edges, e.source = n.id ∧ e.target = id) : reach id := by
  obtain ⟨e, he, hsource, rfl⟩ := h
  exact hs.closed n hn e he hsource

/-- In particular, the target by a handle can be reached. -/
theorem reach_handleTarget? (hs : Simulates r reach g g') {n : Node} (hn : n ∈ g.nodes)
    {handle id : Text} (h : id ∈ g.handleTarget? n.id handle) : reach id :=
  hs.reach_of_arrow hn (exists_edge_of_arrow? (handleTarget?_eq g n.id handle ▸ h))

/-- An id that is free stays free under its new name. -/
theorem not_mem_map (hs : Simulates r reach g g') {id : Text} (hfree : id ∉ placed) :
    r id ∉ placed.map r := by
  rwa [List.mem_map_of_injective hs.injective]

/-- What is followed in one diagram is followed in the other, under the renamed ids. -/
theorem follows (hs : Simulates r reach g g')
    (h : Follows g expand placed starts bodies placed')
    (hstarts : ∀ start ∈ starts, ∀ id ∈ start, reach id) :
    Follows g' expand (placed.map r) (starts.map (Option.map r))
      (bodies.map (Statement.renameAll r)) (placed'.map r) := by
  induction h with
  | nil => exact .nil
  | @stop placed _ start _ _ blocked _ ih =>
    refine .stop ?_ (ih fun start hstart => hstarts start (List.mem_cons_of_mem _ hstart))
    intro id' hid'
    obtain ⟨id, hid, rfl⟩ := Option.map_eq_some_iff.mp hid'
    -- A target without a block has none under the new id; a placed one is placed there too.
    rcases blocked id hid with hmissing | hplaced
    · left
      rw [hs.node id (hstarts start List.mem_cons_self id hid), hmissing]
      rfl
    · exact Or.inr (List.mem_map_of_mem hplaced)
  | @step placed _ _ id node starts nested _ rest found free _ _ ihInner ihOthers =>
    -- The block is found under its new id, with corresponding sections and successor.
    have hreach : reach id := hstarts (some id) List.mem_cons_self id rfl
    obtain ⟨hnode, rfl⟩ := mem_nodes_of_node? found
    have hfound : g'.node? (r node.id) = some (node.rename r) := by
      rw [hs.node node.id hreach, found]
      rfl
    have hsections : ((node.sections expand).map (g.handleTarget? node.id)).map (Option.map r) =
        ((node.rename r).sections expand).map (g'.handleTarget? (r node.id)) := by
      simp [hs.handleTarget? hnode]
    have hinner := ihInner (by
      intro start hstart id hid
      obtain ⟨handle, -, rfl⟩ := List.mem_map.mp hstart
      exact hs.reach_handleTarget? hnode hid)
    have hothers := ihOthers (by
      intro start hstart id hid
      rcases List.mem_cons.mp hstart with rfl | hstart
      · exact hs.reach_of_arrow hnode (exists_edge_of_successor? hid)
      · exact hstarts start (List.mem_cons_of_mem _ hstart) id hid)
    rw [hsections] at hinner
    rw [List.map_cons, ← hs.successor? hnode] at hothers
    have hstep := Follows.step hfound (hs.not_mem_map free) hinner hothers
    rw [Node.assemble_rename] at hstep
    exact hstep

/-- A pass over definitions of one diagram is one of the other, under the renamed ids. -/
theorem defines (hs : Simulates r reach g g') (hnodes : nodes ⊆ g.nodes)
    (h : Defines g expand kind handle placed nodes ss placed') :
    Defines g' expand kind handle (placed.map r) (nodes.map (Node.rename r))
      (Statement.renameAll r ss) (placed'.map r) := by
  induction h with
  | nil => exact .nil
  | skip other _ ih =>
    have hrest := ih fun n hn => hnodes (List.mem_cons_of_mem _ hn)
    exact .skip (other.imp_right List.mem_map_of_mem) hrest
  | @define placed _ _ node _ body _ ofKind free inner _ ih =>
    have hnode : node ∈ g.nodes := hnodes List.mem_cons_self
    have hrest := ih fun n hn => hnodes (List.mem_cons_of_mem _ hn)
    have hinner := hs.follows inner (by
      intro start hstart id hid
      rw [List.mem_singleton.mp hstart] at hid
      exact hs.reach_handleTarget? hnode hid)
    rw [List.map_singleton, ← hs.handleTarget? hnode] at hinner
    have hassemble := node.assemble_rename r [body]
    rw [List.map_cons, Statement.renameAll_cons, ← hassemble]
    exact .define ofKind (hs.not_mem_map free) hinner hrest

/-- What one build leaves behind is left behind by the other, under the renamed ids. -/
theorem built (hs : Simulates r reach g g') {p : Program Unit}
    {afterClasses afterFunctions : List Text} (h : Built g expand p afterClasses afterFunctions) :
    Built g' expand (p.rename r) (afterClasses.map r) (afterFunctions.map r) := by
  -- Both passes look at the definitions of their kind alone, and these correspond.
  have hdefines {kind : Kind} {handle : Text} {placed placed' : List Text}
      {ss : List (Statement Unit)} (hkind : kind = .classDefine ∨ kind = .functionDefine)
      (h : Defines g expand kind handle placed g.nodes ss placed') :
      Defines g' expand kind handle (placed.map r) g'.nodes (Statement.renameAll r ss)
        (placed'.map r) := by
    have hfilter := hs.defines (List.filter_subset_self _) (defines_filter_iff.mpr h)
    rw [← hs.definitions kind hkind] at hfilter
    exact defines_filter_iff.mp hfilter
  refine ⟨hdefines (Or.inl rfl) h.classes, hdefines (Or.inr rfl) h.functions, ?_, ?_⟩
  · intro hentry
    rw [hs.entry, Option.map_eq_none_iff] at hentry
    show Statement.renameAll r p.body = []
    rw [h.noEntry hentry, Statement.renameAll_nil]
  · intro entry' hentry'
    rw [hs.entry] at hentry'
    obtain ⟨entry, hentry, rfl⟩ := Option.map_eq_some_iff.mp hentry'
    obtain ⟨placed, hbody⟩ := h.body entry hentry
    have hnode := mem_nodes_of_entry hentry
    have hfollows := hs.follows hbody (by
      intro start hstart id hid
      rw [List.mem_singleton.mp hstart] at hid
      exact hs.reach_of_arrow hnode (exists_edge_of_arrow? (firstTarget?_eq g entry.id ▸ hid)))
    rw [List.map_singleton, ← hs.firstTarget? hnode] at hfollows
    exact ⟨placed.map r, hfollows⟩

/-- A diagram that behaves like another one is built to the same program, with its ids renamed. -/
theorem build_eq (hs : Simulates r reach g g') :
    g'.build expand = (g.build expand).rename r := by
  obtain ⟨_, _, h⟩ := g.built expand
  exact (hs.built h).eq_build

end Simulates

end Diagram

end BlockFlow
