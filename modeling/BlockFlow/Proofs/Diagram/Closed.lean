import BlockFlow.Proofs.Diagram.Structure

/-!
# Closed diagrams

In a closed diagram the ids of the blocks are distinct, and every arrow leads from a block to a
block. Then every target that is ever followed finds a block (`Closed.found_goesOn?`,
`Closed.found_starts`), so a build never notices a missing block (`Closed.unbroken_build`), and a
list of the built program ends only where there is no target or where the target is taken
(`Closed.taken_of_slot_nil`).
-/

namespace BlockFlow

namespace Diagram

open Build

/-- A diagram whose blocks have distinct ids and whose arrows lead from block to block. -/
structure Closed (g : Diagram) : Prop where
  distinct : (g.nodes.map (·.id)).Nodup
  sources : ∀ e ∈ g.edges, ∃ n ∈ g.nodes, n.id = e.source
  targets : ∀ e ∈ g.edges, ∃ n ∈ g.nodes, n.id = e.target

/-- A target that finds a block, if there is a target at all. -/
def Found (g : Diagram) (target : Option Text) : Prop :=
  ∀ id ∈ target, ∃ node, g.node? id = some node

variable {g : Diagram} {expand : Bool}

/-- Without a target there is nothing to be found. -/
theorem found_none (g : Diagram) : g.Found none :=
  nofun

/-- Of two targets that find a block, the one that is chosen does. -/
theorem Found.or {target other : Option Text} (h : g.Found target) (hother : g.Found other) :
    g.Found (target.or other) := by
  intro id hid
  rcases Option.or_eq_some_iff.1 hid with hid | ⟨-, hid⟩
  · exact h id hid
  · exact hother id hid

namespace Closed

/-! ## Targets -/

/-- An arrow leads to a block, whichever arrow is chosen. -/
theorem found_arrow? (h : g.Closed) (id : Option Text) (select : Json → Bool) :
    g.Found (g.arrow? id select) := by
  intro target htarget
  obtain ⟨e, he, rfl⟩ := Option.map_eq_some_iff.1 htarget
  obtain ⟨n, hn, hid⟩ := h.targets e (List.mem_of_find?_eq_some he)
  apply Option.isSome_iff_exists.1
  rw [node?, List.find?_isSome]
  exact ⟨n, hn, by simp [hid]⟩

/-- So does an arrow with a certain handle. -/
theorem found_arrowBy? (h : g.Closed) (id : Option Text) (handle : Text) :
    g.Found (g.arrowBy? id handle) :=
  h.found_arrow? id _

/-- So does an arrow that leads past a handle. -/
theorem found_arrowPast? (h : g.Closed) (id : Option Text) (handle : Text) :
    g.Found (g.arrowPast? id handle) :=
  (h.found_arrowBy? id "next").or (h.found_arrow? id _)

/-- A sequence goes on at a block. -/
theorem found_goesOn? (h : g.Closed) (expand : Bool) (s : Statement Unit) :
    g.Found (g.goesOn? expand s) := by
  cases s with
  | ifElse _ _ _ id | switch _ _ _ id => exact h.found_arrowBy? id "next"
  | forRange _ _ _ id | whileLoop _ _ id => exact h.found_arrowPast? id "loopBody"
  | function name params body id =>
    -- A definition that is not expanded is passed like any other block.
    cases expand with
    | true => exact h.found_arrowPast? id "body"
    | false => exact h.found_arrow? id fun _ => true
  | classDef name base members id =>
    cases expand with
    | true => exact h.found_arrowPast? id "members"
    | false => exact h.found_arrow? id fun _ => true
  | _ => exact h.found_arrow? _ fun _ => true

/-- A nested list starts at a block. -/
theorem found_starts (h : g.Closed) (expand : Bool) (s : Statement Unit) :
    ∀ start ∈ (g.starts expand s).map (·.1), g.Found start := by
  cases s with
  | ifElse condition body orElse id =>
    simp only [starts, List.map_cons, List.map_nil, List.forall_mem_cons]
    exact ⟨h.found_arrowBy? id "true", h.found_arrowBy? id "false", List.forall_mem_nil _⟩
  | switch subject cases otherwise id =>
    intro start hstart
    rw [map_fst_starts_switch, List.mem_append, List.mem_map, List.mem_singleton] at hstart
    rcases hstart with ⟨i, -, rfl⟩ | rfl
    · exact h.found_arrowBy? id _
    · exact h.found_arrowBy? id _
  | forRange _ _ _ id | whileLoop _ _ id =>
    simp only [starts, List.map_cons, List.map_nil, List.forall_mem_cons]
    exact ⟨h.found_arrowBy? id "loopBody", List.forall_mem_nil _⟩
  | function name params body id =>
    simp only [starts, List.map_cons, List.map_nil, List.forall_mem_cons]
    cases expand with
    | true => exact ⟨h.found_arrowBy? id "body", List.forall_mem_nil _⟩
    | false => exact ⟨found_none g, List.forall_mem_nil _⟩
  | classDef name base members id =>
    simp only [starts, List.map_cons, List.map_nil, List.forall_mem_cons]
    cases expand with
    | true => exact ⟨h.found_arrowBy? id "members", List.forall_mem_nil _⟩
    | false => exact ⟨found_none g, List.forall_mem_nil _⟩
  | _ => exact List.forall_mem_nil _

/-- The successor of a block is a block. -/
theorem found_successor? (h : g.Closed) (expand : Bool) (n : Node) :
    g.Found (g.successor? expand n) := by
  rw [← goesOn?_assemble g expand n []]
  exact h.found_goesOn? expand _

/-- The target of a handle is a block. -/
theorem found_handleTarget? (h : g.Closed) (id handle : Text) :
    g.Found (g.handleTarget? id handle) := by
  rw [handleTarget?_eq]
  exact h.found_arrowBy? (some id) handle

/-- The target of the first arrow is a block. -/
theorem found_firstTarget? (h : g.Closed) (id : Text) : g.Found (g.firstTarget? id) := by
  rw [firstTarget?_eq]
  exact h.found_arrow? (some id) _

end Closed

/-! ## Events -/

/-- Whether no missing block was noticed so far. -/
def Unbroken (p : Progress) : Prop :=
  ∀ id, .missing id ∉ p.events

/-- Events about other things may be added. -/
theorem Unbroken.note {p : Progress} (h : Unbroken p) {events : List Event}
    (hevents : ∀ id, .missing id ∉ events) : Unbroken (p.note events) := by
  intro id hid
  rcases List.mem_append.1 hid with hid | hid
  · exact hevents id (List.mem_reverse.1 hid)
  · exact h id hid

theorem Unbroken.place {p : Progress} (h : Unbroken p) (id : Text) : Unbroken (p.place id) :=
  h

/-- The events of a block itself report no missing block. -/
theorem missing_not_mem_events (n : Node) (id : Text) : .missing id ∉ n.events := by
  unfold Node.events
  split <;> simp

/-- A choice between arrows reports no missing block. -/
theorem missing_not_mem_choiceEvents (g : Diagram) (node id : Text) :
    .missing id ∉ g.choiceEvents node := by
  unfold choiceEvents
  split <;> simp

/-- The search for a successor reports no missing block. -/
theorem missing_not_mem_successorEvents (g : Diagram) (expand : Bool) (n : Node) (id : Text) :
    .missing id ∉ g.successorEvents expand n := by
  unfold successorEvents
  split
  case h_7 => exact missing_not_mem_choiceEvents g n.id id
  all_goals simp

/-- Walks that start at blocks notice no missing block, one after the other. -/
theorem unbroken_walkEach
    {follow : Option Text → Progress → List (Statement Unit) × Progress}
    (hfollow : ∀ start p, g.Found start → Unbroken p → Unbroken (follow start p).2)
    {starts : List (Option Text)} (hstarts : ∀ start ∈ starts, g.Found start) {p : Progress}
    (h : Unbroken p) : Unbroken (walkEach follow starts p).2 := by
  induction starts generalizing p with
  | nil => exact h
  | cons start rest ih =>
    have hfirst := hfollow start p (hstarts start List.mem_cons_self) h
    exact ih (fun start hstart => hstarts start (List.mem_cons_of_mem _ hstart)) hfirst

namespace Closed

/-- One step of a walk notices no missing block, and the walks it starts begin at blocks again. -/
theorem unbroken_walk (h : g.Closed) (expand : Bool) (fuel : Nat) (start : Option Text)
    (p : Progress) (hstart : g.Found start) (hp : Unbroken p) :
    Unbroken (g.walk expand fuel start p).2 := by
  induction fuel generalizing start p with
  | zero => exact hp
  | succ fuel ih =>
    cases start with
    | none => exact hp
    | some id =>
      obtain ⟨node, hnode⟩ := hstart id rfl
      simp only [walk, hnode]
      split
      · exact hp.note (by simp)
      · have hplaced := (hp.place id).note (missing_not_mem_events node)
        have hsections : ∀ start ∈ (node.sections expand).map (g.handleTarget? id),
            g.Found start := by
          intro start hstart
          obtain ⟨handle, -, rfl⟩ := List.mem_map.1 hstart
          exact h.found_handleTarget? id handle
        have hbodies := unbroken_walkEach ih hsections hplaced
        exact ih _ _ (h.found_successor? expand node)
          (hbodies.note (missing_not_mem_successorEvents g expand node))

/-- Definitions are placed without a missing block being noticed. -/
theorem unbroken_placeDefinitions (h : g.Closed) (expand : Bool) (kind : Kind) (handle : Text)
    (nodes : List Node) (p : Progress) (hp : Unbroken p) :
    Unbroken (g.placeDefinitions expand kind handle nodes p).2 := by
  induction nodes generalizing p with
  | nil => exact hp
  | cons node rest ih =>
    rw [placeDefinitions]
    split
    -- A block of the kind starts a walk of its own; any other is passed over.
    · exact ih _ (h.unbroken_walk expand g.fuel _ _ (h.found_handleTarget? node.id handle)
        (hp.place node.id))
    · exact ih p hp

/-- No missing block is noticed while the program of a closed diagram is built. -/
theorem unbroken_build (h : g.Closed) (expand : Bool) (id : Text) :
    .missing id ∉ g.buildEvents expand := by
  have hclasses := h.unbroken_placeDefinitions expand .classDefine "members" g.nodes .start nofun
  have hfunctions := h.unbroken_placeDefinitions expand .functionDefine "body" g.nodes _ hclasses
  rw [buildEvents, List.mem_reverse]
  -- The body is the last part, and a diagram without an entry has an empty one.
  revert id
  simp only [buildWithProgress, placeBody]
  split
  · exact hfunctions.note (by simp)
  case h_2 entry _ =>
    exact h.unbroken_walk expand g.fuel _ _ (h.found_firstTarget? entry.id)
      ((hfunctions.place entry.id).note (missing_not_mem_choiceEvents g entry.id))

/-! ## Ends of lists -/

/-- Whatever a list of the built program is followed from leads to a block. -/
theorem found_slot (h : g.Closed) {p : Program Unit} {kept target : Option Text}
    {earlier rest : List (Statement Unit)} (hslot : Slot g expand p kept earlier target rest) :
    g.Found target := by
  cases hslot with
  | members => exact h.found_arrowBy? _ _
  | body => exact h.found_arrowBy? _ _
  | main => exact h.found_arrow? _ _
  | @nested _ _ _ _ _ _ s before after _ hs =>
    exact h.found_starts expand s _ (by simp [hs])
  | @next _ _ _ _ s => exact h.found_goesOn? expand s

/-- In a closed diagram a list of the built program ends only where there is no target or where the
target is taken. -/
theorem taken_of_slot_nil (h : g.Closed) {kept target : Option Text}
    {earlier : List (Statement Unit)}
    (hslot : Slot g expand (g.build expand) kept earlier target []) {id : Text}
    (hid : id ∈ target) : Taken kept earlier id := by
  obtain ⟨_, _, hbuilt⟩ := g.built expand
  obtain ⟨node, hnode⟩ := h.found_slot hslot id hid
  rcases hslot.continues hbuilt id hid with hnone | htaken
  · rw [hnode] at hnone
    cases hnone
  · exact htaken

end Closed

end Diagram

end BlockFlow
