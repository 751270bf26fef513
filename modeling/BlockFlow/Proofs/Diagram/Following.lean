import BlockFlow.Diagram.Building
import BlockFlow.Proofs.Diagram.Assembly
import Mathlib.Data.Finset.Card
import Mathlib.Data.Finset.SDiff

/-!
# Following arrows

`Follows` says what is built from a list of starts, without a bound on the number of steps: the
statements of each start, and the ids that are placed afterwards. `follows_walk` shows that the
bounded walk with more steps than there are free ids does exactly that, so that every law of a walk
is an induction over `Follows`.

The ids are placed in depth-first order, each of them once (`Follows.places`), and every statement
is made from the block that is found under its id (`Follows.found`).
-/

namespace BlockFlow

/-! ## Placement in depth-first order -/

/-- Statements whose ids are placed one after the other, each of them once and none of them
before. -/
structure Places (placed : List Text) (ss : List (Statement Unit)) (placed' : List Text) :
    Prop where
  order : placed'.map some = (ss.map Statement.id).reverse ++ placed.map some
  once : (ss.map Statement.id).Nodup
  free : ∀ s ∈ ss, s.id ∉ placed.map some

namespace Places

variable {placed placed' placed'' : List Text} {ss ts : List (Statement Unit)}

theorem nil : Places placed [] placed :=
  ⟨by simp, by simp, by simp⟩

/-- A free id is placed. -/
theorem single {s : Statement Unit} {id : Text} (hid : s.id = some id) (hfree : id ∉ placed) :
    Places placed [s] (id :: placed) := by
  refine ⟨by simp [hid], by simp, ?_⟩
  intro t ht
  rw [List.mem_singleton.mp ht, hid]
  simpa using hfree

theorem append (h : Places placed ss placed') (h' : Places placed' ts placed'') :
    Places placed (ss ++ ts) placed'' := by
  -- No later id is among the earlier ones, because those are placed when it is reached.
  have hfree : ∀ t ∈ ts, t.id ∉ ss.map Statement.id ∧ t.id ∉ placed.map some := by
    intro t ht
    have hnot := h'.free t ht
    rw [h.order, List.mem_append, List.mem_reverse] at hnot
    exact not_or.mp hnot
  refine ⟨?_, ?_, ?_⟩
  · rw [h'.order, h.order]
    simp
  · rw [List.map_append, List.nodup_append]
    refine ⟨h.once, h'.once, ?_⟩
    rintro _ hs _ ht rfl
    obtain ⟨t, ht, hid⟩ := List.mem_map.mp ht
    exact (hfree t ht).1 (hid ▸ hs)
  · intro s hs
    rcases List.mem_append.mp hs with hs | hs
    · exact h.free s hs
    · exact (hfree s hs).2

/-- What is placed afterwards. -/
theorem mem_iff (h : Places placed ss placed') {id : Text} :
    id ∈ placed' ↔ (∃ s ∈ ss, s.id = some id) ∨ id ∈ placed := by
  have hmem : id ∈ placed' ↔ some id ∈ placed'.map some := by simp
  rw [hmem, h.order]
  simp

/-- What is placed stays placed. -/
theorem subset (h : Places placed ss placed') : placed ⊆ placed' := by
  intro id hid
  exact h.mem_iff.mpr (Or.inr hid)

end Places

/-! ## What is built from a start -/

namespace Diagram

variable {g : Diagram} {expand : Bool}

/-- A block that is found under an id is one of the diagram and has the id. -/
theorem mem_nodes_of_node? {id : Text} {n : Node} (h : g.node? id = some n) :
    n ∈ g.nodes ∧ n.id = id := by
  refine ⟨List.mem_of_find?_eq_some h, ?_⟩
  simpa using List.find?_some h

/-- Nothing can be placed at a start: there is none, no block has its id, or the id is taken. -/
def Blocked (g : Diagram) (taken : List Text) (start : Option Text) : Prop :=
  ∀ id ∈ start, g.node? id = none ∨ id ∈ taken

/-- The statements that are built from each of a list of starts in turn, between the ids that are
placed before and those that are placed after. -/
inductive Follows (g : Diagram) (expand : Bool) :
    List Text → List (Option Text) → List (List (Statement Unit)) → List Text → Prop
  | nil {placed : List Text} : Follows g expand placed [] [] placed
  | stop {placed placed' : List Text} {start : Option Text} {starts : List (Option Text)}
      {bodies : List (List (Statement Unit))} (blocked : g.Blocked placed start)
      (others : Follows g expand placed starts bodies placed') :
      Follows g expand placed (start :: starts) ([] :: bodies) placed'
  | step {placed placed' placed'' : List Text} {id : Text} {node : Node}
      {starts : List (Option Text)} {nested bodies : List (List (Statement Unit))}
      {rest : List (Statement Unit)} (found : g.node? id = some node) (free : id ∉ placed)
      (inner : Follows g expand (id :: placed) ((node.sections expand).map (g.handleTarget? id))
        nested placed')
      (others : Follows g expand placed' (g.successor? expand node :: starts) (rest :: bodies)
        placed'') :
      Follows g expand placed (some id :: starts) ((node.assemble nested :: rest) :: bodies)
        placed''

namespace Follows

variable {placed placed' placed'' : List Text} {starts starts' : List (Option Text)}
  {bodies bodies' : List (List (Statement Unit))}

/-- There is one list for each start. -/
theorem length_eq (h : Follows g expand placed starts bodies placed') :
    bodies.length = starts.length := by
  induction h with
  | nil => rfl
  | stop _ _ ih => simp [ih]
  | step _ _ _ _ _ ih => simpa using ih

/-- Starts that are followed one after the other can be followed together. -/
theorem append (h : Follows g expand placed starts bodies placed')
    (h' : Follows g expand placed' starts' bodies' placed'') :
    Follows g expand placed (starts ++ starts') (bodies ++ bodies') placed'' := by
  induction h with
  | nil => exact h'
  | stop blocked _ ih => exact .stop blocked (ih h')
  | step found free inner _ _ ih => exact .step found free inner (ih h')

/-- The first start is followed before the others. -/
theorem uncons {start : Option Text} {body : List (Statement Unit)}
    (h : Follows g expand placed (start :: starts) (body :: bodies) placed'') :
    ∃ placed', Follows g expand placed [start] [body] placed' ∧
      Follows g expand placed' starts bodies placed'' := by
  generalize hs : start :: starts = all at h
  generalize hb : body :: bodies = lists at h
  induction h generalizing start body with
  | nil => cases hs
  | stop blocked others =>
    cases hs
    cases hb
    exact ⟨_, .stop blocked .nil, others⟩
  | step found free inner _ _ ih =>
    cases hs
    cases hb
    obtain ⟨_, hfirst, hothers⟩ := ih rfl rfl
    exact ⟨_, .step found free inner hfirst, hothers⟩

/-- Starts that are followed together are followed one after the other. -/
theorem split (h : Follows g expand placed (starts ++ starts') (bodies ++ bodies') placed'')
    (hlen : bodies.length = starts.length) :
    ∃ placed', Follows g expand placed starts bodies placed' ∧
      Follows g expand placed' starts' bodies' placed'' := by
  induction starts generalizing placed bodies with
  | nil =>
    obtain rfl := List.length_eq_zero_iff.mp hlen
    exact ⟨placed, .nil, h⟩
  | cons start starts ih =>
    match bodies, hlen with
    | body :: bodies, hlen =>
      obtain ⟨_, hfirst, hothers⟩ := uncons h
      obtain ⟨_, hstarts, hrest⟩ := ih hothers (by simpa using hlen)
      exact ⟨_, hfirst.append hstarts, hrest⟩

/-- An empty list is built where nothing can be placed. -/
theorem blocked {start : Option Text} (h : Follows g expand placed [start] [[]] placed') :
    g.Blocked placed start := by
  cases h with
  | stop blocked _ => exact blocked

/-- A list that is not empty starts with the statement of the block at its start, and what follows
is built from the successor of that block. -/
theorem unfold_cons {start : Option Text} {s : Statement Unit} {rest : List (Statement Unit)}
    (h : Follows g expand placed [start] [s :: rest] placed'') :
    ∃ node nested placed', start = some node.id ∧ g.node? node.id = some node ∧
      node.id ∉ placed ∧ s = node.assemble nested ∧
      Follows g expand (node.id :: placed)
        ((node.sections expand).map (g.handleTarget? node.id)) nested placed' ∧
      Follows g expand placed' [g.successor? expand node] [rest] placed'' := by
  cases h with
  | @step _ placed' _ id node _ nested _ _ found free inner others =>
    obtain ⟨_, rfl⟩ := mem_nodes_of_node? found
    exact ⟨node, nested, placed', rfl, found, free, rfl, inner, others⟩

/-- The statement of a block comes before the statements built from its sections. -/
theorem walk_assemble {node : Node} {id : Text} {nested : List (List (Statement Unit))}
    (h : Follows g expand placed ((node.sections expand).map (g.handleTarget? id)) nested
      placed') :
    (node.assemble nested).walk = [node.assemble nested] ++ nested.flatMap Statement.walkAll := by
  rw [Statement.walk, node.nested_assemble expand (by simpa using h.length_eq)]
  rfl

/-- The statements of lists, first those of the first statement of the first list. -/
theorem flatMap_walkAll_cons (s : Statement Unit) (rest : List (Statement Unit))
    (bodies : List (List (Statement Unit))) :
    ((s :: rest) :: bodies).flatMap Statement.walkAll =
      s.walk ++ (rest :: bodies).flatMap Statement.walkAll := by
  simp [Statement.walkAll_cons]

/-- Whatever is followed is placed in depth-first order, each block once. -/
theorem places (h : Follows g expand placed starts bodies placed') :
    Places placed (bodies.flatMap Statement.walkAll) placed' := by
  induction h with
  | nil => exact .nil
  | stop _ _ ih => simpa [Statement.walkAll] using ih
  | @step _ _ _ _ node _ nested _ _ found free inner _ ihInner ihOthers =>
    obtain ⟨_, rfl⟩ := mem_nodes_of_node? found
    rw [flatMap_walkAll_cons, inner.walk_assemble]
    exact ((Places.single (node.id_assemble nested) free).append ihInner).append ihOthers

/-- The same for a single start. -/
theorem places_single {start : Option Text} {body : List (Statement Unit)}
    (h : Follows g expand placed [start] [body] placed') :
    Places placed (Statement.walkAll body) placed' := by
  simpa using h.places

/-- Every statement that is built comes from the block that is found under its id. -/
theorem found (h : Follows g expand placed starts bodies placed') :
    ∀ s ∈ bodies.flatMap Statement.walkAll,
      ∃ node, g.node? node.id = some node ∧ s.shell = node.statement := by
  induction h with
  | nil => simp
  | stop _ _ ih => simpa [Statement.walkAll] using ih
  | @step _ _ _ _ node _ _ _ _ found _ inner _ ihInner ihOthers =>
    obtain ⟨_, rfl⟩ := mem_nodes_of_node? found
    intro s hs
    rw [flatMap_walkAll_cons, inner.walk_assemble] at hs
    rcases List.mem_append.mp hs with hs | hs
    · rcases List.mem_append.mp hs with hs | hs
      · obtain rfl := List.mem_singleton.mp hs
        exact ⟨node, found, node.shell_assemble _⟩
      · exact ihInner s hs
    · exact ihOthers s hs

end Follows

/-! ## The bounded walk

A step places an id of the diagram that is still free, so the free ids bound the number of steps.
-/

/-- The ids of the diagram that are not placed. -/
def free (g : Diagram) (placed : List Text) : Finset Text :=
  (g.nodes.map (·.id)).toFinset \ placed.toFinset

/-- Placing more ids does not free any. -/
theorem card_free_le {placed placed' : List Text} (h : placed ⊆ placed') :
    (g.free placed').card ≤ (g.free placed).card := by
  apply Finset.card_le_card
  apply Finset.sdiff_subset_sdiff (Finset.Subset.refl _)
  intro id hid
  simp only [List.mem_toFinset] at hid ⊢
  exact h hid

/-- Placing a block leaves fewer free ids. -/
theorem card_free_cons_lt {placed : List Text} {id : Text} {node : Node}
    (found : g.node? id = some node) (free : id ∉ placed) :
    (g.free (id :: placed)).card < (g.free placed).card := by
  obtain ⟨hmem, rfl⟩ := mem_nodes_of_node? found
  apply Finset.card_lt_card
  -- The id itself is free before and not after.
  rw [Finset.ssubset_iff_of_subset]
  · refine ⟨node.id, ?_, ?_⟩
    · simp only [Diagram.free, Finset.mem_sdiff, List.mem_toFinset]
      exact ⟨List.mem_map_of_mem hmem, free⟩
    · simp [Diagram.free]
  · apply Finset.sdiff_subset_sdiff (Finset.Subset.refl _)
    simp

/-- There are never more free ids than the bound of a walk allows for. -/
theorem card_free_lt_fuel (g : Diagram) (placed : List Text) : (g.free placed).card < g.fuel := by
  have hsub : (g.free placed).card ≤ (g.nodes.map (·.id)).toFinset.card :=
    Finset.card_le_card Finset.sdiff_subset
  have hlen : (g.nodes.map (·.id)).toFinset.card ≤ g.nodes.length := by
    simpa using List.toFinset_card_le (g.nodes.map (·.id))
  unfold fuel
  omega

open Build

@[simp]
theorem placed_note (p : Progress) (events : List Event) : (p.note events).placed = p.placed :=
  rfl

@[simp]
theorem placed_place (p : Progress) (id : Text) : (p.place id).placed = id :: p.placed :=
  rfl

variable (g expand)

/-- If one start is followed as it should be, so is a list of starts. -/
theorem follows_walkEach {bound : Nat}
    {follow : Option Text → Progress → List (Statement Unit) × Progress}
    (hfollow : ∀ start p, (g.free p.placed).card < bound →
      Follows g expand p.placed [start] [(follow start p).1] (follow start p).2.placed)
    (starts : List (Option Text)) (p : Progress) (hp : (g.free p.placed).card < bound) :
    Follows g expand p.placed starts (walkEach follow starts p).1
      (walkEach follow starts p).2.placed := by
  induction starts generalizing p with
  | nil => exact .nil
  | cons start starts ih =>
    have hfirst := hfollow start p hp
    have hrest := ih (follow start p).2 (lt_of_le_of_lt (card_free_le hfirst.places.subset) hp)
    exact hfirst.append hrest

/-- A walk with more steps than there are free ids never runs out of steps. -/
theorem follows_walk (bound : Nat) (start : Option Text) (p : Progress)
    (hp : (g.free p.placed).card < bound) :
    Follows g expand p.placed [start] [(g.walk expand bound start p).1]
      (g.walk expand bound start p).2.placed := by
  induction bound generalizing start p with
  | zero => omega
  | succ bound ih =>
    cases start with
    | none => exact .stop (by simp [Blocked]) .nil
    | some id =>
      unfold walk
      split
      · -- no block has the id
        rename_i hmissing
        exact .stop (by simp [Blocked, hmissing]) .nil
      · rename_i node hfound
        split
        · -- the block is placed already
          rename_i hplaced
          exact .stop (by simp_all [Blocked]) .nil
        · rename_i hfree
          have hfree : id ∉ p.placed := by simpa using hfree
          -- Both the sections and the successor are walked with fewer free ids than before.
          have hlt := card_free_cons_lt hfound hfree
          let bodies := walkEach (g.walk expand bound)
            ((node.sections expand).map (g.handleTarget? id)) ((p.place id).note node.events)
          have hinner : Follows g expand (id :: p.placed)
              ((node.sections expand).map (g.handleTarget? id)) bodies.1 bodies.2.placed :=
            follows_walkEach g expand ih _ ((p.place id).note node.events) (by
              show (g.free (id :: p.placed)).card < bound
              omega)
          have hle := card_free_le (g := g) hinner.places.subset
          have hothers := ih (g.successor? expand node)
            (bodies.2.note (g.successorEvents expand node)) (by
              show (g.free bodies.2.placed).card < bound
              omega)
          exact .step hfound hfree hinner hothers

end Diagram

end BlockFlow
