import BlockFlow.Proofs.Diagram.Following
import Mathlib.Data.List.Chain

/-!
# Walks come to an end

The walks of a build carry a bound on the number of their steps. `walkStep` is one step of a walk
without a bound: whatever comes after the step is left to a function that follows it. A step uses
that function only where fewer ids are free (`walkStep_congr`), because it places a block first and
no walk ever takes a placed block back. Hence there is exactly one function that takes step after
step, a chain of walks that start each other is no longer than there are free ids, and a bound of as
many steps as there are ids in the diagram never shows in what is built.
-/

namespace BlockFlow

namespace Diagram

open Build

/-! ## Walks without a bound -/

/-- One step of a walk. The sections of the block that is placed, and the sequence after it, are
left to `follow`. -/
def walkStep (g : Diagram) (expand : Bool)
    (follow : Option Text → Progress → List (Statement Unit) × Progress) :
    Option Text → Progress → List (Statement Unit) × Progress
  | none, p => ([], p)
  | some id, p =>
    match g.node? id with
    | none => ([], p.note [.missing id])
    | some node =>
      if p.placed.contains id then ([], p.note [.alreadyPlaced id])
      else
        let bodies :=
          walkEach follow ((node.sections expand).map (g.handleTarget? id))
            ((p.place id).note node.events)
        let rest :=
          follow (g.successor? expand node) (bodies.2.note (g.successorEvents expand node))
        (node.assemble bodies.1 :: rest.1, rest.2)

/-- The walk of a build. -/
def follow (g : Diagram) (expand : Bool) :
    Option Text → Progress → List (Statement Unit) × Progress :=
  g.walk expand g.fuel

/-- The walks that a walk starts, each given by its start and by what is placed before it: one for
each section of the block that the walk places, in turn, and the one that goes on after the
block. -/
inductive Calls (g : Diagram) (expand : Bool) :
    Option Text × Progress → Option Text × Progress → Prop
  | nested {id : Text} {node : Node} {p : Progress} {before after : List (Option Text)}
      {start : Option Text} (found : g.node? id = some node) (free : id ∉ p.placed)
      (split : (node.sections expand).map (g.handleTarget? id) = before ++ start :: after) :
      Calls g expand (some id, p)
        (start, (walkEach (g.follow expand) before ((p.place id).note node.events)).2)
  | next {id : Text} {node : Node} {p : Progress} (found : g.node? id = some node)
      (free : id ∉ p.placed) :
      Calls g expand (some id, p)
        (g.successor? expand node,
          (walkEach (g.follow expand) ((node.sections expand).map (g.handleTarget? id))
            ((p.place id).note node.events)).2.note (g.successorEvents expand node))

/-! ## A step only looks at fewer free ids -/

variable {g : Diagram} {expand : Bool}
  {follow follow' : Option Text → Progress → List (Statement Unit) × Progress}

/-- With a step left, a walk takes it and leaves the rest to a walk with one step less. -/
theorem walk_succ (g : Diagram) (expand : Bool) (bound : Nat) (start : Option Text)
    (p : Progress) :
    g.walk expand (bound + 1) start p = g.walkStep expand (g.walk expand bound) start p := by
  cases start with
  | none => rfl
  | some id => rfl

/-- What is placed stays placed while a list of starts is followed. -/
theorem placed_subset_walkEach (hgrow : ∀ start p, p.placed ⊆ (follow start p).2.placed)
    (starts : List (Option Text)) (p : Progress) :
    p.placed ⊆ (walkEach follow starts p).2.placed := by
  induction starts generalizing p with
  | nil => exact List.Subset.refl _
  | cons start starts ih => exact List.Subset.trans (hgrow start p) (ih (follow start p).2)

/-- What is placed stays placed during a step. -/
theorem placed_subset_walkStep (hgrow : ∀ start p, p.placed ⊆ (follow start p).2.placed)
    (start : Option Text) (p : Progress) :
    p.placed ⊆ (g.walkStep expand follow start p).2.placed := by
  cases start with
  | none => exact List.Subset.refl _
  | some id =>
    rw [walkStep]
    -- A step places a block only if one is found that is not placed yet.
    split
    · exact List.Subset.refl _
    · rename_i node hfound
      split
      · exact List.Subset.refl _
      · have hplace : p.placed ⊆ ((p.place id).note node.events).placed :=
          List.subset_cons_self id p.placed
        have hbodies := placed_subset_walkEach hgrow
          ((node.sections expand).map (g.handleTarget? id)) ((p.place id).note node.events)
        exact List.Subset.trans (List.Subset.trans hplace hbodies)
          (hgrow (g.successor? expand node) (Progress.note _ (g.successorEvents expand node)))

/-- What is placed stays placed during a walk, also when it runs out of steps. -/
theorem placed_subset_walk (g : Diagram) (expand : Bool) (bound : Nat) (start : Option Text)
    (p : Progress) : p.placed ⊆ (g.walk expand bound start p).2.placed := by
  induction bound generalizing start p with
  | zero => exact List.Subset.refl _
  | succ bound ih =>
    rw [walk_succ]
    exact placed_subset_walkStep ih start p

/-- Two ways to follow that agree where few ids are free agree on a list of starts. -/
theorem walkEach_congr {bound : Nat} (hgrow : ∀ start p, p.placed ⊆ (follow start p).2.placed)
    (heq : ∀ start p, (g.free p.placed).card < bound → follow start p = follow' start p)
    (starts : List (Option Text)) (p : Progress) (hp : (g.free p.placed).card < bound) :
    walkEach follow starts p = walkEach follow' starts p := by
  induction starts generalizing p with
  | nil => rfl
  | cons start starts ih =>
    have hrest : (g.free (follow start p).2.placed).card < bound :=
      lt_of_le_of_lt (card_free_le (hgrow start p)) hp
    simp only [walkEach, ← heq start p hp, ih (follow start p).2 hrest]

/-- A step depends on what follows it only where fewer ids are free. -/
theorem walkStep_congr {p : Progress} (hgrow : ∀ start p, p.placed ⊆ (follow start p).2.placed)
    (heq : ∀ start q, (g.free q.placed).card < (g.free p.placed).card →
      follow start q = follow' start q) (start : Option Text) :
    g.walkStep expand follow start p = g.walkStep expand follow' start p := by
  cases start with
  | none => rfl
  | some id =>
    rw [walkStep, walkStep]
    -- What follows matters only if a block is found that is not placed yet.
    split
    · rfl
    · rename_i node hfound
      split
      · rfl
      · rename_i hfree
        have hlt : (g.free ((p.place id).note node.events).placed).card
            < (g.free p.placed).card :=
          card_free_cons_lt hfound (by simpa using hfree)
        have hbodies := walkEach_congr hgrow heq
          ((node.sections expand).map (g.handleTarget? id)) _ hlt
        have hgrown := placed_subset_walkEach hgrow
          ((node.sections expand).map (g.handleTarget? id)) ((p.place id).note node.events)
        rw [← hbodies]
        simp only [heq _ (Progress.note _ _) (lt_of_le_of_lt (card_free_le hgrown) hlt)]

/-- With more steps than there are free ids one step more makes no difference. -/
theorem walk_eq_walk_succ (g : Diagram) (expand : Bool) {bound : Nat} (start : Option Text)
    (p : Progress) (hp : (g.free p.placed).card < bound) :
    g.walk expand bound start p = g.walk expand (bound + 1) start p := by
  induction bound generalizing start p with
  | zero => omega
  | succ bound ih =>
    rw [walk_succ, walk_succ]
    apply walkStep_congr (placed_subset_walk g expand bound)
    intro start q hq
    exact ih start q (by omega)

/-- Any two bounds that exceed the number of free ids are as good as each other. -/
theorem walk_eq_walk (g : Diagram) (expand : Bool) {bound bound' : Nat} (start : Option Text)
    (p : Progress) (hp : (g.free p.placed).card < bound) (hle : bound ≤ bound') :
    g.walk expand bound start p = g.walk expand bound' start p := by
  induction bound', hle using Nat.le_induction with
  | base => rfl
  | succ bound' hle ih => rw [ih, walk_eq_walk_succ g expand start p (by omega)]

/-- The walk of a build takes step after step, as if it had no bound. -/
theorem follow_eq_walkStep (g : Diagram) (expand : Bool) (start : Option Text) (p : Progress) :
    g.follow expand start p = g.walkStep expand (g.follow expand) start p := by
  unfold Diagram.follow
  rw [walk_eq_walk_succ g expand start p (g.card_free_lt_fuel p.placed), walk_succ]

/-- Nothing else takes step after step. -/
theorem eq_follow (hfollow : ∀ start p, follow start p = g.walkStep expand follow start p)
    (start : Option Text) (p : Progress) : follow start p = g.follow expand start p := by
  induction hn : (g.free p.placed).card using Nat.strong_induction_on generalizing start p with
  | _ n ih =>
    rw [hfollow, follow_eq_walkStep]
    symm
    apply walkStep_congr (placed_subset_walk g expand g.fuel)
    intro start q hq
    exact (ih _ (hn ▸ hq) start q rfl).symm

/-! ## Chains of walks -/

/-- A walk that is started by another finds fewer free ids. -/
theorem Calls.card_free_lt {s t : Option Text × Progress} (h : Calls g expand s t) :
    (g.free t.2.placed).card < (g.free s.2.placed).card := by
  have hgrown := placed_subset_walkEach (placed_subset_walk g expand g.fuel)
  cases h with
  | nested found free _ =>
    exact lt_of_le_of_lt (card_free_le (hgrown _ _)) (card_free_cons_lt found free)
  | next found free =>
    exact lt_of_le_of_lt (card_free_le (hgrown _ _)) (card_free_cons_lt found free)

/-- Walks that start each other are at most as many as there are free ids. -/
theorem length_le_of_isChain_calls {s : Option Text × Progress}
    {calls : List (Option Text × Progress)} (h : List.IsChain (Calls g expand) (s :: calls)) :
    calls.length ≤ (g.free s.2.placed).card := by
  induction calls generalizing s with
  | nil => exact Nat.zero_le _
  | cons t calls ih =>
    rw [List.isChain_cons_cons] at h
    have hlt := h.1.card_free_lt
    have hlen := ih h.2
    simp only [List.length_cons]
    omega

/-! ## Builds with another bound -/

/-- A definition of a kind that is not placed yet. -/
def Awaited (kind : Kind) (p : Progress) (node : Node) : Prop :=
  node.kind = kind ∧ node.id ∉ p.placed

instance (kind : Kind) (p : Progress) (node : Node) : Decidable (Awaited kind p node) :=
  inferInstanceAs (Decidable (_ ∧ _))

/-- A pass over definitions whose sequences are followed in a given way. -/
def definitionsBy (g : Diagram)
    (follow : Option Text → Progress → List (Statement Unit) × Progress) (kind : Kind)
    (handle : Text) : List Node → Progress → List (Statement Unit) × Progress
  | [], p => ([], p)
  | node :: rest, p =>
    if Awaited kind p node then
      let body := follow (g.handleTarget? node.id handle) (p.place node.id)
      let others := definitionsBy g follow kind handle rest body.2
      (node.assemble [body.1] :: others.1, others.2)
    else definitionsBy g follow kind handle rest p

/-- A main body that is followed in a given way. -/
def bodyBy (g : Diagram) (follow : Option Text → Progress → List (Statement Unit) × Progress)
    (p : Progress) : List (Statement Unit) × Progress :=
  match g.entry? with
  | none => ([], p.note [.noEntry])
  | some entry =>
    follow (g.firstTarget? entry.id) ((p.place entry.id).note (g.choiceEvents entry.id))

/-- A build whose sequences are followed in a given way. -/
def buildBy (g : Diagram) (follow : Option Text → Progress → List (Statement Unit) × Progress) :
    Program Unit × Progress :=
  let classes := g.definitionsBy follow .classDefine "members" g.nodes .start
  let functions := g.definitionsBy follow .functionDefine "body" g.nodes classes.2
  let body := g.bodyBy follow functions.2
  (⟨classes.1, functions.1, body.1⟩, body.2)

/-- The different ids of the blocks of a diagram. -/
def ids (g : Diagram) : Finset Text :=
  (g.nodes.map (·.id)).toFinset

/-- Once a block is placed, fewer ids are free than the diagram has. -/
theorem card_free_lt_card_ids {node : Node} {placed : List Text} (hnode : node ∈ g.nodes)
    (hplaced : node.id ∈ placed) : (g.free placed).card < g.ids.card := by
  apply Finset.card_lt_card
  have hsub : g.free placed ⊆ g.ids := Finset.sdiff_subset
  rw [Finset.ssubset_iff_of_subset hsub]
  refine ⟨node.id, ?_, ?_⟩
  · exact List.mem_toFinset.mpr (List.mem_map_of_mem hnode)
  · simp [Diagram.free, hplaced]

/-- A pass over definitions follows a sequence only after a block is placed. -/
theorem definitionsBy_congr {kind : Kind} {handle : Text}
    (heq : ∀ start p, (g.free p.placed).card < g.ids.card → follow start p = follow' start p)
    {nodes : List Node} (hnodes : nodes ⊆ g.nodes) (p : Progress) :
    g.definitionsBy follow kind handle nodes p = g.definitionsBy follow' kind handle nodes p := by
  induction nodes generalizing p with
  | nil => rfl
  | cons node nodes ih =>
    have hnode : node ∈ g.nodes := hnodes List.mem_cons_self
    have hrest : nodes ⊆ g.nodes := List.Subset.trans (List.subset_cons_self node nodes) hnodes
    have hbody := heq (g.handleTarget? node.id handle) (p.place node.id)
      (card_free_lt_card_ids hnode List.mem_cons_self)
    simp only [definitionsBy, hbody, ih hrest]

/-- The main body starts at a block of the diagram. -/
theorem mem_nodes_of_entry {entry : Node} (h : g.entry? = some entry) : entry ∈ g.nodes := by
  rcases Option.or_eq_some_iff.mp h with h | ⟨_, h⟩
  · exact List.mem_of_find?_eq_some h
  · exact List.mem_of_find?_eq_some h

/-- Every walk of a build starts after a block is placed. -/
theorem buildBy_congr
    (heq : ∀ start p, (g.free p.placed).card < g.ids.card → follow start p = follow' start p) :
    g.buildBy follow = g.buildBy follow' := by
  have hbody : ∀ p, g.bodyBy follow p = g.bodyBy follow' p := by
    intro p
    unfold bodyBy
    split
    · rfl
    · rename_i entry hentry
      exact heq _ _ (card_free_lt_card_ids (mem_nodes_of_entry hentry) List.mem_cons_self)
  unfold buildBy
  simp only [definitionsBy_congr heq (List.Subset.refl _), hbody]

/-- The passes over definitions of a build follow the walk of the build. -/
theorem definitionsBy_follow (g : Diagram) (expand : Bool) (kind : Kind) (handle : Text)
    (nodes : List Node) (p : Progress) :
    g.definitionsBy (g.follow expand) kind handle nodes p =
      g.placeDefinitions expand kind handle nodes p := by
  induction nodes generalizing p with
  | nil => rfl
  | cons node nodes ih =>
    simp only [definitionsBy, placeDefinitions, ih]
    rfl

/-- So does the whole build. -/
theorem buildBy_follow (g : Diagram) (expand : Bool) :
    g.buildBy (g.follow expand) = g.buildWithProgress expand := by
  unfold buildBy buildWithProgress
  simp only [definitionsBy_follow]
  rfl

/-- A build with a bound of as many steps as the diagram has different ids, or more, gives the same
program and notices the same. -/
theorem buildBy_walk {bound : Nat} (hbound : g.ids.card ≤ bound) :
    g.buildBy (g.walk expand bound) = g.buildWithProgress expand := by
  rw [← buildBy_follow]
  apply buildBy_congr
  intro start p hp
  -- Either bound exceeds the number of free ids, so the larger one makes no difference.
  rcases Nat.le_total bound g.fuel with hle | hle
  · exact walk_eq_walk g expand start p (by omega) hle
  · exact (walk_eq_walk g expand start p (g.card_free_lt_fuel p.placed) hle).symm

/-- What it means that building ends. -/
structure Terminates (g : Diagram) (expand : Bool) : Prop where
  /-- Exactly one function takes step after step without a bound, and the build follows it. -/
  unbounded : ∃! follow : Option Text → Progress → List (Statement Unit) × Progress,
    ∀ start p, follow start p = g.walkStep expand follow start p
  /-- A program that is built without a bound is the program that is built. -/
  built : ∀ follow, (∀ start p, follow start p = g.walkStep expand follow start p) →
    g.buildBy follow = g.buildWithProgress expand
  /-- Every walk that a walk starts, nested in a block or after it, finds fewer free ids. -/
  decreases : ∀ s t, Calls g expand s t → (g.free t.2.placed).card < (g.free s.2.placed).card
  /-- Walks that start each other are at most as many as there are free ids. -/
  depth : ∀ s calls, List.IsChain (Calls g expand) (s :: calls) →
    calls.length ≤ (g.free s.2.placed).card
  /-- A bound of as many steps as the diagram has different ids, or more, does not show. -/
  bounded : ∀ bound, g.ids.card ≤ bound →
    g.buildBy (g.walk expand bound) = g.buildWithProgress expand

/-- Building ends on every diagram: each step leaves fewer free ids to the walks after it, so there
is no need for a bound, and none from the number of different ids on changes what is built. -/
theorem build_terminates (g : Diagram) (expand : Bool) : Terminates g expand := by
  refine ⟨⟨g.follow expand, follow_eq_walkStep g expand, ?_⟩, ?_, ?_, ?_, ?_⟩
  · intro follow hfollow
    funext start p
    exact eq_follow hfollow start p
  · intro follow hfollow
    rw [← buildBy_follow]
    exact buildBy_congr fun start p _ => eq_follow hfollow start p
  · intro s t h
    exact h.card_free_lt
  · intro s calls h
    exact length_le_of_isChain_calls h
  · intro bound hbound
    exact buildBy_walk hbound

end Diagram

end BlockFlow
