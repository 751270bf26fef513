import BlockFlow.Proofs.Diagram.Placement

/-!
# The structure of built programs

The arrows of a diagram designate where each list of a program starts and where it goes on after
each of its statements. A `Slot` is such a point of a program, with all statements that come before
it in depth-first order. `Structured` says that a program has at every slot the statement of the
block that is designated there, unless there is no such block or it came before. Every built program
is of this form.

Targets are described here by the form of a statement and by the list of arrows alone, not by the
tables that drive the build.
-/

namespace BlockFlow

namespace Diagram

/-! ## Designated targets -/

/-- The target of the first arrow that leaves a block by one of the selected handles. -/
def arrow? (g : Diagram) (id : Option Text) (select : Json → Bool) : Option Text :=
  (g.edges.find? fun e => some e.source = id && select e.sourceHandle).map (·.target)

/-- The target of the first arrow that leaves a block by a handle. -/
def arrowBy? (g : Diagram) (id : Option Text) (handle : Text) : Option Text :=
  g.arrow? id fun j => j = .str handle

/-- The target by the handle `next`, or else of the first arrow that does not leave by a handle. -/
def arrowPast? (g : Diagram) (id : Option Text) (handle : Text) : Option Text :=
  (g.arrowBy? id "next").or (g.arrow? id fun j => j ≠ .str handle)

/-- The lists nested in a statement of a sequence, in depth-first order, each with the target where
it starts. A definition inside a sequence has a list of its own only with `expand`. -/
def starts (g : Diagram) (expand : Bool) :
    Statement Unit → List (Option Text × List (Statement Unit))
  | .ifElse _ body orElse id => [(g.arrowBy? id "true", body), (g.arrowBy? id "false", orElse)]
  | .switch _ cases otherwise id =>
    cases.mapIdx (fun i case => (g.arrowBy? id ("case-" ++ toString i), case.2))
      ++ [(g.arrowBy? id "default", otherwise)]
  | .forRange _ _ body id => [(g.arrowBy? id "loopBody", body)]
  | .whileLoop _ body id => [(g.arrowBy? id "loopBody", body)]
  | .function _ _ body id => [(if expand then g.arrowBy? id "body" else none, body)]
  | .classDef _ _ members id => [(if expand then g.arrowBy? id "members" else none, members)]
  | _ => []

/-- The target where a sequence goes on after a statement. -/
def goesOn? (g : Diagram) (expand : Bool) : Statement Unit → Option Text
  | .ifElse _ _ _ id => g.arrowBy? id "next"
  | .switch _ _ _ id => g.arrowBy? id "next"
  | .forRange _ _ _ id => g.arrowPast? id "loopBody"
  | .whileLoop _ _ id => g.arrowPast? id "loopBody"
  | .function _ _ _ id =>
    if expand then g.arrowPast? id "body" else g.arrow? id fun _ => true
  | .classDef _ _ _ id =>
    if expand then g.arrowPast? id "members" else g.arrow? id fun _ => true
  | s => g.arrow? s.id fun _ => true

/-! ## Slots -/

/-- The points of a program where a list starts or goes on: the id that is kept back there, the
statements before the point in depth-first order, the designated target, and the rest of the list
from the point on. Only the main body keeps an id back, that of the block where it starts. -/
inductive Slot (g : Diagram) (expand : Bool) (p : Program Unit) :
    Option Text → List (Statement Unit) → Option Text → List (Statement Unit) → Prop
  /-- The members of a class start. -/
  | members {before after members : List (Statement Unit)} {name base id : Text}
      (h : p.classes = before ++ .classDef name base members (some id) :: after) :
      Slot g expand p none
        (Statement.walkAll before ++ [.classDef name base members (some id)])
        (g.arrowBy? (some id) "members") members
  /-- The body of a function starts. -/
  | body {before after body : List (Statement Unit)} {name id : Text} {params : List Param}
      (h : p.functions = before ++ .function name params body (some id) :: after) :
      Slot g expand p none
        (Statement.walkAll (p.classes ++ before) ++ [.function name params body (some id)])
        (g.arrowBy? (some id) "body") body
  /-- The main body starts. -/
  | main {entry : Node} (h : g.entry? = some entry) :
      Slot g expand p (some entry.id) (Statement.walkAll (p.classes ++ p.functions))
        (g.arrow? (some entry.id) fun _ => true) p.body
  /-- A list nested in a statement of a sequence starts. -/
  | nested {kept target start : Option Text} {earlier body rest : List (Statement Unit)}
      {s : Statement Unit} {before after : List (Option Text × List (Statement Unit))}
      (h : Slot g expand p kept earlier target (s :: rest))
      (hs : g.starts expand s = before ++ (start, body) :: after) :
      Slot g expand p kept
        (earlier ++ s :: before.flatMap fun list => Statement.walkAll list.2) start body
  /-- A sequence goes on after a statement. -/
  | next {kept target : Option Text} {earlier rest : List (Statement Unit)} {s : Statement Unit}
      (h : Slot g expand p kept earlier target (s :: rest)) :
      Slot g expand p kept (earlier ++ s.walk) (g.goesOn? expand s) rest

/-- An id that cannot be placed any more: it is kept back or an earlier statement carries it. -/
def Taken (kept : Option Text) (earlier : List (Statement Unit)) (id : Text) : Prop :=
  id ∈ kept ∨ ∃ s ∈ earlier, s.id = some id

/-- What stands at a slot. It is the statement of the block that the target finds, with all cases
that the block declares; nothing stands there only if there is no target, the target finds no block,
or it is taken. -/
def Continues (g : Diagram) (kept : Option Text) (earlier : List (Statement Unit))
    (target : Option Text) : List (Statement Unit) → Prop
  | [] => ∀ id ∈ target, g.node? id = none ∨ Taken kept earlier id
  | s :: _ => ∃ node, target = some node.id ∧ g.node? node.id = some node ∧
      ¬ Taken kept earlier node.id ∧ s.shell = node.statement ∧
      (node.kind = .switch → s.caseValues = node.caseValues)

/-- A program whose lists are the ones that the arrows of a diagram designate. -/
structure Structured (g : Diagram) (expand : Bool) (p : Program Unit) : Prop where
  /-- Top-level classes are classes that come from a block. -/
  classes : ∀ s ∈ p.classes, ∃ name base members id, s = .classDef name base members (some id)
  /-- Top-level functions are functions that come from a block. -/
  functions : ∀ s ∈ p.functions, ∃ name params body id, s = .function name params body (some id)
  /-- Without a block to start at there is no main body. -/
  noEntry : g.entry? = none → p.body = []
  /-- All other statements stand at a slot. -/
  covered : ∀ s ∈ p.walk, s ∈ p.classes ∨ s ∈ p.functions ∨
    ∃ kept earlier target rest, Slot g expand p kept earlier target (s :: rest)
  /-- A slot comes after its earlier statements and before all others in depth-first order. -/
  ordered : ∀ kept earlier target rest, Slot g expand p kept earlier target rest →
    ∃ later, p.walk = earlier ++ Statement.walkAll rest ++ later
  /-- At every slot stands what its target designates. -/
  continues : ∀ kept earlier target rest, Slot g expand p kept earlier target rest →
    Continues g kept earlier target rest

/-! ## Targets of blocks -/

variable {g : Diagram} {expand : Bool}

/-- The target by a handle is read from the list of arrows. -/
theorem handleTarget?_eq (g : Diagram) (id handle : Text) :
    g.handleTarget? id handle = g.arrowBy? (some id) handle := by
  simp [handleTarget?, outgoing, arrowBy?, arrow?, Edge.leavesBy, List.find?_filter]

/-- So is the target by any other handle. -/
theorem otherTarget?_eq (g : Diagram) (id handle : Text) :
    g.otherTarget? id handle = g.arrow? (some id) fun j => j ≠ .str handle := by
  simp [otherTarget?, outgoing, arrow?, Edge.leavesBy, List.find?_filter]

/-- And the target of the first arrow, whatever its handle. -/
theorem firstTarget?_eq (g : Diagram) (id : Text) :
    g.firstTarget? id = g.arrow? (some id) fun _ => true := by
  simp [firstTarget?, outgoing, arrow?, Bool.beq_eq_decide_eq]

/-- After the statement of a block a sequence goes on at the successor of the block. -/
theorem goesOn?_assemble (g : Diagram) (expand : Bool) (node : Node)
    (bodies : List (List (Statement Unit))) :
    g.goesOn? expand (node.assemble bodies) = g.successor? expand node := by
  unfold Node.assemble Node.statement successor?
  cases node.kind <;> cases expand <;>
    simp [goesOn?, arrowPast?, handleTarget?_eq, otherTarget?_eq, firstTarget?_eq, Statement.id]

/-- The cases of the statement of a switch block are the declared ones. -/
theorem caseValues_assemble {node : Node} {bodies : List (List (Statement Unit))}
    (hkind : node.kind = .switch) (h : bodies.length = (node.sections expand).length) :
    (node.assemble bodies).caseValues = node.caseValues := by
  have hlen : node.caseValues.length ≤ bodies.length := by
    rw [h]
    simp [Node.sections, hkind]
  unfold Node.assemble Node.statement
  simp only [hkind, Statement.caseValues]
  exact List.map_fst_zip hlen

/-- A switch has a start for each of its cases and one for its default. -/
theorem map_fst_starts_switch (g : Diagram) (expand : Bool) (subject : Text)
    (cases : List (Text × List (Statement Unit))) (otherwise : List (Statement Unit))
    (id : Option Text) :
    (g.starts expand (.switch subject cases otherwise id)).map (·.1) =
      (List.range cases.length).map (fun i => g.arrowBy? id ("case-" ++ toString i))
        ++ [g.arrowBy? id "default"] := by
  simp only [starts, List.map_append, List.map_cons, List.map_nil]
  congr 1
  apply List.ext_getElem <;> simp

/-- The lists of a switch are those of its cases and the default one. -/
theorem map_snd_starts_switch (g : Diagram) (expand : Bool) (subject : Text)
    (cases : List (Text × List (Statement Unit))) (otherwise : List (Statement Unit))
    (id : Option Text) :
    (g.starts expand (.switch subject cases otherwise id)).map (·.2) =
      cases.map (·.2) ++ [otherwise] := by
  simp only [starts, List.map_append, List.map_cons, List.map_nil]
  congr 1
  apply List.ext_getElem <;> simp

/-- The lists nested in a statement hold all statements nested in it. -/
theorem nested_eq_starts (g : Diagram) (expand : Bool) (s : Statement Unit) :
    Statement.nested s = ((g.starts expand s).map (·.2)).flatMap Statement.walkAll := by
  cases s with
  | switch subject cases otherwise id =>
    rw [map_snd_starts_switch, Statement.nested, Statement.walkCases_eq_flatMap]
    simp [List.flatMap_map]
  | _ => simp [Statement.nested, starts]

/-- The lists nested in the statement of a block are followed from their designated targets. -/
theorem Follows.starts {node : Node} {placed placed' : List Text}
    {bodies : List (List (Statement Unit))}
    (h : Follows g expand placed ((node.sections expand).map (g.handleTarget? node.id)) bodies
      placed') :
    Follows g expand placed ((g.starts expand (node.assemble bodies)).map (·.1))
      ((g.starts expand (node.assemble bodies)).map (·.2)) placed' := by
  have hlen := h.length_eq
  unfold Node.sections at h hlen
  unfold Node.assemble Node.statement
  cases hk : node.kind <;> simp only [hk] at h hlen ⊢
  case ifElse =>
    obtain ⟨body, orElse, rfl⟩ := List.length_eq_two.1 hlen
    simpa [Diagram.starts, handleTarget?_eq] using h
  case switch =>
    have hlen : bodies.length = node.caseValues.length + 1 := by simpa using hlen
    rw [map_fst_starts_switch, map_snd_starts_switch, Statement.map_snd_zip_eq_take,
      Node.take_append_getD hlen]
    have hcases : (node.caseValues.zip bodies).length = node.caseValues.length := by
      simp [hlen]
    rw [hcases]
    simpa [handleTarget?_eq, Node.caseHandle_natCast, Function.comp_def] using h
  case forRange | whileLoop =>
    obtain ⟨body, rfl⟩ := List.length_eq_one_iff.1 hlen
    simpa [Diagram.starts, handleTarget?_eq] using h
  case functionDefine | classDefine =>
    -- Without `expand` nothing is followed, as from a target that is missing.
    cases expand
    · obtain rfl := List.length_eq_zero_iff.1 hlen
      cases h
      exact .stop (by simp [Blocked]) .nil
    · obtain ⟨body, rfl⟩ := List.length_eq_one_iff.1 hlen
      simpa [Diagram.starts, handleTarget?_eq] using h
  all_goals
    obtain rfl := List.length_eq_zero_iff.1 hlen
    simpa [Diagram.starts] using h

/-! ## Slots in depth-first order -/

namespace Slot

variable {p : Program Unit} {kept target : Option Text} {earlier rest : List (Statement Unit)}

/-- The statements before a slot, those from it on in its list, and all others. -/
theorem walk_eq (h : Slot g expand p kept earlier target rest) :
    ∃ later, p.walk = earlier ++ Statement.walkAll rest ++ later := by
  induction h with
  | @members before after members name base id h =>
    refine ⟨Statement.walkAll after ++ Statement.walkAll (p.functions ++ p.body), ?_⟩
    simp [Program.walk, h, Statement.walkAll_cons, Statement.walk, Statement.nested]
  | @body before after body name id params h =>
    refine ⟨Statement.walkAll after ++ Statement.walkAll p.body, ?_⟩
    simp [Program.walk, h, Statement.walkAll_cons, Statement.walk, Statement.nested]
  | main h => exact ⟨[], by simp [Program.walk]⟩
  | @nested _ _ _ _ body rest s before after _ hs ih =>
    obtain ⟨later, hlater⟩ := ih
    refine ⟨(after.flatMap fun list => Statement.walkAll list.2)
      ++ Statement.walkAll rest ++ later, ?_⟩
    rw [hlater, Statement.walkAll_cons, Statement.walk, nested_eq_starts g expand s, hs]
    simp [List.flatMap_map]
  | @next _ _ _ rest s _ ih =>
    obtain ⟨later, hlater⟩ := ih
    exact ⟨later, by simp [hlater, Statement.walkAll_cons]⟩

/-- All statements of a list that starts or goes on at a slot stand at slots themselves. -/
theorem exists_of_mem (h : Slot g expand p kept earlier target rest) {s : Statement Unit}
    (hs : s ∈ Statement.walkAll rest) :
    ∃ kept earlier target rest, Slot g expand p kept earlier target (s :: rest) := by
  -- Both the lists nested in the first statement and the rest of the list are shorter.
  induction hn : (Statement.walkAll rest).length using Nat.strong_induction_on
    generalizing kept earlier target rest with
  | _ n ih =>
    cases rest with
    | nil => simp [Statement.walkAll] at hs
    | cons first rest =>
      rw [Statement.walkAll_cons, Statement.walk, nested_eq_starts g expand first] at hs hn
      simp only [List.length_append, List.length_cons] at hn
      -- The statement is the first one, nested in it, or further on in the list.
      rcases List.mem_append.mp hs with hs | hs
      · rcases List.mem_cons.mp hs with rfl | hs
        · exact ⟨_, _, _, _, h⟩
        · obtain ⟨_, hbody, hs⟩ := List.mem_flatMap.mp hs
          obtain ⟨⟨start, body⟩, hstart, rfl⟩ := List.mem_map.mp hbody
          obtain ⟨before, after, hsplit⟩ := List.append_of_mem hstart
          have hlt : (Statement.walkAll body).length < n := by
            simp only [hsplit, List.map_append, List.map_cons, List.flatMap_append,
              List.flatMap_cons, List.length_append] at hn
            omega
          exact ih _ hlt (h.nested hsplit) hs rfl
      · exact ih _ (by omega) h.next hs rfl

/-- The ids that are taken once further statements are placed. -/
theorem taken_append {kept : Option Text} {earlier ss : List (Statement Unit)}
    {placed placed' : List Text} (hplaced : ∀ id, id ∈ placed ↔ Taken kept earlier id)
    (h : Places placed ss placed') (id : Text) : id ∈ placed' ↔ Taken kept (earlier ++ ss) id := by
  rw [h.mem_iff, hplaced]
  simp only [Taken, List.mem_append]
  constructor
  · rintro (⟨s, hs, hid⟩ | hkept | ⟨s, hs, hid⟩)
    · exact Or.inr ⟨s, Or.inr hs, hid⟩
    · exact Or.inl hkept
    · exact Or.inr ⟨s, Or.inl hs, hid⟩
  · rintro (hkept | ⟨s, hs | hs, hid⟩)
    · exact Or.inr (Or.inl hkept)
    · exact Or.inr (Or.inr ⟨s, hs, hid⟩)
    · exact Or.inl ⟨s, hs, hid⟩

/-- Where nothing is kept back, what is placed is taken. -/
theorem taken_of_places {ss : List (Statement Unit)} {placed : List Text}
    (h : Places [] ss placed) (id : Text) : id ∈ placed ↔ Taken none ss id := by
  rw [h.mem_iff]
  simp [Taken]

variable {afterClasses afterFunctions : List Text}

/-- What stands at a slot is followed from its target when exactly the earlier statements are
placed. -/
theorem follows (hb : Built g expand p afterClasses afterFunctions)
    (h : Slot g expand p kept earlier target rest) :
    ∃ placed placed', Follows g expand placed [target] [rest] placed' ∧
      ∀ id, id ∈ placed ↔ Taken kept earlier id := by
  induction h with
  | @members before after members name base id h =>
    obtain ⟨node, body, placed, placed', hkind, hfree, hs, hbefore, hfollows⟩ :=
      Defines.split (Or.inl rfl) (h ▸ hb.classes)
    have hplaces := hbefore.append (Places.single (node.id_assemble [body]) hfree)
    rw [← hs] at hplaces
    rw [Node.assemble_classDefine hkind] at hs
    obtain ⟨_, _, rfl, rfl⟩ : _ ∧ _ ∧ members = body ∧ id = node.id := by simpa using hs
    exact ⟨_, placed', handleTarget?_eq g node.id "members" ▸ hfollows, taken_of_places hplaces⟩
  | @body before after body name id params h =>
    obtain ⟨node, body', placed, placed', hkind, hfree, hs, hbefore, hfollows⟩ :=
      Defines.split (Or.inr rfl) (h ▸ hb.functions)
    have hplaces := ((hb.classes.places (Or.inl rfl)).append hbefore).append
      (Places.single (node.id_assemble [body']) hfree)
    rw [← hs, ← Statement.walkAll_append] at hplaces
    rw [Node.assemble_functionDefine hkind] at hs
    obtain ⟨_, _, rfl, rfl⟩ : _ ∧ _ ∧ body = body' ∧ id = node.id := by simpa using hs
    exact ⟨_, placed', handleTarget?_eq g node.id "body" ▸ hfollows, taken_of_places hplaces⟩
  | @main entry h =>
    obtain ⟨placed', hfollows⟩ := hb.body entry h
    refine ⟨_, placed', firstTarget?_eq g entry.id ▸ hfollows, ?_⟩
    intro id
    rw [List.mem_cons, taken_of_places hb.places, ← Statement.walkAll_append]
    simp [Taken, eq_comm]
  | @nested kept target start earlier body rest s before after _ hs ih =>
    obtain ⟨placed, placed', hfollows, hplaced⟩ := ih
    -- The block at the slot follows its own lists in turn, up to the one in question.
    obtain ⟨node, bodies, _, rfl, _, hfree, rfl, hinner, _⟩ := hfollows.unfold_cons
    have hstarts := hinner.starts
    rw [hs, List.map_append, List.map_append] at hstarts
    obtain ⟨q, hbefore, hrest⟩ := hstarts.split (by simp)
    obtain ⟨q', hbody, _⟩ := hrest.uncons
    refine ⟨q, q', hbody, ?_⟩
    have hplaces := (Places.single (node.id_assemble bodies) hfree).append hbefore.places
    rw [List.flatMap_map] at hplaces
    exact taken_append hplaced hplaces
  | @next kept target earlier rest s _ ih =>
    obtain ⟨placed, placed', hfollows, hplaced⟩ := ih
    -- Here all of its lists are placed before the sequence goes on.
    obtain ⟨node, bodies, q, rfl, _, hfree, rfl, hinner, hnext⟩ := hfollows.unfold_cons
    refine ⟨q, placed', goesOn?_assemble g expand node bodies ▸ hnext, ?_⟩
    have hplaces := (Places.single (node.id_assemble bodies) hfree).append hinner.places
    rw [← hinner.walk_assemble] at hplaces
    exact taken_append hplaced hplaces

/-- At a slot of a built program stands what its target designates. -/
theorem continues (hb : Built g expand p afterClasses afterFunctions)
    (h : Slot g expand p kept earlier target rest) : Continues g kept earlier target rest := by
  obtain ⟨placed, placed', hfollows, hplaced⟩ := h.follows hb
  cases rest with
  | nil =>
    intro id hid
    exact (hfollows.blocked id hid).imp_right (hplaced id).mp
  | cons s rest =>
    obtain ⟨node, bodies, _, rfl, hfound, hfree, rfl, hinner, _⟩ := hfollows.unfold_cons
    refine ⟨node, rfl, hfound, fun htaken => hfree ((hplaced node.id).mpr htaken),
      node.shell_assemble bodies, ?_⟩
    intro hkind
    exact caseValues_assemble hkind (by simpa using hinner.length_eq)

end Slot

namespace Built

variable {p : Program Unit} {afterClasses afterFunctions : List Text}

/-- A top-level class is a class with the id of a block. -/
theorem eq_classDef (h : Built g expand p afterClasses afterFunctions) {s : Statement Unit}
    (hs : s ∈ p.classes) : ∃ name base members id, s = .classDef name base members (some id) := by
  obtain ⟨before, after, hsplit⟩ := List.append_of_mem hs
  obtain ⟨node, body, _, _, hkind, _, hs, _⟩ := Defines.split (Or.inl rfl) (hsplit ▸ h.classes)
  exact ⟨_, _, _, _, hs.trans (Node.assemble_classDefine hkind body)⟩

/-- A top-level function is a function with the id of a block. -/
theorem eq_function (h : Built g expand p afterClasses afterFunctions) {s : Statement Unit}
    (hs : s ∈ p.functions) : ∃ name params body id, s = .function name params body (some id) := by
  obtain ⟨before, after, hsplit⟩ := List.append_of_mem hs
  obtain ⟨node, body, _, _, hkind, _, hs, _⟩ := Defines.split (Or.inr rfl) (hsplit ▸ h.functions)
  exact ⟨_, _, _, _, hs.trans (Node.assemble_functionDefine hkind body)⟩

/-- Every statement is a top-level definition or stands at a slot. -/
theorem covered (h : Built g expand p afterClasses afterFunctions) {s : Statement Unit}
    (hs : s ∈ p.walk) : s ∈ p.classes ∨ s ∈ p.functions ∨
      ∃ kept earlier target rest, Slot g expand p kept earlier target (s :: rest) := by
  rw [walk_eq, List.mem_append, List.mem_append] at hs
  -- The walk meets the classes, then the functions, then the main body.
  rcases hs with (hs | hs) | hs
  · rcases Statement.mem_walkAll.mp hs with hs | ⟨c, hc, hs⟩
    · exact Or.inl hs
    · obtain ⟨name, base, members, id, rfl⟩ := h.eq_classDef hc
      obtain ⟨before, after, hsplit⟩ := List.append_of_mem hc
      rw [Statement.nested] at hs
      exact Or.inr (Or.inr ((Slot.members hsplit).exists_of_mem hs))
  · rcases Statement.mem_walkAll.mp hs with hs | ⟨f, hf, hs⟩
    · exact Or.inr (Or.inl hs)
    · obtain ⟨name, params, body, id, rfl⟩ := h.eq_function hf
      obtain ⟨before, after, hsplit⟩ := List.append_of_mem hf
      rw [Statement.nested] at hs
      exact Or.inr (Or.inr ((Slot.body hsplit).exists_of_mem hs))
  · cases hentry : g.entry? with
    | none => simp [h.noEntry hentry, Statement.walkAll] at hs
    | some entry => exact Or.inr (Or.inr ((Slot.main hentry).exists_of_mem hs))

end Built

/-- Every list of a built program starts and goes on where the arrows of the diagram say, and ends
only where they lead to no block or to one that came before. -/
theorem build_structured (g : Diagram) (expand : Bool) : Structured g expand (g.build expand) := by
  obtain ⟨_, _, h⟩ := g.built expand
  exact {
    classes := fun _ hs => h.eq_classDef hs
    functions := fun _ hs => h.eq_function hs
    noEntry := h.noEntry
    covered := fun _ hs => h.covered hs
    ordered := fun _ _ _ _ hslot => hslot.walk_eq
    continues := fun _ _ _ _ hslot => hslot.continues h }

end Diagram

end BlockFlow
