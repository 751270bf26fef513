import BlockFlow.Proofs.Diagram.Placement
import Mathlib.Data.List.Nodup
import Mathlib.Data.List.Perm.Basic

/-!
# No definition is lost

A pass over definitions places every block of its kind, unless an earlier walk has placed it already
(`Defines.mem_placed`). An id is only ever placed together with a statement that ends up in the
program, so after the two passes each definition has its statement (`Built.exists_of_placed`), at
the top level or nested in another one. The main body comes too late to hold any of them.
-/

namespace BlockFlow

namespace Statement

variable {δ : Type}

/-- What a statement defines: a class, a function or nothing. -/
def definedKind? : Statement δ → Option Kind
  | .classDef .. => some .classDefine
  | .function .. => some .functionDefine
  | _ => none

@[simp]
theorem definedKind?_shell (s : Statement δ) : s.shell.definedKind? = s.definedKind? := by
  cases s <;> rfl

/-- The statements of a list and those nested in them make up all statements of the list. -/
theorem perm_walkAll (ss : List (Statement δ)) : (ss ++ ss.flatMap nested).Perm (walkAll ss) := by
  have h := List.flatMap_append_perm ss ([·]) nested
  rw [List.flatMap_singleton'] at h
  rw [walkAll_eq_flatMap]
  exact h

/-- Where all ids are different, a statement of a list and one that is nested in some statement of
the list have different ids. -/
theorem id_ne_of_mem_nested {ss : List (Statement δ)} (h : ((walkAll ss).map id).Nodup)
    {s t : Statement δ} (hs : s ∈ ss) (ht : t ∈ ss.flatMap nested) : s.id ≠ t.id := by
  have hnodup := ((perm_walkAll ss).map id).nodup_iff.mpr h
  rw [List.map_append] at hnodup
  have hdisjoint := List.disjoint_of_nodup_append hnodup
  intro heq
  exact hdisjoint (List.mem_map_of_mem hs) (heq ▸ List.mem_map_of_mem ht)

end Statement

/-- A block for a definition makes a definition of its kind. -/
theorem Node.definedKind?_statement {n : Node} {kind : Kind}
    (hkind : kind = .classDefine ∨ kind = .functionDefine) (hn : n.kind = kind) :
    n.statement.definedKind? = some kind := by
  unfold statement
  rw [hn]
  rcases hkind with rfl | rfl <;> rfl

namespace Program

/-- The statements at the top level of a program: classes, functions, main body. -/
def top (p : Program Unit) : List (Statement Unit) :=
  p.classes ++ p.functions ++ p.body

/-- The statements of a program that stand inside another one, at any depth. -/
def nested (p : Program Unit) : List (Statement Unit) :=
  p.top.flatMap Statement.nested

end Program

namespace Diagram

variable {g : Diagram} {expand : Bool} {kind : Kind} {handle : Text}

/-- How a program keeps the definitions of a kind, of which it lists some at its top level. -/
structure Keeps (g : Diagram) (p : Program Unit) (kind : Kind) (listed : List (Statement Unit)) :
    Prop where
  /-- The id of each definition occurs exactly once in the program. -/
  once : ∀ n ∈ g.nodes, n.kind = kind → (p.walk.map Statement.id).count (some n.id) = 1
  /-- It occurs there with a definition of the kind, the one that the block makes. -/
  form : ∀ n ∈ g.nodes, n.kind = kind →
    ∃ s ∈ p.walk, s.id = some n.id ∧ s.definedKind? = some kind ∧ s.shell = n.statement
  /-- Only definitions of the kind are listed. -/
  only : ∀ s ∈ listed, s.definedKind? = some kind
  /-- They are listed in the order of their blocks. -/
  ordered : (listed.map Statement.id).Sublist
    ((g.nodes.filter (·.kind = kind)).map fun n => some n.id)
  /-- A definition is not listed exactly when it stands inside another statement. -/
  missing : ∀ n ∈ g.nodes, n.kind = kind →
    ((∀ s ∈ listed, s.id ≠ some n.id) ↔ ∃ s ∈ p.nested, s.id = some n.id)

namespace Defines

variable {placed placed' : List Text} {nodes : List Node} {ss : List (Statement Unit)}

/-- After a pass every definition of its kind is placed. -/
theorem mem_placed (hkind : kind = .classDefine ∨ kind = .functionDefine)
    (h : Defines g expand kind handle placed nodes ss placed') {n : Node} (hn : n ∈ nodes)
    (hofKind : n.kind = kind) : n.id ∈ placed' := by
  induction h with
  | nil => simp at hn
  | skip other others ih =>
    -- A definition that is passed over was placed before, and stays placed.
    rcases List.mem_cons.mp hn with rfl | hn
    · have hplaced := other.resolve_left (not_not_intro hofKind)
      exact (others.places hkind).subset hplaced
    · exact ih hn
  | define ofKind free inner others ih =>
    rcases List.mem_cons.mp hn with rfl | hn
    · have hbody := inner.places_single.subset List.mem_cons_self
      exact (others.places hkind).subset hbody
    · exact ih hn

/-- A pass lists definitions of its kind. -/
theorem definedKind? (hkind : kind = .classDefine ∨ kind = .functionDefine)
    (h : Defines g expand kind handle placed nodes ss placed') :
    ∀ s ∈ ss, s.definedKind? = some kind := by
  intro s hs
  obtain ⟨before, after, rfl⟩ := List.append_of_mem hs
  obtain ⟨node, body, _, _, hnode, -, rfl, -⟩ := h.split hkind
  rw [← Statement.definedKind?_shell, Node.shell_assemble]
  exact Node.definedKind?_statement hkind hnode

/-- A pass lists definitions in the order of their blocks. -/
theorem sublist (h : Defines g expand kind handle placed nodes ss placed') :
    (ss.map Statement.id).Sublist ((nodes.filter (·.kind = kind)).map fun n => some n.id) := by
  induction h with
  | nil => exact List.Sublist.refl _
  | @skip _ _ node _ _ _ _ ih =>
    -- A block that is passed over may be of the kind or not; the list of ids goes on without it.
    by_cases hkind : node.kind = kind
    · simpa [hkind] using ih.cons (some node.id)
    · simpa [hkind] using ih
  | @define _ _ _ node _ _ _ ofKind _ _ _ ih =>
    simpa [ofKind] using ih.cons_cons (some node.id)

end Defines

namespace Built

variable {p : Program Unit} {afterClasses afterFunctions : List Text}

/-- An id that is placed by the two passes belongs to a statement of the program. -/
theorem exists_of_placed (h : Built g expand p afterClasses afterFunctions) {id : Text}
    (hid : id ∈ afterFunctions) : ∃ s ∈ p.walk, s.id = some id := by
  rcases h.places.mem_iff.mp hid with ⟨s, hs, hsid⟩ | hnil
  · refine ⟨s, ?_, hsid⟩
    rw [walk_eq]
    exact List.mem_append_left _ hs
  · simp at hnil

/-- Nothing that the two passes place stands in the main body. -/
theorem not_mem_body (h : Built g expand p afterClasses afterFunctions) {id : Text}
    (hid : id ∈ afterFunctions) {s : Statement Unit} (hs : s ∈ p.body) : s.id ≠ some id := by
  cases hentry : g.entry? with
  | none => simp [h.noEntry hentry] at hs
  | some entry =>
    obtain ⟨_, hbody⟩ := h.body entry hentry
    have hfree := hbody.places_single.free s (Statement.mem_walkAll.mpr (Or.inl hs))
    intro hsid
    rw [hsid] at hfree
    exact hfree (List.mem_map_of_mem (List.mem_cons_of_mem _ hid))

/-- If the blocks have different ids, a statement with the id of a block is made from that block. -/
theorem shell_eq (h : Built g expand p afterClasses afterFunctions)
    (hids : (g.nodes.map (·.id)).Nodup) {n : Node} (hn : n ∈ g.nodes) {s : Statement Unit}
    (hs : s ∈ p.walk) (hsid : s.id = some n.id) : s.shell = n.statement := by
  obtain ⟨m, hm, hshell⟩ := h.found hs
  have hid : some m.id = some n.id := by
    rw [← hsid, ← Statement.id_shell, hshell, Node.id_statement]
  have heq : m = n := List.inj_on_of_nodup_map hids hm hn (Option.some.inj hid)
  rw [hshell, heq]

/-- The definitions of a kind are kept by the pass that lists them, if no other definitions of the
kind stand at the top level. -/
theorem keeps (h : Built g expand p afterClasses afterFunctions)
    (hids : (g.nodes.map (·.id)).Nodup) (hkind : kind = .classDefine ∨ kind = .functionDefine)
    {placed placed' : List Text} {listed : List (Statement Unit)}
    (hpass : Defines g expand kind handle placed g.nodes listed placed')
    (hplaced : placed' ⊆ afterFunctions) (htop : listed ⊆ p.classes ++ p.functions)
    (hlisted : ∀ s ∈ p.classes ++ p.functions, s.definedKind? = some kind → s ∈ listed) :
    Keeps g p kind listed := by
  have hid : ∀ n ∈ g.nodes, n.kind = kind → n.id ∈ afterFunctions :=
    fun n hn hofKind => hplaced (hpass.mem_placed hkind hn hofKind)
  have hform : ∀ n ∈ g.nodes, n.kind = kind →
      ∃ s ∈ p.walk, s.id = some n.id ∧ s.definedKind? = some kind ∧ s.shell = n.statement := by
    intro n hn hofKind
    obtain ⟨s, hs, hsid⟩ := h.exists_of_placed (hid n hn hofKind)
    have hshell := h.shell_eq hids hn hs hsid
    refine ⟨s, hs, hsid, ?_, hshell⟩
    rw [← Statement.definedKind?_shell, hshell]
    exact Node.definedKind?_statement hkind hofKind
  refine ⟨?_, hform, hpass.definedKind? hkind, hpass.sublist, ?_⟩
  · intro n hn hofKind
    obtain ⟨s, hs, hsid, -⟩ := hform n hn hofKind
    exact List.count_eq_one_of_mem h.nodup_id (hsid ▸ List.mem_map_of_mem hs)
  · intro n hn hofKind
    obtain ⟨s, hs, hsid, hdefines, -⟩ := hform n hn hofKind
    constructor
    · intro hmissing
      -- A definition that is not listed is nested, as the main body holds none.
      rcases Statement.mem_walkAll.mp hs with hs | ⟨outer, houter, hs⟩
      · rcases List.mem_append.mp hs with hs | hs
        · exact absurd hsid (hmissing s (hlisted s hs hdefines))
        · exact absurd hsid (h.not_mem_body (hid n hn hofKind) hs)
      · exact ⟨s, List.mem_flatMap.mpr ⟨outer, houter, hs⟩, hsid⟩
    · rintro ⟨t, ht, htid⟩ s hs hsid
      have hstop : s ∈ p.top := List.mem_append_left _ (htop hs)
      exact Statement.id_ne_of_mem_nested h.nodup_id hstop ht (hsid.trans htid.symm)

end Built

/-- If the blocks of a diagram have different ids, every class and every function of the diagram
stands in the program exactly once, and those that stand in no other statement are listed at the
top level in the order of their blocks. -/
theorem build_keeps_definitions (g : Diagram) (expand : Bool)
    (hids : (g.nodes.map (·.id)).Nodup) :
    Keeps g (g.build expand) .classDefine (g.build expand).classes ∧
      Keeps g (g.build expand) .functionDefine (g.build expand).functions := by
  obtain ⟨_, _, h⟩ := g.built expand
  have hclasses := h.classes.definedKind? (Or.inl rfl)
  have hfunctions := h.functions.definedKind? (Or.inr rfl)
  constructor
  · refine h.keeps hids (Or.inl rfl) h.classes (h.functions.places (Or.inr rfl)).subset
      (List.subset_append_left _ _) ?_
    intro s hs hdefines
    rcases List.mem_append.mp hs with hs | hs
    · exact hs
    · simp [hfunctions s hs] at hdefines
  · refine h.keeps hids (Or.inr rfl) h.functions (List.Subset.refl _)
      (List.subset_append_right _ _) ?_
    intro s hs hdefines
    rcases List.mem_append.mp hs with hs | hs
    · simp [hclasses s hs] at hdefines
    · exact hs

/-- A class that holds a loop around another class with a method, and a function whose body leads to
the first class, which is placed before the function. -/
def intertwined : Diagram where
  nodes := [⟨"f", "functionDefine", [("name", .str "f")]⟩,
    ⟨"outer", "classDefine", [("className", .str "Outer")]⟩,
    ⟨"loop", "while", [("condition", .str "c")]⟩,
    ⟨"inner", "classDefine", [("className", .str "Inner")]⟩,
    ⟨"m", "functionDefine", [("name", .str "m")]⟩]
  edges := [⟨"outer", "loop", .str "members", .null, none⟩,
    ⟨"loop", "inner", .str "loopBody", .null, none⟩,
    ⟨"inner", "m", .str "members", .null, none⟩, ⟨"f", "outer", .str "body", .null, none⟩]

/-- The method stands inside a class, so it is kept once and is not listed. -/
theorem build_keeps_definitions_intertwined :
    (intertwined.nodes.map (·.id)).Nodup ∧
      ((intertwined.build true).walk.map Statement.id).count (some (Text.ofString "m")) = 1 ∧
      (∀ s ∈ (intertwined.build true).functions, s.id ≠ some "m") ∧
      ∃ s ∈ (intertwined.build true).nested, s.id = some "m" := by
  have hids : (intertwined.nodes.map (·.id)).Nodup := by decide
  have hkeeps := (build_keeps_definitions intertwined true hids).2
  have hnode : ⟨"m", "functionDefine", [("name", .str "m")]⟩ ∈ intertwined.nodes := by decide
  have hmissing : ∀ s ∈ (intertwined.build true).functions, s.id ≠ some "m" := by decide
  exact ⟨hids, hkeeps.once _ hnode (by decide), hmissing,
    (hkeeps.missing _ hnode (by decide)).mp hmissing⟩

end Diagram

end BlockFlow
