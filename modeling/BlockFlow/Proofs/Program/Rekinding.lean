import BlockFlow.Proofs.Program.RoundTrip

/-!
# Programs with other kinds

`rekind` changes the kinds of the unknown statements of a program and nothing else. When all its
parameters have a type and a name, this is what saving and reading back a program does: each unknown
statement without a kind gets one (`Program.ofJson_toJson_eq_rekind`). After that the program is
read back as it is (`Program.loadable_rekind_fillKind`).
-/

namespace BlockFlow

namespace Statement

variable {δ : Type} (f : Text → Text)

mutual

/-- A statement with other kinds in its unknown statements. -/
def rekind : Statement δ → Statement δ
  | .ifElse condition body orElse id => .ifElse condition (rekindAll body) (rekindAll orElse) id
  | .switch subject cases otherwise id =>
    .switch subject (rekindCases cases) (rekindAll otherwise) id
  | .forRange var bound body id => .forRange var bound (rekindAll body) id
  | .whileLoop condition body id => .whileLoop condition (rekindAll body) id
  | .function name params body id => .function name params (rekindAll body) id
  | .classDef name base members id => .classDef name base (rekindAll members) id
  | .unknown kind data id => .unknown (f kind) data id
  | s => s

/-- Statements with other kinds. -/
def rekindAll : List (Statement δ) → List (Statement δ)
  | [] => []
  | s :: rest => rekind s :: rekindAll rest

/-- The cases of a switch with other kinds. -/
def rekindCases : List (Text × List (Statement δ)) → List (Text × List (Statement δ))
  | [] => []
  | (value, body) :: rest => (value, rekindAll body) :: rekindCases rest

end

theorem rekindAll_eq_map (ss : List (Statement δ)) : rekindAll f ss = ss.map (rekind f) := by
  induction ss with
  | nil => rfl
  | cons s rest ih => rw [rekindAll, ih, List.map_cons]

/-- No statement is lost or added. -/
@[simp]
theorem isEmpty_rekindAll (ss : List (Statement δ)) : (rekindAll f ss).isEmpty = ss.isEmpty := by
  cases ss <;> rfl

/-- Nor is a case. -/
@[simp]
theorem isEmpty_rekindCases (cases : List (Text × List (Statement δ))) :
    (rekindCases f cases).isEmpty = cases.isEmpty := by
  cases cases <;> rfl

/-! ## Depth-first order -/

mutual

/-- What is nested in a statement with other kinds. -/
theorem nested_rekind : ∀ s : Statement δ, nested (rekind f s) = (nested s).map (rekind f)
  | .ifElse _ body orElse _ => by
    simp [rekind, nested, walkAll_rekindAll body, walkAll_rekindAll orElse]
  | .switch _ cases otherwise _ => by
    simp [rekind, nested, walkCases_rekindCases cases, walkAll_rekindAll otherwise]
  | .forRange _ _ body _ | .whileLoop _ body _ | .function _ _ body _ | .classDef _ _ body _ => by
    simp [rekind, nested, walkAll_rekindAll body]
  | .declare .. | .update .. | .arrayValues .. | .arraySize .. | .print .. | .call ..
  | .create .. | .unknown .. => by
    simp [rekind, nested]

/-- A walk over statements with other kinds meets the same statements with other kinds. -/
theorem walkAll_rekindAll : ∀ ss : List (Statement δ),
    walkAll (rekindAll f ss) = (walkAll ss).map (rekind f)
  | [] => rfl
  | s :: rest => by simp [rekindAll, walkAll, nested_rekind s, walkAll_rekindAll rest]

/-- So does a walk over cases. -/
theorem walkCases_rekindCases : ∀ cases : List (Text × List (Statement δ)),
    walkCases (rekindCases f cases) = (walkCases cases).map (rekind f)
  | [] => rfl
  | (_, body) :: rest => by
    simp [rekindCases, walkCases, walkAll_rekindAll body, walkCases_rekindCases rest]

end

/-! ## Saving and reading back -/

/-- The kind an unknown statement is read back with. -/
def fillKind (kind : Text) : Text :=
  if kind = "" then "unknown" else kind

/-- A kind that is filled in is no shorter than before. -/
theorem length_le_fillKind (kind : Text) : kind.length ≤ (fillKind kind).length := by
  unfold fillKind
  split
  case isTrue h =>
    rw [h]
    decide
  case isFalse => exact Nat.le_refl _

/-- A kind that was missing is longer than before. -/
theorem length_lt_fillKind_nil : ([] : Text).length < (fillKind []).length := by
  decide

/-- Whether the parameters of a statement have types and names. -/
def ParamsFilled : Statement δ → Prop
  | .function _ params _ _ => ∀ p ∈ params, p.typeName ≠ "" ∧ p.name ≠ ""
  | _ => True

/-- The parameters of a statement that can be read back have types and names. -/
theorem Loadable.paramsFilled {s : Statement δ} (h : s.Loadable) : s.ParamsFilled := by
  cases s with
  | function name params body id => exact h
  | _ => trivial

mutual

/-- A statement whose parameters have types and names is read back with its kinds filled in. -/
theorem reload_eq_rekind : ∀ s : Statement Unit, (∀ t ∈ s.walk, t.ParamsFilled) →
    s.reload = rekind fillKind s
  | .ifElse _ body orElse _, h => by
    rw [reload, rekind,
      reloadAll_eq_rekindAll body fun t ht => h t (by simp [walk, nested, ht]),
      reloadAll_eq_rekindAll orElse fun t ht => h t (by simp [walk, nested, ht])]
  | .switch _ cases otherwise _, h => by
    rw [reload, rekind,
      reloadCases_eq_rekindCases cases fun t ht => h t (by simp [walk, nested, ht]),
      reloadAll_eq_rekindAll otherwise fun t ht => h t (by simp [walk, nested, ht])]
  | .forRange _ _ body _, h | .whileLoop _ body _, h | .classDef _ _ body _, h => by
    rw [reload, rekind, reloadAll_eq_rekindAll body fun t ht => h t (by simp [walk, nested, ht])]
  | .function _ params body _, h => by
    rw [reload, rekind, (filterMap_reloadParam?_eq_iff params).2 (h _ List.mem_cons_self),
      reloadAll_eq_rekindAll body fun t ht => h t (by simp [walk, nested, ht])]
  | .unknown .., _ => by simp [reload, rekind, fillKind]
  | .declare .., _ | .update .., _ | .arrayValues .., _ | .arraySize .., _ | .print .., _
  | .call .., _ | .create .., _ => by
    simp [reload, rekind]

/-- So is a list of statements. -/
theorem reloadAll_eq_rekindAll : ∀ ss : List (Statement Unit), (∀ t ∈ walkAll ss, t.ParamsFilled) →
    reloadAll ss = rekindAll fillKind ss
  | [], _ => rfl
  | s :: rest, h => by
    rw [reloadAll_cons, rekindAll, reload_eq_rekind s fun t ht => h t (List.mem_append_left _ ht),
      reloadAll_eq_rekindAll rest fun t ht => h t (List.mem_append_right _ ht)]

/-- So are the cases of a switch. -/
theorem reloadCases_eq_rekindCases : ∀ cases : List (Text × List (Statement Unit)),
    (∀ t ∈ walkCases cases, t.ParamsFilled) → reloadCases cases = rekindCases fillKind cases
  | [], _ => rfl
  | (value, body) :: rest, h => by
    rw [reloadCases_cons, rekindCases,
      reloadAll_eq_rekindAll body fun t ht => h t (List.mem_append_left _ ht),
      reloadCases_eq_rekindCases rest fun t ht => h t (List.mem_append_right _ ht)]

end

/-- A statement whose kind is filled in can be read back. -/
theorem loadable_rekind_fillKind {s : Statement δ} (h : s.ParamsFilled) :
    (rekind fillKind s).Loadable := by
  cases s with
  | function name params body id => exact h
  | unknown kind data id => by_cases hkind : kind = "" <;> simp [rekind, Loadable, fillKind, hkind]
  | _ => trivial

end Statement

namespace Program

variable {δ : Type}

/-- A program with other kinds in its unknown statements. -/
def rekind (f : Text → Text) (p : Program δ) : Program δ where
  classes := Statement.rekindAll f p.classes
  functions := Statement.rekindAll f p.functions
  body := Statement.rekindAll f p.body

/-- A program with other kinds has the same statements in the same order, with other kinds. -/
theorem walk_rekind (f : Text → Text) (p : Program δ) :
    (p.rekind f).walk = p.walk.map (Statement.rekind f) := by
  simp [walk, rekind, Statement.walkAll_rekindAll]

/-- Reading back a saved program fills in the kinds that are missing, and that is all it does if no
parameter lacks a type or a name. -/
theorem ofJson_toJson_eq_rekind {p : Program Unit} (h : ∀ t ∈ p.walk, t.ParamsFilled) :
    ofJson p.toJson = .ok (p.rekind Statement.fillKind) := by
  simp only [walk, Statement.walkAll_append, List.mem_append, or_imp, forall_and] at h
  obtain ⟨⟨hclasses, hfunctions⟩, hbody⟩ := h
  rw [ofJson_toJson, rekind, Statement.reloadAll_eq_rekindAll _ hclasses,
    Statement.reloadAll_eq_rekindAll _ hfunctions, Statement.reloadAll_eq_rekindAll _ hbody]

/-- Once the missing kinds are filled in, every statement can be read back. -/
theorem loadable_rekind_fillKind {p : Program δ} (h : ∀ t ∈ p.walk, t.ParamsFilled) :
    ∀ t ∈ (p.rekind Statement.fillKind).walk, t.Loadable := by
  intro t ht
  rw [walk_rekind, List.mem_map] at ht
  obtain ⟨s, hs, rfl⟩ := ht
  exact Statement.loadable_rekind_fillKind (h s hs)

end Program

end BlockFlow
