import BlockFlow.Program.Basic

/-!
# Relabelling programs

The labels of a program are what ties it to the diagram it came from: the ids of its statements and
the data of its unknown statements. `relabel` changes labels and nothing else. Renaming changes the
ids alone (`rename`), and a bare program has no labels left (`bare`), so that two programs are the
same up to their labels when they have the same bare form.
-/

namespace BlockFlow

namespace Statement

variable {δ : Type}

section

variable (ids : Option Text → Option Text) (data : Json.Fields → Json.Fields)

mutual

/-- A statement with other ids, and with other data in its unknown statements. -/
def relabel : Statement δ → Statement δ
  | .declare mark name value dataType id => .declare mark name value dataType (ids id)
  | .update name value id => .update name value (ids id)
  | .arrayValues mark name dataType values id => .arrayValues mark name dataType values (ids id)
  | .arraySize mark name dataType size id => .arraySize mark name dataType size (ids id)
  | .print value id => .print value (ids id)
  | .ifElse condition body orElse id =>
    .ifElse condition (relabelAll body) (relabelAll orElse) (ids id)
  | .switch subject cases otherwise id =>
    .switch subject (relabelCases cases) (relabelAll otherwise) (ids id)
  | .forRange var bound body id => .forRange var bound (relabelAll body) (ids id)
  | .whileLoop condition body id => .whileLoop condition (relabelAll body) (ids id)
  | .function name params body id => .function name params (relabelAll body) (ids id)
  | .call name args id => .call name args (ids id)
  | .classDef name base members id => .classDef name base (relabelAll members) (ids id)
  | .create var className args id => .create var className args (ids id)
  | .unknown kind fields id => .unknown kind (data fields) (ids id)

/-- Statements with other labels. -/
def relabelAll : List (Statement δ) → List (Statement δ)
  | [] => []
  | s :: rest => relabel s :: relabelAll rest

/-- The cases of a switch with other labels. -/
def relabelCases : List (Text × List (Statement δ)) → List (Text × List (Statement δ))
  | [] => []
  | (value, body) :: rest => (value, relabelAll body) :: relabelCases rest

end

theorem relabelAll_eq_map (ss : List (Statement δ)) :
    relabelAll ids data ss = ss.map (relabel ids data) := by
  induction ss with
  | nil => rfl
  | cons s rest ih => rw [relabelAll, ih, List.map_cons]

theorem relabelCases_eq_map (cases : List (Text × List (Statement δ))) :
    relabelCases ids data cases = cases.map fun case => (case.1, relabelAll ids data case.2) := by
  induction cases with
  | nil => rfl
  | cons case rest ih => rw [relabelCases, ih, List.map_cons]

/-- No statement is lost or added. -/
@[simp]
theorem isEmpty_relabelAll (ss : List (Statement δ)) :
    (relabelAll ids data ss).isEmpty = ss.isEmpty := by
  cases ss <;> rfl

/-- Nor is a case. -/
@[simp]
theorem isEmpty_relabelCases (cases : List (Text × List (Statement δ))) :
    (relabelCases ids data cases).isEmpty = cases.isEmpty := by
  cases cases <;> rfl

end

mutual

/-- A statement that gets its own labels again is the same. -/
theorem relabel_self : ∀ s : Statement δ, relabel (fun id => id) (fun fields => fields) s = s
  | .declare .. => by simp [relabel]
  | .update .. => by simp [relabel]
  | .arrayValues .. => by simp [relabel]
  | .arraySize .. => by simp [relabel]
  | .print .. => by simp [relabel]
  | .ifElse _ body orElse _ => by simp [relabel, relabelAll_self body, relabelAll_self orElse]
  | .switch _ cases otherwise _ => by
    simp [relabel, relabelCases_self cases, relabelAll_self otherwise]
  | .forRange _ _ body _ => by simp [relabel, relabelAll_self body]
  | .whileLoop _ body _ => by simp [relabel, relabelAll_self body]
  | .function _ _ body _ => by simp [relabel, relabelAll_self body]
  | .call .. => by simp [relabel]
  | .classDef _ _ members _ => by simp [relabel, relabelAll_self members]
  | .create .. => by simp [relabel]
  | .unknown .. => by simp [relabel]

/-- So are statements. -/
theorem relabelAll_self : ∀ ss : List (Statement δ),
    relabelAll (fun id => id) (fun fields => fields) ss = ss
  | [] => rfl
  | s :: rest => by rw [relabelAll, relabel_self s, relabelAll_self rest]

/-- So are the cases of a switch. -/
theorem relabelCases_self : ∀ cases : List (Text × List (Statement δ)),
    relabelCases (fun id => id) (fun fields => fields) cases = cases
  | [] => rfl
  | (value, body) :: rest => by
    rw [relabelCases, relabelAll_self body, relabelCases_self rest]

end

/-- A statement whose ids are renamed. -/
def rename (r : Text → Text) (s : Statement δ) : Statement δ :=
  s.relabel (Option.map r) fun fields => fields

/-- Statements whose ids are renamed. -/
def renameAll (r : Text → Text) (ss : List (Statement δ)) : List (Statement δ) :=
  relabelAll (Option.map r) (fun fields => fields) ss

@[simp]
theorem renameAll_nil (r : Text → Text) : renameAll r ([] : List (Statement δ)) = [] :=
  rfl

@[simp]
theorem renameAll_cons (r : Text → Text) (s : Statement δ) (rest : List (Statement δ)) :
    renameAll r (s :: rest) = s.rename r :: renameAll r rest :=
  rfl

end Statement

namespace Program

variable {δ : Type}

/-- A program with other labels. -/
def relabel (ids : Option Text → Option Text) (data : Json.Fields → Json.Fields)
    (p : Program δ) : Program δ where
  classes := Statement.relabelAll ids data p.classes
  functions := Statement.relabelAll ids data p.functions
  body := Statement.relabelAll ids data p.body

/-- A program whose ids are renamed. -/
def rename (r : Text → Text) (p : Program δ) : Program δ :=
  p.relabel (Option.map r) fun fields => fields

/-- A program without labels. -/
def bare (p : Program δ) : Program δ :=
  p.relabel (fun _ => none) fun _ => []

/-- A program whose ids keep their names is the same. -/
theorem rename_self (p : Program δ) : p.rename (fun id => id) = p := by
  have hself : Option.map (fun id : Text => id) = fun id => id := Option.map_id_fun'
  unfold rename relabel
  simp only [hself, Statement.relabelAll_self]

end Program

end BlockFlow
