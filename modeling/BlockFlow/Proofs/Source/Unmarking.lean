import BlockFlow.Source.Marking

/-!
# Marks can be taken off

A marked program is the program itself with marks on the statements that introduce variables. Taking
the marks off gives the program back (`Program.unmark_mark`), whatever was in scope, so that a law
about the texts or the nesting of a program holds for its marked form too.
-/

namespace BlockFlow

namespace Statement

variable {δ : Type}

mutual

/-- A statement without its marks. -/
def unmark : Statement δ → Statement Unit
  | .declare _ name value dataType id => .declare () name value dataType id
  | .update name value id => .update name value id
  | .arrayValues _ name dataType values id => .arrayValues () name dataType values id
  | .arraySize _ name dataType size id => .arraySize () name dataType size id
  | .print value id => .print value id
  | .ifElse condition body orElse id => .ifElse condition (unmarkAll body) (unmarkAll orElse) id
  | .switch subject cases otherwise id =>
    .switch subject (unmarkCases cases) (unmarkAll otherwise) id
  | .forRange var bound body id => .forRange var bound (unmarkAll body) id
  | .whileLoop condition body id => .whileLoop condition (unmarkAll body) id
  | .function name params body id => .function name params (unmarkAll body) id
  | .call name args id => .call name args id
  | .classDef name base members id => .classDef name base (unmarkAll members) id
  | .create var className args id => .create var className args id
  | .unknown kind data id => .unknown kind data id

/-- Statements without their marks. -/
def unmarkAll : List (Statement δ) → List (Statement Unit)
  | [] => []
  | s :: rest => unmark s :: unmarkAll rest

/-- The cases of a switch without their marks. -/
def unmarkCases : List (Text × List (Statement δ)) → List (Text × List (Statement Unit))
  | [] => []
  | (value, body) :: rest => (value, unmarkAll body) :: unmarkCases rest

end

theorem unmarkAll_eq_map (ss : List (Statement δ)) : unmarkAll ss = ss.map unmark := by
  induction ss with
  | nil => rfl
  | cons s rest ih => rw [unmarkAll, ih, List.map_cons]

/-- The values of the cases have no marks. -/
theorem map_fst_unmarkCases (cases : List (Text × List (Statement δ))) :
    (unmarkCases cases).map (·.1) = cases.map (·.1) := by
  induction cases with
  | nil => simp [unmarkCases]
  | cons case rest ih => simp [unmarkCases, ih]

/-- The bodies of the cases lose theirs. -/
theorem map_snd_unmarkCases (cases : List (Text × List (Statement δ))) :
    (unmarkCases cases).map (·.2) = (cases.map (·.2)).map unmarkAll := by
  induction cases with
  | nil => rfl
  | cons case rest ih => rw [unmarkCases, List.map_cons, ih, List.map_cons, List.map_cons]

/-! ## Marking and unmarking -/

variable (inlineDefault : Bool)

mutual

/-- Unmarking gives a statement back, whatever was in scope. -/
theorem unmark_mark : ∀ (s : Statement Unit) (scopes : Scopes),
    unmark (mark inlineDefault s scopes).1 = s
  | .declare .., _ => by simp [mark, unmark]
  | .update .., _ => by simp [mark, unmark]
  | .arrayValues .., _ => by simp [mark, unmark]
  | .arraySize .., _ => by simp [mark, unmark]
  | .print .., _ => by simp [mark, unmark]
  | .ifElse _ body orElse _, _ => by
    simp [mark, unmark, unmarkAll_markAll body, unmarkAll_markAll orElse]
  | .switch _ cases otherwise _, _ => by
    unfold mark
    -- The default is marked in one of two scopes.
    split <;> simp [unmark, unmarkCases_markCases cases, unmarkAll_markAll otherwise]
  | .forRange _ _ body _, _ => by simp [mark, unmark, unmarkAll_markAll body]
  | .whileLoop _ body _, _ => by simp [mark, unmark, unmarkAll_markAll body]
  | .function _ _ body _, _ => by simp [mark, unmark, unmarkAll_markAll body]
  | .call .., _ => by simp [mark, unmark]
  | .classDef _ _ members _, _ => by simp [mark, unmark, unmarkAll_markEach members]
  | .create .., _ => by simp [mark, unmark]
  | .unknown .., _ => by simp [mark, unmark]

/-- So it does for the statements of a list. -/
theorem unmarkAll_markAll : ∀ (ss : List (Statement Unit)) (scopes : Scopes),
    unmarkAll (markAll inlineDefault ss scopes).1 = ss
  | [], _ => by simp [markAll, unmarkAll]
  | s :: rest, _ => by simp [markAll, unmarkAll, unmark_mark s, unmarkAll_markAll rest]

/-- So it does for the cases of a switch. -/
theorem unmarkCases_markCases : ∀ (cases : List (Text × List (Statement Unit))) (scopes : Scopes),
    unmarkCases (markCases inlineDefault cases scopes).1 = cases
  | [], _ => by simp [markCases, unmarkCases]
  | (_, body) :: rest, _ => by
    simp [markCases, unmarkCases, unmarkAll_markAll body, unmarkCases_markCases rest]

/-- So it does for statements in scopes of their own. -/
theorem unmarkAll_markEach : ∀ (ss : List (Statement Unit)) (blockScoped : Bool),
    unmarkAll (markEach inlineDefault blockScoped ss) = ss
  | [], _ => by simp [markEach, unmarkAll]
  | s :: rest, _ => by simp [markEach, unmarkAll, unmark_mark s, unmarkAll_markEach rest]

end

/-! ## Depth-first order -/

mutual

/-- Without marks the same statements are nested in a statement. -/
theorem nested_unmark : ∀ s : Statement δ, nested (unmark s) = (nested s).map unmark
  | .declare .. => by simp [unmark, nested]
  | .update .. => by simp [unmark, nested]
  | .arrayValues .. => by simp [unmark, nested]
  | .arraySize .. => by simp [unmark, nested]
  | .print .. => by simp [unmark, nested]
  | .ifElse _ body orElse _ => by
    simp [unmark, nested, walkAll_unmarkAll body, walkAll_unmarkAll orElse]
  | .switch _ cases otherwise _ => by
    simp [unmark, nested, walkCases_unmarkCases cases, walkAll_unmarkAll otherwise]
  | .forRange _ _ body _ => by simp [unmark, nested, walkAll_unmarkAll body]
  | .whileLoop _ body _ => by simp [unmark, nested, walkAll_unmarkAll body]
  | .function _ _ body _ => by simp [unmark, nested, walkAll_unmarkAll body]
  | .call .. => by simp [unmark, nested]
  | .classDef _ _ members _ => by simp [unmark, nested, walkAll_unmarkAll members]
  | .create .. => by simp [unmark, nested]
  | .unknown .. => by simp [unmark, nested]

/-- A list without marks is walked in the same order. -/
theorem walkAll_unmarkAll : ∀ ss : List (Statement δ),
    walkAll (unmarkAll ss) = (walkAll ss).map unmark
  | [] => by simp [unmarkAll, walkAll]
  | s :: rest => by simp [unmarkAll, walkAll, nested_unmark s, walkAll_unmarkAll rest]

/-- So are the cases of a switch. -/
theorem walkCases_unmarkCases : ∀ cases : List (Text × List (Statement δ)),
    walkCases (unmarkCases cases) = (walkCases cases).map unmark
  | [] => by simp [unmarkCases, walkCases]
  | (_, body) :: rest => by
    simp [unmarkCases, walkCases, walkAll_unmarkAll body, walkCases_unmarkCases rest]

end

end Statement

namespace Program

variable {δ : Type}

/-- A program without its marks. -/
def unmark (p : Program δ) : Program Unit where
  classes := Statement.unmarkAll p.classes
  functions := Statement.unmarkAll p.functions
  body := Statement.unmarkAll p.body

/-- Marking a program adds nothing but marks. -/
theorem unmark_mark (inlineDefault blockScoped : Bool) (p : Program Unit) :
    (p.mark inlineDefault blockScoped).unmark = p := by
  simp [unmark, mark, Statement.unmarkAll_markEach, Statement.unmarkAll_markAll]

/-- The statements of a program without its marks. -/
theorem walk_unmark (p : Program δ) : p.unmark.walk = p.walk.map Statement.unmark := by
  simp [walk, unmark, Statement.walkAll_unmarkAll]

end Program

end BlockFlow
