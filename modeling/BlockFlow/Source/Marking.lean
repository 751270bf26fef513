import BlockFlow.Program.Basic
import BlockFlow.Source.Scopes

/-!
# Marking declarations

Before a program is written out, every statement that introduces a variable is marked: the first
one in scope declares the variable, any later one assigns to it. The main body, every function
body, every other class member and every other top-level entry start with no names in scope.
-/

namespace BlockFlow

/-- How a statement that introduces a variable is written. -/
inductive Form where
  | declaring
  | assigning
deriving DecidableEq, Repr

/-- A new name is declared. -/
def Form.ofNew (isNew : Bool) : Form :=
  if isNew then .declaring else .assigning

namespace Statement

mutual

/-- Marks a statement and all nested ones. With `inlineDefault` the default of a switch without
cases is no block of its own. -/
def mark (inlineDefault : Bool) : Statement Unit → Scopes → Statement Form × Scopes
  | .declare _ name value dataType id, scopes =>
    let declared := scopes.declare name
    (.declare (.ofNew declared.1) name value dataType id, declared.2)
  | .update name value id, scopes => (.update name value id, scopes)
  | .arrayValues _ name dataType values id, scopes =>
    let declared := scopes.declare name
    (.arrayValues (.ofNew declared.1) name dataType values id, declared.2)
  | .arraySize _ name dataType size id, scopes =>
    let declared := scopes.declare name
    (.arraySize (.ofNew declared.1) name dataType size id, declared.2)
  | .print value id, scopes => (.print value id, scopes)
  | .ifElse condition body orElse id, scopes =>
    let body := markAll inlineDefault body scopes.enter
    let orElse := markAll inlineDefault orElse body.2.leave.enter
    (.ifElse condition body.1 orElse.1 id, orElse.2.leave)
  | .switch subject cases otherwise id, scopes =>
    let marked := markCases inlineDefault cases scopes
    if inlineDefault && cases.isEmpty then
      let otherwise := markAll inlineDefault otherwise marked.2
      (.switch subject marked.1 otherwise.1 id, otherwise.2)
    else
      let otherwise := markAll inlineDefault otherwise marked.2.enter
      (.switch subject marked.1 otherwise.1 id, otherwise.2.leave)
  | .forRange var bound body id, scopes =>
    let body := markAll inlineDefault body scopes.enter
    (.forRange var bound body.1 id, body.2.leave)
  | .whileLoop condition body id, scopes =>
    let body := markAll inlineDefault body scopes.enter
    (.whileLoop condition body.1 id, body.2.leave)
  | .function name params body id, scopes =>
    let body := markAll inlineDefault body (Scopes.new scopes.blockScoped).enter
    (.function name params body.1 id, scopes)
  | .call name args id, scopes => (.call name args id, scopes)
  | .classDef name base members id, scopes =>
    (.classDef name base (markEach inlineDefault scopes.blockScoped members) id, scopes)
  | .create var className args id, scopes => (.create var className args id, scopes)
  | .unknown kind data id, scopes => (.unknown kind data id, scopes)

/-- Marks the statements of a list in order. -/
def markAll (inlineDefault : Bool) :
    List (Statement Unit) → Scopes → List (Statement Form) × Scopes
  | [], scopes => ([], scopes)
  | s :: rest, scopes =>
    let s := mark inlineDefault s scopes
    let rest := markAll inlineDefault rest s.2
    (s.1 :: rest.1, rest.2)

/-- Marks the cases of a switch in order, each in a block of its own. -/
def markCases (inlineDefault : Bool) :
    List (Text × List (Statement Unit)) → Scopes →
      List (Text × List (Statement Form)) × Scopes
  | [], scopes => ([], scopes)
  | (value, body) :: rest, scopes =>
    let body := markAll inlineDefault body scopes.enter
    let rest := markCases inlineDefault rest body.2.leave
    ((value, body.1) :: rest.1, rest.2)

/-- Marks statements that know nothing of each other. -/
def markEach (inlineDefault blockScoped : Bool) :
    List (Statement Unit) → List (Statement Form)
  | [] => []
  | s :: rest =>
    (mark inlineDefault s (Scopes.new blockScoped)).1 :: markEach inlineDefault blockScoped rest

end

/-- Marking goes through a list from left to right. -/
theorem markAll_append (inlineDefault : Bool) (ss ts : List (Statement Unit)) (scopes : Scopes) :
    markAll inlineDefault (ss ++ ts) scopes =
      ((markAll inlineDefault ss scopes).1
          ++ (markAll inlineDefault ts (markAll inlineDefault ss scopes).2).1,
        (markAll inlineDefault ts (markAll inlineDefault ss scopes).2).2) := by
  induction ss generalizing scopes with
  | nil => simp [markAll]
  | cons s rest ih => simp [markAll, ih]

/-- Each statement starts with nothing in scope. -/
theorem markEach_eq_map (inlineDefault blockScoped : Bool) (ss : List (Statement Unit)) :
    markEach inlineDefault blockScoped ss =
      ss.map fun s => (mark inlineDefault s (Scopes.new blockScoped)).1 := by
  induction ss with
  | nil => simp [markEach]
  | cons s rest ih => simp [markEach, ih]

end Statement

/-- Marks a program. -/
def Program.mark (inlineDefault blockScoped : Bool) (p : Program Unit) : Program Form where
  classes := Statement.markEach inlineDefault blockScoped p.classes
  functions := Statement.markEach inlineDefault blockScoped p.functions
  body := (Statement.markAll inlineDefault p.body (Scopes.new blockScoped).enter).1

end BlockFlow
