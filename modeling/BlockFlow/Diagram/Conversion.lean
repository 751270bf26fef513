import BlockFlow.Diagram.Basic
import BlockFlow.Program.Basic
import BlockFlow.Text.Blank

/-!
# From blocks to statements

The statement of a single block, the handles under which its nested statements start, and the
statement with its nested statements filled in.
-/

namespace BlockFlow

/-- The items of a comma-separated value; a value that is not filled in has none. -/
def Json.items (j : Json) : List Text :=
  if j.isFilled then Text.items j.text else []

/-- A parameter from its text: a type and a name, or a name alone. Further words are ignored. -/
def Param.ofWords : List Text → Param
  | typeName :: name :: _ => ⟨typeName, name⟩
  | [name] => ⟨"var", name⟩
  | [] => ⟨"var", ""⟩

/-- The parameters of a comma-separated text. -/
def Param.ofItems (items : List Text) : List Param :=
  items.map fun item => Param.ofWords (Text.words item)

/-- The values of an array block: the filled items of a list, or those of a comma-separated text. -/
def Json.arrayItems : Json → List Text
  | .arr items => (items.map fun item => Text.trim item.text).filter (· ≠ "")
  | j => j.items

namespace Node

/-- The values of the cases a switch block declares, in order. -/
def caseValues (n : Node) : List Text :=
  match Json.Fields.get n.data "cases" with
  | .arr cases =>
    cases.map fun
      | .obj fields => Json.Fields.text fields "value"
      | value => value.text
  | _ => []

/-- The statement of a block on its own, without nested statements. -/
def statement (n : Node) : Statement Unit :=
  let id := some n.id
  match n.kind with
  | .variableDeclare =>
    .declare () (n.text "varName") (n.text "value") (n.text "dataType") id
  | .variableUpdate => .update (n.text "varName") (n.text "value") id
  | .arrayValues =>
    .arrayValues () (n.text "varName") (n.text "dataType")
      (Json.Fields.get n.data "values").arrayItems id
  | .arraySize => .arraySize () (n.text "varName") (n.text "dataType") (n.text "size") id
  | .print => .print (n.text "value") id
  | .ifElse => .ifElse (n.text "condition") [] [] id
  | .switch => .switch (n.text "switchVar") [] [] id
  | .forRange => .forRange (n.text "varName") (n.text "range") [] id
  | .whileLoop => .whileLoop (n.text "condition") [] id
  | .functionDefine =>
    .function (n.text "name") (Param.ofItems (Text.items (n.text "params"))) [] id
  | .functionCall => .call (n.text "name") (Text.items (n.text "args")) id
  | .classDefine => .classDef (n.text "className") (Text.trim (n.text "inherits")) [] id
  | .objectCreate =>
    .create (n.text "varName") (n.text "className") (Text.items (n.text "args")) id
  | .entry | .unknown => .unknown (if n.typeName = "" then "unknown" else n.typeName) n.data id

/-- The handle of a case. -/
def caseHandle (index : Int) : Text :=
  "case-" ++ toString index

/-- The handles under which the nested statements of a block start, in the order in which they are
followed. The body of a definition inside another sequence is only followed with `expand`. -/
def sections (expand : Bool) (n : Node) : List Text :=
  match n.kind with
  | .ifElse => ["true", "false"]
  | .switch =>
    (List.range n.caseValues.length).map (fun i => caseHandle (Int.ofNat i))
      ++ [Text.ofString "default"]
  | .forRange | .whileLoop => ["loopBody"]
  | .functionDefine => if expand then ["body"] else []
  | .classDefine => if expand then ["members"] else []
  | _ => []

/-- The statement of a block with its nested statements, given section by section. -/
def assemble (n : Node) (bodies : List (List (Statement Unit))) : Statement Unit :=
  let body := bodies.headD []
  match n.statement with
  | .ifElse condition _ _ id => .ifElse condition body (bodies.getD 1 []) id
  | .switch subject _ _ id =>
    .switch subject (n.caseValues.zip bodies) (bodies.getD n.caseValues.length []) id
  | .forRange var bound _ id => .forRange var bound body id
  | .whileLoop condition _ id => .whileLoop condition body id
  | .function name params _ id => .function name params body id
  | .classDef name base _ id => .classDef name base body id
  | s => s

end Node

/-- Where the sequence goes on after a block. After a branch it only goes on by the handle `next`;
after a loop, or a definition that is expanded, by `next` or else by the first arrow that does not
start its body; after anything else by the first arrow. -/
def Diagram.successor? (g : Diagram) (expand : Bool) (n : Node) : Option Text :=
  let nextOrOther (handle : Text) :=
    (g.handleTarget? n.id "next").or (g.otherTarget? n.id handle)
  match n.kind, expand with
  | .ifElse, _ | .switch, _ => g.handleTarget? n.id "next"
  | .forRange, _ | .whileLoop, _ => nextOrOther "loopBody"
  | .functionDefine, true => nextOrOther "body"
  | .classDefine, true => nextOrOther "members"
  | _, _ => g.firstTarget? n.id

end BlockFlow
