import BlockFlow.Json.Display
import BlockFlow.Program.Basic

/-!
# Programs as JSON

The saved form of a program and its reader. The reader takes every statement it is given: what it
does not recognise becomes an unknown statement that keeps its data.
-/

namespace BlockFlow

/-- The tags of statements in saved programs. -/
inductive Tag where
  | declare
  | update
  | arrayValues
  | arraySize
  | print
  | ifElse
  | switch
  | forRange
  | whileLoop
  | function
  | call
  | classDef
  | create
  | unknown
deriving DecidableEq, Repr

namespace Tag

/-- The name a tag is saved under. -/
def name : Tag → String
  | .declare => "variable_declaration"
  | .update => "variable_update"
  | .arrayValues => "array_assign_values"
  | .arraySize => "array_assign_size"
  | .print => "print"
  | .ifElse => "if"
  | .switch => "switch"
  | .forRange => "for"
  | .whileLoop => "while"
  | .function => "function_define"
  | .call => "function_call"
  | .classDef => "class_define"
  | .create => "object_creation"
  | .unknown => "unknown"

/-- The tag of a name; two tags have a second name. -/
def ofName? : String → Option Tag
  | "variable_declaration" => some .declare
  | "assign" => some .declare
  | "variable_update" => some .update
  | "assign2" => some .update
  | "array_assign_values" => some .arrayValues
  | "array_assign_size" => some .arraySize
  | "print" => some .print
  | "if" => some .ifElse
  | "switch" => some .switch
  | "for" => some .forRange
  | "while" => some .whileLoop
  | "function_define" => some .function
  | "function_call" => some .call
  | "class_define" => some .classDef
  | "object_creation" => some .create
  | "unknown" => some .unknown
  | _ => none

/-- The tag of a saved statement. -/
def ofJson? : Json → Option Tag
  | .str s => (Text.string? s).bind ofName?
  | _ => none

end Tag

namespace Statement

/-- The tag a statement is saved under. -/
def tag {δ : Type} : Statement δ → Tag
  | .declare .. => .declare
  | .update .. => .update
  | .arrayValues .. => .arrayValues
  | .arraySize .. => .arraySize
  | .print .. => .print
  | .ifElse .. => .ifElse
  | .switch .. => .switch
  | .forRange .. => .forRange
  | .whileLoop .. => .whileLoop
  | .function .. => .function
  | .call .. => .call
  | .classDef .. => .classDef
  | .create .. => .create
  | .unknown .. => .unknown

/-! ## Saving -/

/-- A list of texts. -/
def textsJson (texts : List Text) : Json :=
  .arr (texts.map .str)

/-- A parameter as it is saved. -/
def paramJson (p : Param) : Json :=
  .obj [("type", .str p.typeName), ("name", .str p.name)]

/-- The id of a statement as the last field of its saved form; without an id there is no field. -/
def idFields : Option Text → Json.Fields
  | none => []
  | some id => [("id", .str id)]

/-- The base class of a class; without one there is no field. -/
def baseFields (base : Text) : Json.Fields :=
  if base = "" then [] else [("inherits", .str base)]

/-- A saved statement: the tag, the fields and the id. -/
def saved (tag : Tag) (fields : Json.Fields) (id : Option Text) : Json :=
  .obj (("type", .str tag.name) :: (fields ++ idFields id))

mutual

/-- The saved form of a statement. -/
def toJson {δ : Type} : Statement δ → Json
  | .declare _ name value dataType id =>
    saved .declare [("var", .str name), ("value", .str value), ("dataType", .str dataType)] id
  | .update name value id => saved .update [("var", .str name), ("value", .str value)] id
  | .arrayValues _ name dataType values id =>
    saved .arrayValues
      [("var", .str name), ("dataType", .str dataType), ("values", textsJson values)] id
  | .arraySize _ name dataType size id =>
    saved .arraySize [("var", .str name), ("dataType", .str dataType), ("size", .str size)] id
  | .print value id => saved .print [("value", .str value)] id
  | .ifElse condition body orElse id =>
    saved .ifElse
      [("condition", .str condition), ("body", .arr (toJsonAll body)),
        ("elseBody", .arr (toJsonAll orElse))] id
  | .switch subject cases otherwise id =>
    saved .switch
      [("var", .str subject), ("cases", .arr (toJsonCases cases)),
        ("defaultBody", .arr (toJsonAll otherwise))] id
  | .forRange var bound body id =>
    saved .forRange
      [("var", .str var), ("range", .str bound), ("body", .arr (toJsonAll body))] id
  | .whileLoop condition body id =>
    saved .whileLoop [("condition", .str condition), ("body", .arr (toJsonAll body))] id
  | .function name params body id =>
    saved .function
      [("name", .str name), ("params", .arr (params.map paramJson)),
        ("body", .arr (toJsonAll body))] id
  | .call name args id => saved .call [("name", .str name), ("args", textsJson args)] id
  | .classDef name base members id =>
    saved .classDef
      (("name", .str name) :: ("members", .arr (toJsonAll members)) :: baseFields base) id
  | .create var className args id =>
    saved .create
      [("var", .str var), ("className", .str className), ("args", textsJson args)] id
  | .unknown kind data id => saved .unknown [("kind", .str kind), ("data", .obj data)] id

/-- The saved forms of a list of statements. -/
def toJsonAll {δ : Type} : List (Statement δ) → List Json
  | [] => []
  | s :: rest => toJson s :: toJsonAll rest

/-- The saved forms of the cases of a switch. -/
def toJsonCases {δ : Type} : List (Text × List (Statement δ)) → List Json
  | [] => []
  | (value, body) :: rest =>
    .obj [("value", .str value), ("body", .arr (toJsonAll body))] :: toJsonCases rest

end

/-! ## Loading -/

/-- The texts of a list-valued field; anything but a list has none. -/
def textsAt (fields : Json.Fields) (key : Text) : List Text :=
  match Json.Fields.get fields key with
  | .arr items => items.map Json.text
  | _ => []

/-- A saved parameter. It needs a name; without a type it is a variable of any type. -/
def paramOfJson? : Json → Option Param
  | .obj fields =>
    let name := Json.Fields.get fields "name"
    let typeName := Json.Fields.get fields "type"
    if name.isFilled then
      some ⟨if typeName.isFilled then typeName.text else "var", name.text⟩
    else none
  | _ => none

/-- The parameters of a list-valued field. -/
def paramsAt (fields : Json.Fields) (key : Text) : List Param :=
  match Json.Fields.get fields key with
  | .arr items => items.filterMap paramOfJson?
  | _ => []

/-- The id of a saved statement. -/
def idOf (fields : Json.Fields) : Option Text :=
  match Json.Fields.get fields "id" with
  | .null => none
  | j => some j.text

/-- The data of a saved unknown statement. -/
def dataOf (fields : Json.Fields) : Json.Fields :=
  match Json.Fields.get fields "data" with
  | .obj data => data
  | _ => []

mutual

/-- Loads a statement. -/
def ofJson : Json → Statement Unit
  | .obj fields =>
    let text := Json.Fields.text fields
    let id := idOf fields
    match Tag.ofJson? (Json.Fields.get fields "type") with
    | some .declare => .declare () (text "var") (text "value") (text "dataType") id
    | some .update => .update (text "var") (text "value") id
    | some .arrayValues =>
      .arrayValues () (text "var") (text "dataType") (textsAt fields "values") id
    | some .arraySize => .arraySize () (text "var") (text "dataType") (text "size") id
    | some .print => .print (text "value") id
    | some .ifElse =>
      .ifElse (text "condition") (statementsAt "body" fields) (statementsAt "elseBody" fields) id
    | some .switch =>
      .switch (text "var") (casesAt "cases" fields) (statementsAt "defaultBody" fields) id
    | some .forRange => .forRange (text "var") (text "range") (statementsAt "body" fields) id
    | some .whileLoop => .whileLoop (text "condition") (statementsAt "body" fields) id
    | some .function =>
      .function (text "name") (paramsAt fields "params") (statementsAt "body" fields) id
    | some .call => .call (text "name") (textsAt fields "args") id
    | some .classDef =>
      .classDef (text "name") (text "inherits") (statementsAt "members" fields) id
    | some .create => .create (text "var") (text "className") (textsAt fields "args") id
    | some .unknown =>
      .unknown (if text "kind" = "" then "unknown" else text "kind") (dataOf fields) id
    | none => .unknown (Json.Fields.get fields "type").text fields id
  | j => .unknown j.typeName [("value", j)] none
termination_by structural j => j

/-- Loads the statements of a list-valued field. -/
def statementsAt (key : Text) : List (Text × Json) → List (Statement Unit)
  | [] => []
  | (k, value) :: rest => if k = key then statements value else statementsAt key rest
termination_by structural fields => fields

/-- Loads a list of statements; anything but a list has none. -/
def statements : Json → List (Statement Unit)
  | .arr items => ofJsonAll items
  | _ => []
termination_by structural j => j

/-- Loads every item of a list as a statement. -/
def ofJsonAll : List Json → List (Statement Unit)
  | [] => []
  | item :: rest => ofJson item :: ofJsonAll rest
termination_by structural items => items

/-- Loads the cases of a list-valued field. -/
def casesAt (key : Text) : List (Text × Json) → List (Text × List (Statement Unit))
  | [] => []
  | (k, value) :: rest => if k = key then cases value else casesAt key rest
termination_by structural fields => fields

/-- Loads a list of cases; anything but a list has none. -/
def cases : Json → List (Text × List (Statement Unit))
  | .arr items => ofJsonCases items
  | _ => []
termination_by structural j => j

/-- Loads every object of a list as a case. -/
def ofJsonCases : List Json → List (Text × List (Statement Unit))
  | [] => []
  | .obj fields :: rest =>
    (Json.Fields.text fields "value", statementsAt "body" fields) :: ofJsonCases rest
  | _ :: rest => ofJsonCases rest
termination_by structural items => items

end

/-- The statements of a field are read from its value. -/
theorem statementsAt_eq (key : Text) (fields : Json.Fields) :
    statementsAt key fields = statements (Json.Fields.get fields key) := by
  induction fields with
  | nil => simp [statementsAt, statements]
  | cons field rest ih =>
    rw [statementsAt, Json.Fields.get_cons, ih]
    split <;> rfl

/-- So are the cases of a switch. -/
theorem casesAt_eq (key : Text) (fields : Json.Fields) :
    casesAt key fields = cases (Json.Fields.get fields key) := by
  induction fields with
  | nil => simp [casesAt, cases]
  | cons field rest ih =>
    rw [casesAt, Json.Fields.get_cons, ih]
    split <;> rfl

end Statement

namespace Program

/-- The saved form of a program. -/
def toJson {δ : Type} (p : Program δ) : Json :=
  .obj [("type", .str "program"), ("classes", .arr (Statement.toJsonAll p.classes)),
    ("functions", .arr (Statement.toJsonAll p.functions)),
    ("body", .arr (Statement.toJsonAll p.body))]

/-- Why a value is not a saved program. -/
inductive LoadError where
  /-- It is not even an object. -/
  | notAnObject
  /-- It does not say that it is a program. -/
  | notAProgram
deriving DecidableEq, Repr

/-- The wording of a load error. -/
def LoadError.message : LoadError → String
  | .notAnObject => "Invalid IR format: expected a program."
  | .notAProgram => "Invalid IR format: expected an object with type 'program'."

/-- Loads a program from its saved form, which has to say that it is one. -/
def ofJson : Json → Except LoadError (Program Unit)
  | .obj fields =>
    if Json.Fields.get fields "type" = .str "program" then
      .ok {
        classes := Statement.statementsAt "classes" fields
        functions := Statement.statementsAt "functions" fields
        body := Statement.statementsAt "body" fields }
    else .error .notAProgram
  | _ => .error .notAProgram

/-- Loads the program that a caller hands over; only an object can be a program. -/
def load (j : Json) : Except LoadError (Program Unit) :=
  if j.isObject then ofJson j else .error .notAnObject

end Program

end BlockFlow
