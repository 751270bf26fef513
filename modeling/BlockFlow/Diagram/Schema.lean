import BlockFlow.Diagram.Basic

/-!
# The schema of saved diagrams

A strict check of a saved diagram before it is compiled. It stops at the first violation. A block
of unknown type is a violation only in strict mode and otherwise a warning.
-/

namespace BlockFlow.Schema

/-- The two lists of a diagram. -/
inductive Part where
  | nodes
  | edges
deriving DecidableEq, Repr

/-- The field that holds a list. -/
def Part.name : Part → String
  | .nodes => "nodes"
  | .edges => "edges"

/-- An entry of a list, as messages name it. -/
def Part.entry (part : Part) (index : Nat) : Text :=
  part.name ++ "[" ++ toString index ++ "]"

/-- How a saved diagram can violate the schema. -/
inductive Violation where
  | notAnObject
  | missingPart (part : Part)
  | notAList (part : Part)
  | entryNotAnObject (part : Part) (index : Nat)
  | missingField (part : Part) (index : Nat) (key : String)
  | notAString (part : Part) (index : Nat) (key : Text)
  | duplicateId (index : Nat) (id : Text)
  | dataNotAnObject (index : Nat)
  | unknownType (index : Nat) (typeName : Text)
  | handleNotAString (index : Nat) (key : Text)
  | unknownEndpoint (index : Nat) (key id : Text)
deriving DecidableEq, Repr

/-- The wording of a violation. -/
def Violation.message : Violation → Text
  | .notAnObject => "graph JSON must be a JSON object at the top level"
  | .missingPart part => "graph root: missing required field '" ++ part.name ++ "'"
  | .notAList part => part.name ++ " must be a list"
  | .entryNotAnObject .nodes i => Part.nodes.entry i ++ ": each node must be a JSON object"
  | .entryNotAnObject .edges i => Part.edges.entry i ++ ": each edge must be a JSON object"
  | .missingField part i key => part.entry i ++ ": missing required field '" ++ key ++ "'"
  | .notAString part i key => part.entry i ++ "." ++ key ++ " must be a string"
  | .duplicateId i id => Part.nodes.entry i ++ ": duplicate node id '" ++ id ++ "'"
  | .dataNotAnObject i => Part.nodes.entry i ++ ".data must be an object"
  | .unknownType i typeName =>
    Part.nodes.entry i ++ ": unknown node type '" ++ typeName ++ "'"
  | .handleNotAString i key => Part.edges.entry i ++ "." ++ key ++ " must be a string or null"
  | .unknownEndpoint i key id =>
    Part.edges.entry i ++ ": " ++ key ++ " '" ++ id ++ "' not found in nodes"

/-- A block of unknown type that is let through. -/
structure Warning where
  index : Nat
  typeName : Text
deriving DecidableEq, Repr

/-- The wording of a warning. -/
def Warning.message (w : Warning) : Text :=
  (Violation.unknownType w.index w.typeName).message
    ++ " (it will compile to a placeholder comment)"

/-- The diagram inside a saved project, or the value itself when it is no project. -/
def unwrap (j : Json) : Json :=
  match j with
  | .obj fields =>
    if Json.Fields.has fields "nodes" then j
    else
      match Json.Fields.get fields "diagram" with
      | .obj diagram => .obj diagram
      | _ => j
  | _ => j

/-- Fails unless a condition holds. -/
def require (condition : Bool) (violation : Violation) : Except Violation Unit :=
  if condition then .ok () else .error violation

/-- The text of a field, which has to be a string. -/
def stringAt (fields : Json.Fields) (key : Text) (violation : Violation) :
    Except Violation Text :=
  match Json.Fields.get fields key with
  | .str s => .ok s
  | _ => .error violation

/-- The fields of an entry, which has to be an object. -/
def fieldsOf (entry : Json) (violation : Violation) : Except Violation Json.Fields :=
  match entry with
  | .obj fields => .ok fields
  | _ => .error violation

/-- Checks an entry of the block list against the ids before it. Gives its id and a warning when its
type is unknown. -/
def checkNode (strict : Bool) (ids : List Text) (index : Nat) (entry : Json) :
    Except Violation (Text × Option Warning) := do
  let fields ← fieldsOf entry (.entryNotAnObject .nodes index)
  require (Json.Fields.has fields "id") (.missingField .nodes index "id")
  require (Json.Fields.has fields "type") (.missingField .nodes index "type")
  let id ← stringAt fields "id" (.notAString .nodes index "id")
  let typeName ← stringAt fields "type" (.notAString .nodes index "type")
  require (!ids.contains id) (.duplicateId index id)
  let data := Json.Fields.get fields "data"
  require (!Json.Fields.has fields "data" || data.isObject) (.dataNotAnObject index)
  let dataFields :=
    match data with
    | .obj fields => fields
    | _ => []
  if Kind.resolve typeName dataFields = .unknown then
    require (!strict) (.unknownType index typeName)
    return (id, some ⟨index, typeName⟩)
  else return (id, none)

/-- Checks the block list from an index on. Gives the warnings up to the first violation, and the
ids when there is none. -/
def checkNodes (strict : Bool) (ids : List Text) (index : Nat) :
    List Json → List Warning × Except Violation (List Text)
  | [] => ([], .ok ids)
  | entry :: rest =>
    match checkNode strict ids index entry with
    | .error violation => ([], .error violation)
    | .ok (id, warning) =>
      let checked := checkNodes strict (id :: ids) (index + 1) rest
      (warning.toList ++ checked.1, checked.2)

/-- Checks that a handle is a string or null. -/
def checkHandle (fields : Json.Fields) (index : Nat) (key : Text) : Except Violation Unit :=
  match Json.Fields.get fields key with
  | .null => .ok ()
  | .str _ => .ok ()
  | _ => .error (.handleNotAString index key)

/-- Checks an entry of the arrow list against the ids of the blocks. -/
def checkEdge (ids : List Text) (index : Nat) (entry : Json) : Except Violation Unit := do
  let fields ← fieldsOf entry (.entryNotAnObject .edges index)
  require (Json.Fields.has fields "source") (.missingField .edges index "source")
  require (Json.Fields.has fields "target") (.missingField .edges index "target")
  let source ← stringAt fields "source" (.notAString .edges index "source")
  let target ← stringAt fields "target" (.notAString .edges index "target")
  checkHandle fields index "sourceHandle"
  checkHandle fields index "targetHandle"
  require (ids.contains source) (.unknownEndpoint index "source" source)
  require (ids.contains target) (.unknownEndpoint index "target" target)

/-- Checks the arrow list from an index on. -/
def checkEdges (ids : List Text) (index : Nat) : List Json → Except Violation Unit
  | [] => .ok ()
  | entry :: rest => do
    checkEdge ids index entry
    checkEdges ids (index + 1) rest

/-- The items of one of the two lists of a diagram. -/
def listAt (fields : Json.Fields) (part : Part) : Except Violation (List Json) :=
  match Json.Fields.get fields part.name with
  | .arr items => .ok items
  | _ => .error (.notAList part)

/-- The two lists of a saved diagram. -/
def parts (j : Json) : Except Violation (List Json × List Json) := do
  let fields ← fieldsOf (unwrap j) .notAnObject
  require (Json.Fields.has fields "nodes") (.missingPart .nodes)
  require (Json.Fields.has fields "edges") (.missingPart .edges)
  let nodes ← listAt fields .nodes
  let edges ← listAt fields .edges
  return (nodes, edges)

/-- Checks a saved diagram. Gives the warnings up to the first violation, and its two lists when
there is none. -/
def validate (strict : Bool) (j : Json) :
    List Warning × Except Violation (List Json × List Json) :=
  match parts j with
  | .error violation => ([], .error violation)
  | .ok (nodes, edges) =>
    let checked := checkNodes strict [] 0 nodes
    match checked.2 with
    | .error violation => (checked.1, .error violation)
    | .ok ids => (checked.1, (checkEdges ids 0 edges).map fun _ => (nodes, edges))

end BlockFlow.Schema
