import BlockFlow.Json.Display

/-!
# Diagrams

A diagram is what the visual editor delivers: blocks with typed data and arrows between them. An
arrow leaves a block by a handle, which says which branch of the block it starts.
-/

namespace BlockFlow

/-- What a block is. -/
inductive Kind where
  | variableDeclare
  | variableUpdate
  | arrayValues
  | arraySize
  | print
  | ifElse
  | switch
  | forRange
  | whileLoop
  | functionDefine
  | functionCall
  | classDefine
  | objectCreate
  | entry
  | unknown
deriving DecidableEq, Repr

namespace Kind

/-- The name of a kind. -/
def name : Kind → String
  | .variableDeclare => "variableDeclare"
  | .variableUpdate => "variableUpdate"
  | .arrayValues => "arrayValues"
  | .arraySize => "arraySize"
  | .print => "print"
  | .ifElse => "if"
  | .switch => "switch"
  | .forRange => "for"
  | .whileLoop => "while"
  | .functionDefine => "functionDefine"
  | .functionCall => "functionCall"
  | .classDefine => "classDefine"
  | .objectCreate => "createObject"
  | .entry => "input"
  | .unknown => "unknown"

/-- The kind that a name stands for. -/
def ofName : String → Kind
  | "assign" => .variableDeclare
  | "variableDeclare" => .variableDeclare
  | "assign2" => .variableUpdate
  | "variableUpdate" => .variableUpdate
  | "arrayValues" => .arrayValues
  | "arraySize" => .arraySize
  | "print" => .print
  | "if" => .ifElse
  | "switch" => .switch
  | "for" => .forRange
  | "while" => .whileLoop
  | "functionDefine" => .functionDefine
  | "functionCall" => .functionCall
  | "classDefine" => .classDefine
  | "createObject" => .objectCreate
  | "input" => .entry
  | "start" => .entry
  | "entry" => .entry
  | _ => .unknown

/-- The kind of a block by its type alone. -/
def ofTypeName (typeName : Text) : Kind :=
  ((Text.string? typeName).map ofName).getD .unknown

/-- Whether the data of an array block gives its size. -/
def declaresSize (data : Json.Fields) : Bool :=
  let declaration := Json.Fields.get data "declarationType"
  declaration.isFilled && declaration.text == "size"

/-- The kind of a block by its type and data. -/
def resolve (typeName : Text) (data : Json.Fields) : Kind :=
  if typeName = "array" then
    if declaresSize data then .arraySize else .arrayValues
  else ofTypeName typeName

end Kind

/-- A block. -/
structure Node where
  id : Text
  typeName : Text
  data : Json.Fields
deriving DecidableEq

/-- The kind of a block. -/
def Node.kind (n : Node) : Kind :=
  Kind.resolve n.typeName n.data

/-- The text of a data field, empty when it is null or missing. -/
def Node.text (n : Node) (key : Text) : Text :=
  Json.Fields.text n.data key

/-- An arrow between blocks. A handle is whatever value the editor gave it. -/
structure Edge where
  source : Text
  target : Text
  sourceHandle : Json
  targetHandle : Json
  id : Option Text
deriving DecidableEq

/-- Whether an arrow leaves its block by a handle. -/
def Edge.leavesBy (e : Edge) (handle : Text) : Bool :=
  decide (e.sourceHandle = .str handle)

/-- A diagram. -/
structure Diagram where
  nodes : List Node
  edges : List Edge
deriving DecidableEq

namespace Diagram

/-- The block with an id; of several the first. -/
def node? (g : Diagram) (id : Text) : Option Node :=
  g.nodes.find? (·.id == id)

/-- The arrows that leave a block, in order. -/
def outgoing (g : Diagram) (id : Text) : List Edge :=
  g.edges.filter (·.source == id)

/-- The target of the first arrow that leaves a block by a handle. -/
def handleTarget? (g : Diagram) (id handle : Text) : Option Text :=
  ((g.outgoing id).find? (·.leavesBy handle)).map (·.target)

/-- The target of the first arrow that leaves a block by any other handle. -/
def otherTarget? (g : Diagram) (id handle : Text) : Option Text :=
  ((g.outgoing id).find? (!·.leavesBy handle)).map (·.target)

/-- The target of the first arrow that leaves a block. -/
def firstTarget? (g : Diagram) (id : Text) : Option Text :=
  (g.outgoing id).head?.map (·.target)

/-- The block where the main body starts: the first of entry kind, else the first called `start`. -/
def entry? (g : Diagram) : Option Node :=
  (g.nodes.find? (·.kind == .entry)).or (g.nodes.find? (·.id == "start"))

end Diagram

end BlockFlow
