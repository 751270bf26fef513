import BlockFlow.Diagram.Basic
import BlockFlow.Log

/-!
# Loading diagrams

A permissive reader for the editor's JSON. What is not a block or an arrow is dropped and reported;
only a value that holds no entries at all is refused.
-/

namespace BlockFlow

/-- The id field of an entry as text, if it has one. -/
def Json.Fields.text? (fields : Json.Fields) (key : Text) : Option Text :=
  match Json.Fields.get fields key with
  | .null => none
  | j => some j.text

/-- A block from its JSON form, which has to be an object with an id. -/
def Node.ofJson? : Json → Option Node
  | .obj fields => do
    let id ← Json.Fields.text? fields "id"
    let typeName := Json.Fields.get fields "type"
    let data :=
      match Json.Fields.get fields "data" with
      | .obj data => data
      | _ => []
    return ⟨id, if typeName.isFilled then typeName.text else "", data⟩
  | _ => none

/-- An arrow from its JSON form, which has to be an object with a source and a target. -/
def Edge.ofJson? : Json → Option Edge
  | .obj fields => do
    let source ← Json.Fields.text? fields "source"
    let target ← Json.Fields.text? fields "target"
    return {
      source, target
      sourceHandle := Json.Fields.get fields "sourceHandle"
      targetHandle := Json.Fields.get fields "targetHandle"
      id := Json.Fields.text? fields "id" }
  | _ => none

/-- What is reported about an entry of the block list. -/
def Node.remark? (entry : Json) : Option Log.Entry :=
  if (Node.ofJson? entry).isSome then none
  else some ⟨.debug, .loading, "Dropping malformed node entry: " ++ entry.shown⟩

/-- What is reported about an entry of the arrow list. -/
def Edge.remark? (entry : Json) : Option Log.Entry :=
  if (Edge.ofJson? entry).isSome then none
  else if entry.isObject then
    some ⟨.debug, .loading, "Dropping edge without endpoints: " ++ entry.shown⟩
  else some ⟨.debug, .loading, "Dropping malformed edge entry: " ++ entry.shown⟩

/-- The entries of a value: the items of a list, the keys of an object, the characters of a text.
A value that is not filled in has none; a truth value or a number is refused. -/
def Json.entries? : Json → Option (List Json)
  | .null => some []
  | .bool b => if b then none else some []
  | .int n => if n = 0 then some [] else none
  | .float x => if x == 0.0 then some [] else none
  | .str s => some (s.map fun c => .str [c])
  | .arr items => some items
  | .obj fields => some (fields.map fun field => .str field.1)

/-- A value that should have entries has none to give. -/
structure NotIterable where
  typeName : String
deriving DecidableEq, Repr

/-- The wording of the refusal. -/
def NotIterable.message (e : NotIterable) : String :=
  "'" ++ e.typeName ++ "' object is not iterable"

/-- The entries of a value, or the reason why there are none. -/
def Json.entries (j : Json) : Except NotIterable (List Json) :=
  match j.entries? with
  | some entries => .ok entries
  | none => .error ⟨j.typeName⟩

namespace Diagram

/-- The diagram of two lists of entries; what cannot be read is left out. -/
def ofEntries (nodes edges : List Json) : Diagram :=
  ⟨nodes.filterMap Node.ofJson?, edges.filterMap Edge.ofJson?⟩

/-- Loads a diagram, and reports what was dropped up to the point where loading ended. -/
def load (nodes edges : Json) : Except NotIterable Diagram × List Log.Entry :=
  match nodes.entries with
  | .error e => (.error e, [])
  | .ok nodes =>
    let remarks := nodes.filterMap Node.remark?
    match edges.entries with
    | .error e => (.error e, remarks)
    | .ok edges => (.ok (ofEntries nodes edges), remarks ++ edges.filterMap Edge.remark?)

end Diagram

end BlockFlow
