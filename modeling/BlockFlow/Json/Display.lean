import BlockFlow.Decimal.Layout
import BlockFlow.Json.Basic
import BlockFlow.Text.Quoted

/-!
# Values as text

The text a value stands for where the editor's data is read as text. A string is itself; inside a
list or an object every string is quoted.
-/

namespace BlockFlow.Json

mutual

/-- A value as it is shown inside another one or inside a message. -/
def shown : Json → Text
  | .null => "None"
  | .bool b => if b then "True" else "False"
  | .int n => toString n
  | .float x => Decimal.floatText .plain x
  | .str s => Text.quoted s
  | .arr items => "[" ++ Text.joined ", " (shownItems items) ++ "]"
  | .obj fields => "\x7b" ++ Text.joined ", " (shownFields fields) ++ "\x7d"

/-- The items of a list, each as it is shown. -/
def shownItems : List Json → List Text
  | [] => []
  | item :: rest => shown item :: shownItems rest

/-- The fields of an object, each as it is shown. -/
def shownFields : List (Text × Json) → List Text
  | [] => []
  | (key, value) :: rest => (Text.quoted key ++ ": " ++ shown value) :: shownFields rest

end

/-- The text a value stands for. -/
def text : Json → Text
  | .str s => s
  | j => shown j

/-- The text a field stands for, empty when it is null or missing. -/
def Fields.text (fields : Fields) (key : Text) : Text :=
  match Fields.get fields key with
  | .null => ""
  | j => j.text

/-- What kind of value this is, in the words of messages. -/
def typeName : Json → String
  | .null => "NoneType"
  | .bool _ => "bool"
  | .int _ => "int"
  | .float _ => "float"
  | .str _ => "str"
  | .arr _ => "list"
  | .obj _ => "dict"

end BlockFlow.Json
