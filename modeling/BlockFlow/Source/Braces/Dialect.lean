import BlockFlow.Source.Language
import BlockFlow.Source.Line
import BlockFlow.Source.Marking
import BlockFlow.Text.Blank
import BlockFlow.Text.Case
import BlockFlow.Text.Quoted

/-!
# The brace languages

C#, C++ and Java share their block structure and differ in the names of types and in the lines for
output, arrays, objects, methods and classes. This module holds those lines.
-/

namespace BlockFlow.Braces

/-- A language whose blocks stand in braces. -/
inductive Dialect where
  | csharp
  | cpp
  | java
deriving DecidableEq, Repr

namespace Dialect

/-- The language of a dialect. -/
def language : Dialect → Language
  | .csharp => .csharp
  | .cpp => .cpp
  | .java => .java

/-! ## Types and values -/

/-- The type of a variable whose type is left open. -/
def inferredType : Dialect → String
  | .cpp => "auto"
  | _ => "var"

/-- The type of the elements of an array whose type is left open. -/
def arrayFallback : Dialect → String
  | .csharp => "object"
  | .cpp => "int"
  | .java => "Object"

/-- The type a lower-case tag stands for. -/
def builtinType? : Dialect → String → Option String
  | .java, "string" => some "String"
  | _, "string" => some "string"
  | .java, "boolean" => some "boolean"
  | .java, "bool" => some "boolean"
  | _, "boolean" => some "bool"
  | _, "bool" => some "bool"
  | _, "int" => some "int"
  | _, "float" => some "float"
  | _, "double" => some "double"
  | _, "char" => some "char"
  | _, _ => none

/-- The declared type of a tag. Case does not matter; an unknown tag is the name of a class. -/
def typeOf (d : Dialect) (tag : Text) : Text :=
  let name := Text.trim tag
  if name = "" || name = "var" then d.inferredType
  else
    match (Text.string? (Text.lower name)).bind d.builtinType? with
    | some builtin => builtin
    | none => name

/-- The type of the elements of an array. -/
def elementType (d : Dialect) (tag : Text) : Text :=
  if Text.trim tag = "" then d.arrayFallback else d.typeOf tag

/-- A value of a tagged type: texts are quoted, truth values in lower case, a single character in
single quotes, and everything else stays as it was typed. -/
def formatValue (value tag : Text) : Text :=
  let kind := Text.lower (Text.trim tag)
  let word := Text.lower (Text.trim value)
  if kind = "string" then Text.literal "\"" value
  else if (kind = "boolean" || kind = "bool") && (word = "true" || word = "false") then word
  else if kind = "char" && value.length = 1 then "'" ++ value ++ "'"
  else value

/-- Texts separated by commas. -/
def commaList (texts : List Text) : Text :=
  Text.joined ", " texts

/-! ## Lines -/

/-- The line that introduces a variable, in either form. -/
def variableLine (d : Dialect) (form : Form) (name value tag : Text) : Text :=
  let value := formatValue value tag
  match form with
  | .declaring =>
    if value = "" then d.typeOf tag ++ " " ++ name ++ ";"
    else d.typeOf tag ++ " " ++ name ++ " = " ++ value ++ ";"
  | .assigning => name ++ " = " ++ value ++ ";"

/-- The line that introduces an array with given values, in either form. -/
def arrayValuesLine (d : Dialect) (form : Form) (name element values : Text) : Text :=
  match d, form with
  | .csharp, .declaring => element ++ "[] " ++ name ++ " = \x7b " ++ values ++ " \x7d;"
  | .csharp, .assigning => name ++ " = new " ++ element ++ "[] \x7b " ++ values ++ " \x7d;"
  | .cpp, .declaring => element ++ " " ++ name ++ "[] = \x7b" ++ values ++ "\x7d;"
  | .cpp, .assigning => "// Warning: cannot reassign C-style array " ++ name
  | .java, .declaring => element ++ "[] " ++ name ++ " = \x7b" ++ values ++ "\x7d;"
  | .java, .assigning => name ++ " = new " ++ element ++ "[]\x7b" ++ values ++ "\x7d;"

/-- The line that introduces an array of a given size, in either form. -/
def arraySizeLine (d : Dialect) (form : Form) (name element size : Text) : Text :=
  match d, form with
  | .cpp, .declaring => element ++ " " ++ name ++ "[" ++ size ++ "] = \x7b\x7d;"
  | .cpp, .assigning => "// Warning: cannot resize C-style array " ++ name
  | _, .declaring => element ++ "[] " ++ name ++ " = new " ++ element ++ "[" ++ size ++ "];"
  | _, .assigning => name ++ " = new " ++ element ++ "[" ++ size ++ "];"

/-- The line that prints a value. -/
def printLine (d : Dialect) (value : Text) : Text :=
  match d with
  | .csharp => "Console.WriteLine(" ++ value ++ ");"
  | .cpp => "cout << " ++ value ++ " << endl;"
  | .java => "System.out.println(" ++ value ++ ");"

/-- The line that creates an object. In C++ an object without arguments has no parentheses, which
would declare a function. -/
def createLine (d : Dialect) (var className : Text) (args : List Text) : Text :=
  match d with
  | .cpp =>
    if args.isEmpty then className ++ " " ++ var ++ ";"
    else className ++ " " ++ var ++ "(" ++ commaList args ++ ");"
  | _ => className ++ " " ++ var ++ " = new " ++ className ++ "(" ++ commaList args ++ ");"

/-- The parameters of a function. -/
def paramList (d : Dialect) (params : List Param) : Text :=
  commaList (params.map fun p => d.typeOf p.typeName ++ " " ++ p.name)

/-- The header of a function or of a method of a class. -/
def methodHeader (d : Dialect) (isMember : Bool) (name : Text) (params : List Param) : Text :=
  let modifiers :=
    match d with
    | .cpp => "void"
    | _ => if isMember then "public void" else "public static void"
  modifiers ++ " " ++ name ++ "(" ++ d.paramList params ++ ")"

/-- The base class in the header of a class, after the words that introduce it. -/
def baseClause (introduction : String) (base : Text) : Text :=
  if base = "" then "" else introduction ++ base

/-- The lines that open a class. -/
def classHeader (d : Dialect) (name base : Text) : List Text :=
  match d with
  | .csharp => ["public class " ++ name ++ baseClause " : " base ++ " \x7b"]
  | .cpp => ["class " ++ name ++ baseClause " : public " base ++ " \x7b", "public:"]
  | .java => ["class " ++ name ++ baseClause " extends " base ++ " \x7b"]

/-- The line that closes a class. -/
def classFooter : Dialect → String
  | .cpp => "\x7d;"
  | _ => "\x7d"

/-- Whether each case of a switch has braces of its own. -/
def bracesCases : Dialect → Bool
  | .cpp => true
  | _ => false

/-- The comment that stands for an unknown statement. -/
def placeholder (d : Dialect) (kind : Text) : Line :=
  ⟨0, .placeholder kind, "// Unsupported node type for " ++ d.language.displayName ++ ": " ++ kind⟩

end Dialect

end BlockFlow.Braces
