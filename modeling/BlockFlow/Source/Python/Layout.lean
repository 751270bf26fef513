import BlockFlow.Source.Line
import BlockFlow.Source.Marking
import BlockFlow.Source.Python.Expression

/-!
# Laying out Python

The lines of statements and programs in Python. A block is what stands one level deeper than its
header, so an empty block is given a `pass`. Python has no declarations: both forms of a statement
that introduces a variable read the same.
-/

namespace BlockFlow.Python

open Line (plain header branch blank indent)

/-- A block one level deeper than its header: the lines of its statements, or a `pass` if there are
no statements. -/
def suite (statements : List (Statement Form)) (body : List Line) : List Line :=
  indent (if statements.isEmpty then [plain "pass"] else body)

/-- The branch of a statement that is taken when no other is, if there is anything in it. -/
def elseLines (statements : List (Statement Form)) (body : List Line) : List Line :=
  if statements.isEmpty then [] else branch "else:" :: suite statements body

/-- The test of a case of a switch. -/
def caseTest (subject value : Text) : Text :=
  subject ++ " == " ++ formatValue value ""

/-- Texts separated by commas. -/
def commaList (texts : List Text) : Text :=
  Text.joined ", " texts

/-- An assignment. The increments inside it follow on lines of their own, but a text or character
value is taken as it is. -/
def assignment (name value tag : Text) : List Line :=
  let kind := Text.lower (Text.trim tag)
  if kind = "string" || kind = "char" then [plain (name ++ " = " ++ formatValue value tag)]
  else
    let target := splitIncrements name
    let source := splitIncrements value
    plain (target.1 ++ " = " ++ formatValue source.1 tag) :: (target.2 ++ source.2).map plain

/-- A text without the pairs of brackets that mark arrays. -/
def dropBrackets : Text → Text
  | [] => []
  | .char '[' :: .char ']' :: rest => dropBrackets rest
  | c :: rest => c :: dropBrackets rest

/-- The names of parameters, without array brackets; a method starts with `self`. -/
def paramNames (isMember : Bool) (params : List Param) : List Text :=
  let names := params.map fun p => dropBrackets p.name
  if isMember && names.head? != some (Text.ofString "self") then "self" :: names else names

/-- The header of a function or of a method of a class. -/
def methodHeader (isMember : Bool) (name : Text) (params : List Param) : Line :=
  header ("def " ++ name ++ "(" ++ commaList (paramNames isMember params) ++ "):")

/-- The base class in the header of a class. -/
def baseClause (base : Text) : Text :=
  if base = "" then "" else "(" ++ base ++ ")"

/-- The line that stands for an unknown statement. -/
def placeholder (kind : Text) : Line :=
  ⟨0, .placeholder kind, "pass  # Unsupported node type for Python: " ++ kind⟩

mutual

/-- The lines of a statement. -/
def lines : Statement Form → List Line
  | .declare _ name value dataType _ => assignment name value dataType
  | .update name value _ => assignment name value ""
  | .arrayValues _ name dataType values _ =>
    [plain (name ++ " = [" ++ commaList (values.map (formatValue · dataType)) ++ "]")]
  | .arraySize _ name dataType size _ =>
    [plain (name ++ " = [" ++ initialValue dataType ++ "] * " ++ spell size)]
  | .print value _ => [plain ("print(" ++ formatValue value "" ++ ")")]
  | .ifElse condition body orElse _ =>
    header ("if " ++ spell condition ++ ":") :: suite body (linesAll body)
      ++ elseLines orElse (linesAll orElse)
  | .switch subject cases otherwise _ =>
    match cases with
    | [] =>
      -- Only a default, or nothing: it always runs.
      if otherwise.isEmpty then [plain "pass  # empty switch"] else linesAll otherwise
    | (value, body) :: rest =>
      header ("if " ++ caseTest subject value ++ ":") :: suite body (linesAll body)
        ++ linesCases subject rest
        ++ elseLines otherwise (linesAll otherwise)
  | .forRange var bound body _ =>
    header ("for " ++ var ++ " in range(" ++ spell bound ++ "):") :: suite body (linesAll body)
  | .whileLoop condition body _ =>
    header ("while " ++ spell condition ++ ":") :: suite body (linesAll body)
  | .function name params body _ => methodHeader false name params :: suite body (linesAll body)
  | .call name args _ => [plain (name ++ "(" ++ commaList args ++ ")")]
  | .classDef name base members _ =>
    header ("class " ++ name ++ baseClause base ++ ":") :: suite members (linesMembers members)
  | .create var className args _ =>
    [plain (var ++ " = " ++ className ++ "(" ++ commaList args ++ ")")]
  | .unknown kind _ _ => [placeholder kind]

/-- The lines of a list of statements. -/
def linesAll : List (Statement Form) → List Line
  | [] => []
  | s :: rest => lines s ++ linesAll rest

/-- The lines of the cases of a switch after the first. -/
def linesCases (subject : Text) : List (Text × List (Statement Form)) → List Line
  | [] => []
  | (value, body) :: rest =>
    branch ("elif " ++ caseTest subject value ++ ":") :: suite body (linesAll body)
      ++ linesCases subject rest

/-- The lines of the members of a class, whose functions are its methods. -/
def linesMembers : List (Statement Form) → List Line
  | [] => []
  | .function name params body _ :: rest =>
    methodHeader true name params :: suite body (linesAll body) ++ linesMembers rest
  | s :: rest => lines s ++ linesMembers rest

end

theorem linesAll_eq_flatMap (ss : List (Statement Form)) : linesAll ss = ss.flatMap lines := by
  induction ss with
  | nil => simp [linesAll]
  | cons s rest ih => simp [linesAll, ih]

/-- The lines of a program. -/
def programLines (p : Program Form) : List Line :=
  (p.classes ++ p.functions).flatMap (fun s => lines s ++ [blank, blank])
    ++ header "def main():" :: suite p.body (linesAll p.body)
    ++ [blank, blank]
    ++ header "if __name__ == \"__main__\":" :: indent [plain "main()"]

end BlockFlow.Python
