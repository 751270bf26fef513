import BlockFlow.Source.Braces.Dialect

/-!
# Laying out brace languages

The lines of statements and programs in C#, C++ and Java. Every block is one level deeper than the
lines that hold its braces.
-/

namespace BlockFlow.Braces

open Line (plain blank indent)

/-- The opening brace after a text. -/
def opened (text : Text) : Line :=
  plain (text ++ " \x7b")

/-- The line of a closing brace. -/
def closed : Line :=
  plain "\x7d"

/-- A block between a line that opens it and the closing brace. -/
def block (text : Text) (body : List Line) : List Line :=
  opened text :: indent body ++ [closed]

/-- A case of a switch, which ends in a break. -/
def caseBlock (d : Dialect) (label : Text) (body : List Line) : List Line :=
  if d.bracesCases then block label (body ++ [plain "break;"])
  else plain label :: indent (body ++ [plain "break;"])

mutual

/-- The lines of a statement. -/
def lines (d : Dialect) : Statement Form → List Line
  | .declare form name value dataType _ => [plain (d.variableLine form name value dataType)]
  | .update name value _ => [plain (name ++ " = " ++ Dialect.formatValue value "" ++ ";")]
  | .arrayValues form name dataType values _ =>
    let values := Dialect.commaList (values.map (Dialect.formatValue · dataType))
    [plain (d.arrayValuesLine form name (d.elementType dataType) values)]
  | .arraySize form name dataType size _ =>
    [plain (d.arraySizeLine form name (d.elementType dataType) size)]
  | .print value _ => [plain (d.printLine value)]
  | .ifElse condition body orElse _ =>
    opened ("if (" ++ condition ++ ")") :: indent (linesAll d body)
      ++ (if orElse.isEmpty then [] else opened "\x7d else" :: indent (linesAll d orElse))
      ++ [closed]
  | .switch subject cases otherwise _ =>
    block ("switch (" ++ subject ++ ")")
      (linesCases d cases
        ++ (if otherwise.isEmpty then [] else caseBlock d "default:" (linesAll d otherwise)))
  | .forRange var bound body _ =>
    block ("for (int " ++ var ++ " = 0; " ++ var ++ " < " ++ bound ++ "; " ++ var ++ "++)")
      (linesAll d body)
  | .whileLoop condition body _ => block ("while (" ++ condition ++ ")") (linesAll d body)
  | .function name params body _ => block (d.methodHeader false name params) (linesAll d body)
  | .call name args _ => [plain (name ++ "(" ++ Dialect.commaList args ++ ");")]
  | .classDef name base members _ =>
    (d.classHeader name base).map plain ++ indent (linesMembers d members)
      ++ [plain d.classFooter]
  | .create var className args _ => [plain (d.createLine var className args)]
  | .unknown kind _ _ => [d.placeholder kind]

/-- The lines of a list of statements. -/
def linesAll (d : Dialect) : List (Statement Form) → List Line
  | [] => []
  | s :: rest => lines d s ++ linesAll d rest

/-- The lines of the cases of a switch. -/
def linesCases (d : Dialect) : List (Text × List (Statement Form)) → List Line
  | [] => []
  | (value, body) :: rest =>
    caseBlock d ("case " ++ value ++ ":") (linesAll d body) ++ linesCases d rest

/-- The lines of the members of a class, whose functions are its methods. -/
def linesMembers (d : Dialect) : List (Statement Form) → List Line
  | [] => []
  | .function name params body _ :: rest =>
    block (d.methodHeader true name params) (linesAll d body) ++ linesMembers d rest
  | s :: rest => lines d s ++ linesMembers d rest

end

theorem linesAll_eq_flatMap (d : Dialect) (ss : List (Statement Form)) :
    linesAll d ss = ss.flatMap (lines d) := by
  induction ss with
  | nil => simp [linesAll]
  | cons s rest ih => simp [linesAll, ih]

/-- Classes with an empty line between them. -/
def classLines (d : Dialect) : List (Statement Form) → List Line
  | [] => []
  | [s] => lines d s
  | s :: rest => lines d s ++ blank :: classLines d rest

/-- Functions, each after an empty line. -/
def functionLines (d : Dialect) (functions : List (Statement Form)) : List Line :=
  functions.flatMap fun s => blank :: lines d s

/-- Classes and the empty line after them, if there are any. -/
def classSection (d : Dialect) (classes : List (Statement Form)) : List Line :=
  if classes.isEmpty then [] else classLines d classes ++ [blank]

/-- Lines that are the same in every program. -/
def fixedLines (texts : List String) : List Line :=
  texts.map fun text : String => plain text

/-- The lines of a program. -/
def programLines (d : Dialect) (p : Program Form) : List Line :=
  match d with
  | .csharp =>
    fixedLines ["using System;", "using System.Collections.Generic;", ""]
      ++ block "namespace GeneratedCode"
        (classSection d p.classes
          ++ block "public class Program"
            (block "public static void Main(string[] args)" (linesAll d p.body)
              ++ functionLines d p.functions))
  | .java =>
    classSection d p.classes
      ++ block "public class Main"
        (block "public static void main(String[] args)" (linesAll d p.body)
          ++ functionLines d p.functions)
  | .cpp =>
    fixedLines ["#include <iostream>", "#include <string>", "#include <vector>",
        "#include <algorithm>", "", "using namespace std;"]
      ++ (if p.classes.isEmpty then [] else blank :: classLines d p.classes)
      ++ functionLines d p.functions
      ++ blank :: block "int main()" (linesAll d p.body ++ [plain "return 0;"])

end BlockFlow.Braces
