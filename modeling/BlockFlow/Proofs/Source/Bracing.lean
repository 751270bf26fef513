import BlockFlow.Proofs.Source.Balance
import BlockFlow.Proofs.Source.Scoping

/-!
# Code between braces

The source code of a program in a brace language, read as a tree: text, statements that introduce a
variable, and pairs of braces with code between them (`Code`). The innermost block of a statement is
the pair of braces that it is a direct part of. The tree is laid out beside the lines of a program,
block by block, and put together again it is the source code (`Program.writtenAll_programCode`).
-/

namespace BlockFlow

/-! ## Lines as text -/

/-- Line breaks between texts, and one at the end, are line breaks after each text. -/
theorem Text.joined_newline {texts : List Text} (h : texts ≠ []) :
    joined "\n" texts ++ "\n" = unlines texts := by
  induction texts with
  | nil => exact absurd rfl h
  | cons t rest ih =>
    cases rest with
    | nil => simp [joined, unlines, ofString, ofChars]
    | cons u rest =>
      have hrest := ih (List.cons_ne_nil u rest)
      rw [joined] at hrest ⊢
      rw [List.intercalate_cons_cons, List.append_assoc, List.append_assoc, hrest]
      simp [unlines, ofString, ofChars]

namespace Line

/-- Lines as a writer at a level writes them, with a line break after each. -/
def unlinesAt (level : Int) (ls : List Line) : Text :=
  Text.unlines (ls.map (·.writtenAt level))

@[simp]
theorem unlinesAt_nil (level : Int) : unlinesAt level [] = [] :=
  rfl

@[simp]
theorem unlinesAt_cons (level : Int) (line : Line) (ls : List Line) :
    unlinesAt level (line :: ls) = line.writtenAt level ++ ("\n" ++ unlinesAt level ls) := by
  simp only [unlinesAt, Text.unlines, List.map_cons, List.flatMap_cons, List.append_assoc]
  rfl

@[simp]
theorem unlinesAt_append (level : Int) (xs ys : List Line) :
    unlinesAt level (xs ++ ys) = unlinesAt level xs ++ unlinesAt level ys := by
  simp [unlinesAt, Text.unlines]

@[simp]
theorem unlinesAt_indent (level : Int) (ls : List Line) :
    unlinesAt level (indent ls) = unlinesAt (level + 1) ls := by
  have hline (line : Line) :
      ({ line with level := line.level + 1 } : Line).writtenAt level =
        line.writtenAt (level + 1) := by
    have hlevel : level + ((line.level + 1 : Nat) : Int) = level + 1 + line.level := by omega
    simp only [writtenAt, hlevel]
  rw [unlinesAt, unlinesAt, indent, List.map_map]
  exact congrArg Text.unlines (List.map_congr_left fun line _ => hline line)

/-- The braces of the text are those of the lines. -/
theorem braces_unlinesAt (level : Int) (ls : List Line) :
    (unlinesAt level ls).braces = braces ls := by
  have hbreak : Text.braces "\n" = [] := rfl
  induction ls with
  | nil => rfl
  | cons line rest ih => simp [braces_writtenAt, hbreak, ih]

end Line

namespace Braces

open Line (plain blank unlinesAt)

/-! ## Trees of blocks -/

/-- What stands between a pair of braces. -/
inductive Holds where
  /-- The members of a class, or the classes and functions of a program. -/
  | members
  /-- A list of statements. -/
  | statements
  /-- The sections of a switch. -/
  | sections
deriving DecidableEq, Repr

/-- Source code as a tree of blocks. -/
inductive Code where
  /-- Text that opens and closes no block. -/
  | text (t : Text)
  /-- The lines of a statement that introduces a variable in some form. -/
  | introduction (name : Text) (form : Form) (t : Text)
  /-- A pair of braces and the code between them. -/
  | braces (holds : Holds) (body : List Code)

namespace Code

/-- The names that are declared directly in some code, not inside braces. -/
def declared (codes : List Code) : List Text :=
  codes.filterMap fun
    | .introduction name .declaring _ => some name
    | _ => none

mutual

/-- Code as text. -/
def written : Code → Text
  | .text t => t
  | .introduction _ _ t => t
  | .braces _ body => "\x7b" ++ (writtenAll body ++ "\x7d")

/-- The pieces of some code as text. -/
def writtenAll : List Code → Text
  | [] => []
  | code :: rest => written code ++ writtenAll rest

end

mutual

/-- The introductions of variables in code, in order. -/
def introductions : Code → List (Text × Form)
  | .text _ => []
  | .introduction name form _ => [(name, form)]
  | .braces _ body => introductionsAll body

/-- The introductions of variables in some code, in order. -/
def introductionsAll : List Code → List (Text × Form)
  | [] => []
  | code :: rest => introductions code ++ introductionsAll rest

end

mutual

/-- The blocks of code: what each pair of braces holds, with the names declared directly in it. -/
def blocks : Code → List (Holds × List Text)
  | .text _ => []
  | .introduction _ _ _ => []
  | .braces holds body => (holds, declared body) :: blocksAll body

/-- The blocks of some code. -/
def blocksAll : List Code → List (Holds × List Text)
  | [] => []
  | code :: rest => blocks code ++ blocksAll rest

end

mutual

/-- Code whose texts hold no braces, and whose introductions close the braces they open. -/
def Plain : Code → Prop
  | .text t => t.braces = []
  | .introduction _ _ t => IsDyck t.braces
  | .braces _ body => PlainAll body

/-- Pieces of code whose texts hold no braces, and whose introductions close the braces they
open. -/
def PlainAll : List Code → Prop
  | [] => True
  | code :: rest => Plain code ∧ PlainAll rest

end

section Append

variable (xs ys : List Code)

theorem writtenAll_eq_flatMap : writtenAll xs = xs.flatMap written := by
  induction xs with
  | nil => rfl
  | cons code rest ih => simp [writtenAll, ih]

theorem introductionsAll_eq_flatMap : introductionsAll xs = xs.flatMap introductions := by
  induction xs with
  | nil => rfl
  | cons code rest ih => simp [introductionsAll, ih]

theorem blocksAll_eq_flatMap : blocksAll xs = xs.flatMap blocks := by
  induction xs with
  | nil => rfl
  | cons code rest ih => simp [blocksAll, ih]

/-- Some code is plain if all its pieces are. -/
theorem plainAll_iff : PlainAll xs ↔ ∀ code ∈ xs, Plain code := by
  induction xs with
  | nil => simp [PlainAll]
  | cons code rest ih => simp [PlainAll, ih]

@[simp]
theorem writtenAll_append : writtenAll (xs ++ ys) = writtenAll xs ++ writtenAll ys := by
  simp [writtenAll_eq_flatMap]

@[simp]
theorem introductionsAll_append :
    introductionsAll (xs ++ ys) = introductionsAll xs ++ introductionsAll ys := by
  simp [introductionsAll_eq_flatMap]

@[simp]
theorem blocksAll_append : blocksAll (xs ++ ys) = blocksAll xs ++ blocksAll ys := by
  simp [blocksAll_eq_flatMap]

@[simp]
theorem plainAll_append : PlainAll (xs ++ ys) ↔ PlainAll xs ∧ PlainAll ys := by
  simp [plainAll_iff, or_imp, forall_and]

@[simp]
theorem declared_append : declared (xs ++ ys) = declared xs ++ declared ys :=
  List.filterMap_append

end Append

end Code

open Code

/-! ## Laying out trees -/

/-- Lines that open and close no block. -/
def linesCode (level : Int) (ls : List Line) : Code :=
  .text (unlinesAt level ls)

/-- A pair of braces whose second one stands on a line of its own. -/
def bracesCode (level : Int) (holds : Holds) (body : List Code) : Code :=
  .braces holds (.text "\n" :: body ++ [.text (Writer.margin level)])

/-- A block after a text that introduces it. -/
def blockCode (level : Int) (holds : Holds) (text : Text) (body : List Code) : List Code :=
  [.text (Writer.margin level ++ text ++ " "), bracesCode level holds body, .text "\n"]

/-- A section of a switch, which ends in a break. -/
def sectionCode (d : Dialect) (level : Int) (label : Text) (body : List Code) : List Code :=
  let body := body ++ [linesCode (level + 1) [plain "break;"]]
  if d.bracesCases then blockCode level .statements label body
  else linesCode level [plain label] :: body

/-- A class. -/
def classCode (d : Dialect) (level : Int) (name base : Text) (members : List Code) : List Code :=
  match d with
  | .csharp =>
    blockCode level .members ("public class " ++ name ++ Dialect.baseClause " : " base) members
  | .cpp =>
    [.text (Writer.margin level ++ "class " ++ name ++ Dialect.baseClause " : public " base ++ " "),
      bracesCode level .members (linesCode level [plain "public:"] :: members), .text ";\n"]
  | .java =>
    blockCode level .members ("class " ++ name ++ Dialect.baseClause " extends " base) members

/-- A statement that holds no others. -/
def leafCode (d : Dialect) (level : Int) (s : Statement Form) : Code :=
  match s.introduction? with
  | some (name, form) => .introduction name form (unlinesAt level (lines d s))
  | none => linesCode level (lines d s)

mutual

/-- The tree of a statement. -/
def code (d : Dialect) (level : Int) : Statement Form → List Code
  | .ifElse condition body orElse _ =>
    [.text (Writer.margin level ++ ("if (" ++ condition ++ ")") ++ " "),
        bracesCode level .statements (codeAll d (level + 1) body)]
      ++ (if orElse.isEmpty then []
        else [.text " else ", bracesCode level .statements (codeAll d (level + 1) orElse)])
      ++ [.text "\n"]
  | .switch subject cases otherwise _ =>
    blockCode level .sections ("switch (" ++ subject ++ ")")
      (codeCases d (level + 1) cases
        ++ (if otherwise.isEmpty then []
          else sectionCode d (level + 1) "default:" (codeAll d (level + 1 + 1) otherwise)))
  | .forRange var bound body _ =>
    blockCode level .statements
      ("for (int " ++ var ++ " = 0; " ++ var ++ " < " ++ bound ++ "; " ++ var ++ "++)")
      (codeAll d (level + 1) body)
  | .whileLoop condition body _ =>
    blockCode level .statements ("while (" ++ condition ++ ")") (codeAll d (level + 1) body)
  | .function name params body _ =>
    blockCode level .statements (d.methodHeader false name params) (codeAll d (level + 1) body)
  | .classDef name base members _ =>
    classCode d level name base (codeMembers d (level + 1) members)
  | s => [leafCode d level s]

/-- The tree of a list of statements. -/
def codeAll (d : Dialect) (level : Int) : List (Statement Form) → List Code
  | [] => []
  | s :: rest => code d level s ++ codeAll d level rest

/-- The tree of the cases of a switch. -/
def codeCases (d : Dialect) (level : Int) : List (Text × List (Statement Form)) → List Code
  | [] => []
  | (value, body) :: rest =>
    sectionCode d level ("case " ++ value ++ ":") (codeAll d (level + 1) body)
      ++ codeCases d level rest

/-- The tree of the members of a class, whose functions are its methods. -/
def codeMembers (d : Dialect) (level : Int) : List (Statement Form) → List Code
  | [] => []
  | .function name params body _ :: rest =>
    blockCode level .statements (d.methodHeader true name params) (codeAll d (level + 1) body)
      ++ codeMembers d level rest
  | s :: rest => code d level s ++ codeMembers d level rest

end

/-- The entries of a program, each after an empty line. -/
def blankBefore (d : Dialect) (level : Int) (ss : List (Statement Form)) : List Code :=
  ss.flatMap fun s => linesCode level [blank] :: code d level s

/-- The entries of a program, each with an empty line after it. -/
def blankAfter (d : Dialect) (level : Int) (ss : List (Statement Form)) : List Code :=
  ss.flatMap fun s => code d level s ++ [linesCode level [blank]]

/-- The tree of a program. -/
def programCode (d : Dialect) (p : Program Form) : List Code :=
  match d with
  | .csharp =>
    linesCode 0 (fixedLines ["using System;", "using System.Collections.Generic;", ""])
      :: blockCode 0 .members "namespace GeneratedCode"
        (blankAfter d 1 p.classes
          ++ blockCode 1 .members "public class Program"
            (blockCode 2 .statements "public static void Main(string[] args)" (codeAll d 3 p.body)
              ++ blankBefore d 2 p.functions))
  | .java =>
    blankAfter d 0 p.classes
      ++ blockCode 0 .members "public class Main"
        (blockCode 1 .statements "public static void main(String[] args)" (codeAll d 2 p.body)
          ++ blankBefore d 1 p.functions)
  | .cpp =>
    linesCode 0 (fixedLines ["#include <iostream>", "#include <string>", "#include <vector>",
        "#include <algorithm>", "", "using namespace std;"])
      :: blankBefore d 0 p.classes
      ++ blankBefore d 0 p.functions
      ++ linesCode 0 [blank]
        :: blockCode 0 .statements "int main()"
          (codeAll d 1 p.body ++ [linesCode 1 [plain "return 0;"]])

/-! ## The text of a tree -/

section Written

variable (d : Dialect) (level : Int) {body : List Code} {ls : List Line}

/-- Lines are written as they are. -/
@[simp]
theorem written_linesCode : (linesCode level ls).written = unlinesAt level ls := by
  rw [linesCode, written]

/-- A pair of braces is written around its body, with a line break after the first. -/
@[simp]
theorem written_bracesCode (holds : Holds) (body : List Code) :
    (bracesCode level holds body).written =
      "\x7b" ++ ("\n" ++ (writtenAll body ++ (Writer.margin level ++ "\x7d"))) := by
  simp [bracesCode, written, writtenAll]

/-- The first line of a block, up to its brace and from there on. -/
theorem unlinesAt_opened (text : Text) (ls : List Line) :
    unlinesAt level (opened text :: ls) =
      Writer.margin level ++ text ++ " " ++ ("\x7b" ++ ("\n" ++ unlinesAt level ls)) := by
  have hne : (opened text).text ≠ [] := by simp [opened, plain, Text.ofString, Text.ofChars]
  have hopen : Text.ofString " \x7b" = Text.ofString " " ++ Text.ofString "\x7b" := rfl
  rw [Line.unlinesAt_cons, Line.writtenAt_of_ne_nil hne]
  simp [opened, plain, hopen]

/-- The last line of a block is its brace behind a margin. -/
theorem unlinesAt_closed : unlinesAt level [closed] = Writer.margin level ++ "\x7d" ++ "\n" := by
  have hne : closed.text ≠ [] := by decide
  rw [Line.unlinesAt_cons, Line.writtenAt_of_ne_nil hne]
  simp [closed, plain]

/-- A block is written as its lines, if its body is. -/
theorem writtenAll_blockCode (holds : Holds) (text : Text)
    (h : writtenAll body = unlinesAt (level + 1) ls) :
    writtenAll (blockCode level holds text body) = unlinesAt level (block text ls) := by
  rw [block, List.cons_append, unlinesAt_opened, Line.unlinesAt_append, unlinesAt_closed,
    Line.unlinesAt_indent]
  simp [blockCode, writtenAll, written, h]

/-- So is a section of a switch. -/
theorem writtenAll_sectionCode (label : Text) (h : writtenAll body = unlinesAt (level + 1) ls) :
    writtenAll (sectionCode d level label body) = unlinesAt level (caseBlock d label ls) := by
  have hbody : writtenAll (body ++ [linesCode (level + 1) [plain "break;"]]) =
      unlinesAt (level + 1) (ls ++ [plain "break;"]) := by
    simp [writtenAll, h]
  unfold sectionCode caseBlock
  -- Only with braces of its own the section is a block.
  split
  · exact writtenAll_blockCode level .statements label hbody
  · simp [writtenAll, h]

/-- So is a class. -/
theorem writtenAll_classCode (name base : Text) (h : writtenAll body = unlinesAt (level + 1) ls) :
    writtenAll (classCode d level name base body) =
      unlinesAt level ((d.classHeader name base).map plain ++ Line.indent ls
        ++ [plain d.classFooter]) := by
  cases d with
  | csharp => exact writtenAll_blockCode level .members _ h
  | java => exact writtenAll_blockCode level .members _ h
  | cpp =>
    -- The first line between the braces stands at the level of the header.
    have hfooter : unlinesAt level [plain (Text.ofString "\x7d;")] =
        Writer.margin level ++ "\x7d" ++ ";\n" := by
      rw [Line.unlinesAt_cons, Line.writtenAt_of_ne_nil (by decide)]
      simp [plain, Text.ofString, Text.ofChars]
    have hheader := unlinesAt_opened level
      ("class " ++ name ++ Dialect.baseClause " : public " base)
      (plain "public:" :: Line.indent ls ++ [plain (Text.ofString "\x7d;")])
    rw [Line.unlinesAt_append, hfooter] at hheader
    simp only [Dialect.classHeader, Dialect.classFooter]
    refine Eq.trans ?_ hheader.symm
    simp [classCode, writtenAll, written, h]

/-- A statement without a block is written as its lines. -/
@[simp]
theorem written_leafCode (s : Statement Form) :
    (leafCode d level s).written = unlinesAt level (lines d s) := by
  unfold leafCode
  split
  · rw [written]
  · rw [written_linesCode]

mutual

/-- The tree of a statement is written as its lines. -/
theorem writtenAll_code : ∀ (s : Statement Form) (level : Int),
    writtenAll (code d level s) = unlinesAt level (lines d s)
  | .ifElse condition body orElse _, level => by
    have hbody := writtenAll_codeAll body (level + 1)
    have horElse := writtenAll_codeAll orElse (level + 1)
    have hbetween : Text.ofString "\x7d else" = Text.ofString "\x7d" ++ Text.ofString " else" := rfl
    have helse : Text.ofString " else " = Text.ofString " else" ++ Text.ofString " " := rfl
    rw [code, lines, Line.unlinesAt_append, Line.unlinesAt_append, unlinesAt_opened,
      unlinesAt_closed]
    split
    · simp [writtenAll, written, hbody]
    · -- The braces of the two bodies meet in one line.
      rw [unlinesAt_opened]
      simp [writtenAll, written, hbody, horElse, hbetween, helse]
  | .switch subject cases otherwise _, level => by
    rw [code, lines]
    apply writtenAll_blockCode
    rw [writtenAll_append, Line.unlinesAt_append, writtenAll_codeCases cases]
    congr 1
    split
    · rfl
    · exact writtenAll_sectionCode d _ _ (writtenAll_codeAll otherwise _)
  | .forRange var bound body _, level =>
    writtenAll_blockCode level .statements _ (writtenAll_codeAll body _)
  | .whileLoop condition body _, level =>
    writtenAll_blockCode level .statements _ (writtenAll_codeAll body _)
  | .function name params body _, level =>
    writtenAll_blockCode level .statements _ (writtenAll_codeAll body _)
  | .classDef name base members _, level =>
    writtenAll_classCode d level name base (writtenAll_codeMembers members _)
  | .declare .., level => by simp [code, writtenAll]
  | .update .., level => by simp [code, writtenAll]
  | .arrayValues .., level => by simp [code, writtenAll]
  | .arraySize .., level => by simp [code, writtenAll]
  | .print .., level => by simp [code, writtenAll]
  | .call .., level => by simp [code, writtenAll]
  | .create .., level => by simp [code, writtenAll]
  | .unknown .., level => by simp [code, writtenAll]

/-- The tree of a list of statements is written as its lines. -/
theorem writtenAll_codeAll : ∀ (ss : List (Statement Form)) (level : Int),
    writtenAll (codeAll d level ss) = unlinesAt level (linesAll d ss)
  | [], _ => rfl
  | s :: rest, level => by
    rw [codeAll, linesAll, writtenAll_append, Line.unlinesAt_append, writtenAll_code s,
      writtenAll_codeAll rest]

/-- So is the tree of the cases of a switch. -/
theorem writtenAll_codeCases : ∀ (cases : List (Text × List (Statement Form))) (level : Int),
    writtenAll (codeCases d level cases) = unlinesAt level (linesCases d cases)
  | [], _ => rfl
  | (value, body) :: rest, level => by
    have hbody := writtenAll_codeAll body (level + 1)
    rw [codeCases, linesCases, writtenAll_append, Line.unlinesAt_append,
      writtenAll_sectionCode d level _ hbody, writtenAll_codeCases rest]

/-- So is the tree of the members of a class. -/
theorem writtenAll_codeMembers : ∀ (ss : List (Statement Form)) (level : Int),
    writtenAll (codeMembers d level ss) = unlinesAt level (linesMembers d ss)
  | [], _ => rfl
  | s :: rest, level => by
    have hs := writtenAll_code s level
    have hrest := writtenAll_codeMembers rest level
    -- A method has a header of its own.
    cases s with
    | function name params body id =>
      have hbody := writtenAll_codeAll body (level + 1)
      rw [codeMembers, linesMembers, writtenAll_append, Line.unlinesAt_append, hrest,
        writtenAll_blockCode level .statements _ hbody]
    | _ => simp [codeMembers, linesMembers, hs, hrest]

end

/-- Functions are written after empty lines. -/
theorem writtenAll_blankBefore (ss : List (Statement Form)) :
    writtenAll (blankBefore d level ss) = unlinesAt level (functionLines d ss) := by
  induction ss with
  | nil => rfl
  | cons s rest ih =>
    rw [blankBefore, functionLines] at ih ⊢
    simp [writtenAll, writtenAll_code, ih]

/-- Classes are written with empty lines after them. -/
theorem writtenAll_blankAfter (ss : List (Statement Form)) :
    writtenAll (blankAfter d level ss) =
      unlinesAt level (ss.flatMap fun s => lines d s ++ [blank]) := by
  induction ss with
  | nil => rfl
  | cons s rest ih =>
    rw [blankAfter] at ih ⊢
    simp [writtenAll, writtenAll_code, ih]

/-- Empty lines between classes and one at the end are empty lines after each class. -/
theorem classSection_eq (ss : List (Statement Form)) :
    classSection d ss = ss.flatMap fun s => lines d s ++ [blank] := by
  induction ss with
  | nil => rfl
  | cons s rest ih =>
    cases rest with
    | nil => simp [classSection, classLines]
    | cons t rest => simp_all [classSection, classLines]

/-- Empty lines between classes and one at the start are empty lines before each class. -/
theorem blank_cons_classLines (ss : List (Statement Form)) :
    (if ss.isEmpty then [] else blank :: classLines d ss) = functionLines d ss := by
  induction ss with
  | nil => rfl
  | cons s rest ih =>
    cases rest with
    | nil => simp [functionLines, classLines]
    | cons t rest => simp_all [functionLines, classLines]

/-- The tree of a program is written as its lines. -/
theorem writtenAll_programCode (p : Program Form) :
    writtenAll (programCode d p) = unlinesAt 0 (programLines d p) := by
  -- Each dialect opens the same blocks around its parts as its tree does.
  cases d with
  | csharp =>
    rw [programCode, programLines, writtenAll, written_linesCode, Line.unlinesAt_append]
    refine congrArg _ (writtenAll_blockCode 0 .members _ ?_)
    rw [writtenAll_append, Line.unlinesAt_append, writtenAll_blankAfter, classSection_eq]
    refine congrArg _ (writtenAll_blockCode 1 .members _ ?_)
    rw [writtenAll_append, Line.unlinesAt_append, writtenAll_blankBefore,
      writtenAll_blockCode 2 .statements _ (writtenAll_codeAll _ p.body 3)]
    rfl
  | java =>
    rw [programCode, programLines, writtenAll_append, Line.unlinesAt_append,
      writtenAll_blankAfter, classSection_eq]
    refine congrArg _ (writtenAll_blockCode 0 .members _ ?_)
    rw [writtenAll_append, Line.unlinesAt_append, writtenAll_blankBefore,
      writtenAll_blockCode 1 .statements _ (writtenAll_codeAll _ p.body 2)]
    rfl
  | cpp =>
    have hmain : writtenAll (codeAll .cpp 1 p.body ++ [linesCode 1 [plain "return 0;"]]) =
        unlinesAt (0 + 1) (linesAll .cpp p.body ++ [plain "return 0;"]) := by
      simp [writtenAll, writtenAll_codeAll]
    simp only [programCode, programLines, blank_cons_classLines, List.cons_append, writtenAll,
      writtenAll_append, written_linesCode, writtenAll_blankBefore, Line.unlinesAt_append,
      Line.unlinesAt_cons, Line.unlinesAt_nil, writtenAll_blockCode 0 .statements _ hmain,
      List.append_assoc, List.append_nil]

end Written

end Braces

/-- The source code of a program in a brace language, read off its tree. -/
theorem Program.writtenAll_programCode (d : Braces.Dialect) (blockScoped : Bool)
    (p : Program Unit) :
    Braces.Code.writtenAll (Braces.programCode d (p.mark false blockScoped)) =
      p.source d.language blockScoped := by
  have hne : Braces.programLines d (p.mark false blockScoped) ≠ [] := by
    cases d <;> simp [Braces.programLines, Braces.block]
  rw [Braces.writtenAll_programCode, source_eq, writtenLines, lines_eq_programLines,
    Text.joined_newline (by simpa using hne)]
  rfl

end BlockFlow
