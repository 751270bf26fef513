import BlockFlow.Proofs.Program.Relabelling
import BlockFlow.Source.Rendering

/-!
# Code shows no labels

The source code of a program does not depend on the ids of its statements or on the data of its
unknown statements. Marking goes past the labels (`mark_relabel`), and no layout writes them
(`Braces.lines_relabel`, `Python.lines_relabel`), so programs with the same bare form have the same
code in every language (`Program.source_congr`).
-/

namespace BlockFlow

variable (ids : Option Text → Option Text) (data : Json.Fields → Json.Fields)

namespace Statement

variable (inlineDefault : Bool)

mutual

/-- A statement with other labels is marked like the statement itself, in the same scopes. -/
theorem mark_relabel : ∀ (s : Statement Unit) (scopes : Scopes),
    mark inlineDefault (relabel ids data s) scopes =
      (relabel ids data (mark inlineDefault s scopes).1, (mark inlineDefault s scopes).2)
  | .declare .., _ => by simp [mark, relabel]
  | .update .., _ => by simp [mark, relabel]
  | .arrayValues .., _ => by simp [mark, relabel]
  | .arraySize .., _ => by simp [mark, relabel]
  | .print .., _ => by simp [mark, relabel]
  | .ifElse _ body orElse _, _ => by
    simp [mark, relabel, markAll_relabelAll body, markAll_relabelAll orElse]
  | .switch _ cases otherwise _, _ => by
    simp only [mark, relabel, isEmpty_relabelCases, markCases_relabelCases cases,
      markAll_relabelAll otherwise]
    -- The default is marked in one of two scopes.
    split <;> simp [relabel]
  | .forRange _ _ body _, _ => by simp [mark, relabel, markAll_relabelAll body]
  | .whileLoop _ body _, _ => by simp [mark, relabel, markAll_relabelAll body]
  | .function _ _ body _, _ => by simp [mark, relabel, markAll_relabelAll body]
  | .call .., _ => by simp [mark, relabel]
  | .classDef _ _ members _, _ => by simp [mark, relabel, markEach_relabelAll members]
  | .create .., _ => by simp [mark, relabel]
  | .unknown .., _ => by simp [mark, relabel]

/-- So are the statements of a list. -/
theorem markAll_relabelAll : ∀ (ss : List (Statement Unit)) (scopes : Scopes),
    markAll inlineDefault (relabelAll ids data ss) scopes =
      (relabelAll ids data (markAll inlineDefault ss scopes).1,
        (markAll inlineDefault ss scopes).2)
  | [], _ => by simp [markAll, relabelAll]
  | s :: rest, _ => by simp [markAll, relabelAll, mark_relabel s, markAll_relabelAll rest]

/-- So are the cases of a switch. -/
theorem markCases_relabelCases :
    ∀ (cases : List (Text × List (Statement Unit))) (scopes : Scopes),
      markCases inlineDefault (relabelCases ids data cases) scopes =
        (relabelCases ids data (markCases inlineDefault cases scopes).1,
          (markCases inlineDefault cases scopes).2)
  | [], _ => by simp [markCases, relabelCases]
  | (_, body) :: rest, _ => by
    simp [markCases, relabelCases, markAll_relabelAll body, markCases_relabelCases rest]

/-- So are statements that are each marked in scopes of their own. -/
theorem markEach_relabelAll : ∀ (ss : List (Statement Unit)) (blockScoped : Bool),
    markEach inlineDefault blockScoped (relabelAll ids data ss) =
      relabelAll ids data (markEach inlineDefault blockScoped ss)
  | [], _ => by simp [markEach, relabelAll]
  | s :: rest, _ => by simp [markEach, relabelAll, mark_relabel s, markEach_relabelAll rest]

end

end Statement

/-- A program with other labels is marked like the program itself. -/
theorem Program.mark_relabel (inlineDefault blockScoped : Bool) (p : Program Unit) :
    (p.relabel ids data).mark inlineDefault blockScoped =
      (p.mark inlineDefault blockScoped).relabel ids data := by
  simp [Program.mark, Program.relabel, Statement.markEach_relabelAll,
    Statement.markAll_relabelAll]

open Statement (relabel relabelAll relabelCases relabelAll_eq_map)

/-! ## Brace languages -/

namespace Braces

variable (d : Dialect)

mutual

/-- A statement is written without its labels. -/
theorem lines_relabel : ∀ s : Statement Form, lines d (relabel ids data s) = lines d s
  | .declare .. => by simp [relabel, lines]
  | .update .. => by simp [relabel, lines]
  | .arrayValues .. => by simp [relabel, lines]
  | .arraySize .. => by simp [relabel, lines]
  | .print .. => by simp [relabel, lines]
  | .ifElse _ body orElse _ => by
    simp [relabel, lines, linesAll_relabelAll body, linesAll_relabelAll orElse]
  | .switch _ cases otherwise _ => by
    simp [relabel, lines, linesCases_relabelCases cases, linesAll_relabelAll otherwise]
  | .forRange _ _ body _ => by simp [relabel, lines, linesAll_relabelAll body]
  | .whileLoop _ body _ => by simp [relabel, lines, linesAll_relabelAll body]
  | .function _ _ body _ => by simp [relabel, lines, linesAll_relabelAll body]
  | .call .. => by simp [relabel, lines]
  | .classDef _ _ members _ => by simp [relabel, lines, linesMembers_relabelAll members]
  | .create .. => by simp [relabel, lines]
  | .unknown .. => by simp [relabel, lines]

/-- So are the statements of a list. -/
theorem linesAll_relabelAll : ∀ ss : List (Statement Form),
    linesAll d (relabelAll ids data ss) = linesAll d ss
  | [] => rfl
  | s :: rest => by rw [relabelAll, linesAll, linesAll, lines_relabel s, linesAll_relabelAll rest]

/-- So are the cases of a switch. -/
theorem linesCases_relabelCases : ∀ cases : List (Text × List (Statement Form)),
    linesCases d (relabelCases ids data cases) = linesCases d cases
  | [] => rfl
  | (_, body) :: rest => by
    rw [relabelCases, linesCases, linesCases, linesAll_relabelAll body,
      linesCases_relabelCases rest]

/-- So are the members of a class. -/
theorem linesMembers_relabelAll : ∀ ss : List (Statement Form),
    linesMembers d (relabelAll ids data ss) = linesMembers d ss
  | [] => rfl
  | s :: rest => by
    have hfirst := lines_relabel s
    have hrest := linesMembers_relabelAll rest
    -- A method has a header of its own.
    cases s with
    | function name params body id =>
      rw [relabelAll, relabel, linesMembers, linesMembers, linesAll_relabelAll body, hrest]
    | _ => simp_all [relabelAll, relabel, linesMembers]

end

/-- So are the classes of a program. -/
theorem classLines_relabelAll : ∀ ss : List (Statement Form),
    classLines d (relabelAll ids data ss) = classLines d ss
  | [] => rfl
  | [s] => lines_relabel ids data d s
  | s :: t :: rest => by
    have hrest := classLines_relabelAll (t :: rest)
    simp only [relabelAll, classLines, lines_relabel] at hrest ⊢
    rw [hrest]

/-- So are its functions. -/
theorem functionLines_relabelAll (ss : List (Statement Form)) :
    functionLines d (relabelAll ids data ss) = functionLines d ss := by
  rw [functionLines, functionLines, relabelAll_eq_map, List.flatMap_map]
  simp only [lines_relabel]

/-- A program is written without its labels, in every dialect. -/
theorem programLines_relabel (p : Program Form) :
    programLines d (p.relabel ids data) = programLines d p := by
  cases d <;>
    simp [programLines, Program.relabel, classSection, classLines_relabelAll,
      functionLines_relabelAll, linesAll_relabelAll]

end Braces

/-! ## Python -/

namespace Python

mutual

/-- A statement is written without its labels. -/
theorem lines_relabel : ∀ s : Statement Form, lines (relabel ids data s) = lines s
  | .declare .. => by simp [relabel, lines]
  | .update .. => by simp [relabel, lines]
  | .arrayValues .. => by simp [relabel, lines]
  | .arraySize .. => by simp [relabel, lines]
  | .print .. => by simp [relabel, lines]
  | .ifElse _ body orElse _ => by
    simp [relabel, lines, suite, elseLines, linesAll_relabelAll body, linesAll_relabelAll orElse]
  | .switch _ [] otherwise _ => by
    simp [relabel, relabelCases, lines, linesAll_relabelAll otherwise]
  | .switch _ ((_, body) :: rest) otherwise _ => by
    simp [relabel, relabelCases, lines, suite, elseLines, linesAll_relabelAll body,
      linesCases_relabelCases _ rest, linesAll_relabelAll otherwise]
  | .forRange _ _ body _ => by simp [relabel, lines, suite, linesAll_relabelAll body]
  | .whileLoop _ body _ => by simp [relabel, lines, suite, linesAll_relabelAll body]
  | .function _ _ body _ => by simp [relabel, lines, suite, linesAll_relabelAll body]
  | .call .. => by simp [relabel, lines]
  | .classDef _ _ members _ => by simp [relabel, lines, suite, linesMembers_relabelAll members]
  | .create .. => by simp [relabel, lines]
  | .unknown .. => by simp [relabel, lines]

/-- So are the statements of a list. -/
theorem linesAll_relabelAll : ∀ ss : List (Statement Form),
    linesAll (relabelAll ids data ss) = linesAll ss
  | [] => rfl
  | s :: rest => by rw [relabelAll, linesAll, linesAll, lines_relabel s, linesAll_relabelAll rest]

/-- So are the cases of a switch, whatever they are compared with. -/
theorem linesCases_relabelCases (subject : Text) :
    ∀ cases : List (Text × List (Statement Form)),
      linesCases subject (relabelCases ids data cases) = linesCases subject cases
  | [] => rfl
  | (_, body) :: rest => by
    simp [relabelCases, linesCases, suite, linesAll_relabelAll body,
      linesCases_relabelCases subject rest]

/-- So are the members of a class. -/
theorem linesMembers_relabelAll : ∀ ss : List (Statement Form),
    linesMembers (relabelAll ids data ss) = linesMembers ss
  | [] => rfl
  | s :: rest => by
    have hfirst := lines_relabel s
    have hrest := linesMembers_relabelAll rest
    -- A method has a header of its own.
    cases s with
    | function name params body id =>
      simp [relabelAll, relabel, linesMembers, suite, linesAll_relabelAll body, hrest]
    | _ => simp_all [relabelAll, relabel, linesMembers]

end

/-- A program is written without its labels. -/
theorem programLines_relabel (p : Program Form) :
    programLines (p.relabel ids data) = programLines p := by
  have hentries (ss : List (Statement Form)) :
      (relabelAll ids data ss).flatMap (fun s => lines s ++ [Line.blank, Line.blank]) =
        ss.flatMap fun s => lines s ++ [Line.blank, Line.blank] := by
    rw [relabelAll_eq_map, List.flatMap_map]
    simp only [lines_relabel]
  simp [programLines, Program.relabel, suite, linesAll_relabelAll, hentries]

end Python

/-! ## Programs -/

namespace Program

/-- Other labels do not change the lines of a program. -/
theorem lines_relabel (language : Language) (blockScoped : Bool) (p : Program Unit) :
    (p.relabel ids data).lines language blockScoped = p.lines language blockScoped := by
  unfold lines linesIn
  rw [mark_relabel]
  split
  · exact Braces.programLines_relabel ids data _ _
  · exact Python.programLines_relabel ids data _

/-- Other labels do not change the code of a program. -/
theorem source_relabel (language : Language) (blockScoped : Bool) (p : Program Unit) :
    (p.relabel ids data).source language blockScoped = p.source language blockScoped := by
  unfold source
  rw [lines_relabel]

/-- Programs that differ in their labels only have the same code. -/
theorem source_congr {p q : Program Unit} (h : p.bare = q.bare) (language : Language)
    (blockScoped : Bool) : p.source language blockScoped = q.source language blockScoped := by
  calc p.source language blockScoped
      = p.bare.source language blockScoped := (source_relabel _ _ language blockScoped p).symm
    _ = q.bare.source language blockScoped := by rw [h]
    _ = q.source language blockScoped := source_relabel _ _ language blockScoped q

end Program

end BlockFlow
