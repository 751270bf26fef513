import BlockFlow.Proofs.Session.Running
import BlockFlow.Proofs.Source.Unmarking
import BlockFlow.Proofs.Source.Written

/-!
# Placeholders of unknown statements

An unknown statement is written as one placeholder line, wherever it is nested, and nothing else is.
The placeholders of a layout are therefore those of the unknown statements in depth-first order
(`Braces.placeholders_lines`, `Python.placeholders_lines`): no list of statements is left out,
written twice or written in another order. The warnings of a rendering follow the placeholders.
-/

namespace BlockFlow

/-! ## Unknown statements -/

namespace Statement

variable {δ : Type}

/-- The kind of an unknown statement. -/
def unknownKind? : Statement δ → Option Text
  | .unknown kind _ _ => some kind
  | _ => none

/-- The kinds of the unknown statements among some statements, in order. -/
def unknownKinds (ss : List (Statement δ)) : List Text :=
  ss.filterMap unknownKind?

@[simp]
theorem unknownKinds_nil : unknownKinds ([] : List (Statement δ)) = [] :=
  rfl

@[simp]
theorem unknownKinds_append (ss ts : List (Statement δ)) :
    unknownKinds (ss ++ ts) = unknownKinds ss ++ unknownKinds ts :=
  List.filterMap_append

theorem unknownKinds_cons (s : Statement δ) (ss : List (Statement δ)) :
    unknownKinds (s :: ss) = s.unknownKind?.toList ++ unknownKinds ss := by
  cases h : s.unknownKind? <;> simp [unknownKinds, h]

/-- A kind is there exactly if it is that of an unknown statement. -/
theorem mem_unknownKinds {kind : Text} {ss : List (Statement δ)} :
    kind ∈ unknownKinds ss ↔ ∃ data id, .unknown kind data id ∈ ss := by
  rw [unknownKinds, List.mem_filterMap]
  constructor
  · rintro ⟨s, hs, hkind⟩
    cases s with
    | unknown kind' data id =>
      obtain rfl : kind' = kind := Option.some.inj hkind
      exact ⟨data, id, hs⟩
    | _ => cases hkind
  · rintro ⟨data, id, hs⟩
    exact ⟨_, hs, rfl⟩

/-- Marks do not touch the kind of a statement. -/
theorem unknownKind?_unmark (s : Statement δ) : s.unmark.unknownKind? = s.unknownKind? := by
  cases s <;> simp [unmark, unknownKind?]

/-- Marks do not touch unknown statements. -/
theorem unknownKinds_walkAll_unmarkAll (ss : List (Statement δ)) :
    unknownKinds (walkAll (unmarkAll ss)) = unknownKinds (walkAll ss) := by
  rw [walkAll_unmarkAll, unknownKinds, unknownKinds, List.filterMap_map]
  congr 1
  funext s
  exact unknownKind?_unmark s

end Statement

/-- The statements of a program in the order in which a language writes them. -/
def Program.writtenWalk {δ : Type} (language : Language) (p : Program δ) : List (Statement δ) :=
  match language with
  | .csharp | .java =>
    Statement.walkAll p.classes ++ Statement.walkAll p.body ++ Statement.walkAll p.functions
  | .cpp | .python =>
    Statement.walkAll p.classes ++ Statement.walkAll p.functions ++ Statement.walkAll p.body

/-! ## Placeholder lines -/

namespace Line

/-- A placeholder, moved to the outermost level. -/
def placeholder? (line : Line) : Option Line :=
  match line.role with
  | .placeholder _ => some { line with level := 0 }
  | _ => none

/-- The placeholders among some lines in order, moved to the outermost level. -/
def placeholders (ls : List Line) : List Line :=
  ls.filterMap placeholder?

@[simp]
theorem placeholders_nil : placeholders [] = [] :=
  rfl

@[simp]
theorem placeholders_append (xs ys : List Line) :
    placeholders (xs ++ ys) = placeholders xs ++ placeholders ys :=
  List.filterMap_append

@[simp]
theorem placeholders_indent (ls : List Line) : placeholders (indent ls) = placeholders ls := by
  rw [placeholders, placeholders, indent, List.filterMap_map]
  rfl

@[simp]
theorem placeholders_cons_plain (text : Text) (ls : List Line) :
    placeholders (plain text :: ls) = placeholders ls :=
  rfl

@[simp]
theorem placeholders_cons_header (text : Text) (ls : List Line) :
    placeholders (header text :: ls) = placeholders ls :=
  rfl

@[simp]
theorem placeholders_cons_branch (text : Text) (ls : List Line) :
    placeholders (branch text :: ls) = placeholders ls :=
  rfl

@[simp]
theorem placeholders_cons_blank (ls : List Line) : placeholders (blank :: ls) = placeholders ls :=
  rfl

@[simp]
theorem placeholders_map_plain (texts : List Text) : placeholders (texts.map plain) = [] := by
  induction texts with
  | nil => rfl
  | cons text rest ih => exact ih

/-- The kinds that placeholders stand for do not depend on their levels. -/
theorem filterMap_placeholderKind? (ls : List Line) :
    ls.filterMap placeholderKind? = (placeholders ls).filterMap placeholderKind? := by
  rw [placeholders, List.filterMap_filterMap]
  congr 1
  funext line
  obtain ⟨level, role, text⟩ := line
  cases role <;> rfl

end Line

open Line (placeholders)
open Statement (nested walkAll walkCases unknownKinds unknownKinds_cons unknownKind?)

/-! ## Brace languages -/

namespace Braces

/-- A block has the placeholders of its body. -/
@[simp]
theorem placeholders_block (text : Text) (body : List Line) :
    placeholders (block text body) = placeholders body := by
  simp [block, opened, closed]

/-- So has a section of a switch. -/
@[simp]
theorem placeholders_caseBlock (d : Dialect) (label : Text) (body : List Line) :
    placeholders (caseBlock d label body) = placeholders body := by
  unfold caseBlock
  split <;> simp

/-- A list that is written only if there is anything in it has its placeholders either way. -/
theorem placeholders_unless_empty (d : Dialect) (ss : List (Statement Form))
    (wrap : List Line → List Line) (hwrap : ∀ ls, placeholders (wrap ls) = placeholders ls) :
    placeholders (if ss.isEmpty then [] else wrap (linesAll d ss)) =
      placeholders (linesAll d ss) := by
  cases ss with
  | nil => rfl
  | cons s rest => exact hwrap _

/-- As far as placeholders go, the members of a class are like the statements of a list. -/
theorem placeholders_linesMembers (d : Dialect) (ss : List (Statement Form)) :
    placeholders (linesMembers d ss) = placeholders (linesAll d ss) := by
  induction ss with
  | nil => rfl
  | cons s rest ih =>
    -- A method has a header of its own, which is no placeholder.
    cases s with
    | function name params body id => simp [linesMembers, linesAll, lines, ih]
    | _ => simp [linesMembers, linesAll, ih]

mutual

/-- A statement leaves one placeholder for each unknown statement, in depth-first order. -/
theorem placeholders_lines (d : Dialect) : ∀ s : Statement Form,
    placeholders (lines d s) = (unknownKinds s.walk).map d.placeholder
  | .declare .. => rfl
  | .update .. => rfl
  | .arrayValues .. => rfl
  | .arraySize .. => rfl
  | .print .. => rfl
  | .call .. => rfl
  | .create .. => rfl
  | .unknown .. => rfl
  | .ifElse condition body orElse id => by
    have horElse := placeholders_unless_empty d orElse
      (fun ls => opened "\x7d else" :: Line.indent ls) (by simp [opened])
    simp only [lines, opened, closed, Line.placeholders_append, Line.placeholders_cons_plain,
      Line.placeholders_indent, Line.placeholders_nil, placeholders_linesAll d body] at horElse ⊢
    rw [horElse, placeholders_linesAll d orElse]
    simp [Statement.walk, nested, unknownKinds_cons, unknownKind?]
  | .switch subject cases otherwise id => by
    have hotherwise := placeholders_unless_empty d otherwise (caseBlock d "default:")
      (placeholders_caseBlock d "default:")
    rw [lines, placeholders_block, Line.placeholders_append, hotherwise,
      placeholders_linesCases d cases, placeholders_linesAll d otherwise]
    simp [Statement.walk, nested, unknownKinds_cons, unknownKind?]
  | .forRange var bound body id => by
    rw [lines, placeholders_block, placeholders_linesAll d body]
    rfl
  | .whileLoop condition body id => by
    rw [lines, placeholders_block, placeholders_linesAll d body]
    rfl
  | .function name params body id => by
    rw [lines, placeholders_block, placeholders_linesAll d body]
    rfl
  | .classDef name base members id => by
    have hheader : placeholders ((d.classHeader name base).map Line.plain) = [] :=
      Line.placeholders_map_plain _
    rw [lines, Line.placeholders_append, Line.placeholders_append, hheader,
      Line.placeholders_indent, placeholders_linesMembers, placeholders_linesAll d members]
    exact List.append_nil _

/-- The statements of a list leave the placeholders of their unknown statements. -/
theorem placeholders_linesAll (d : Dialect) : ∀ ss : List (Statement Form),
    placeholders (linesAll d ss) = (unknownKinds (walkAll ss)).map d.placeholder
  | [] => rfl
  | s :: rest => by
    rw [linesAll, Line.placeholders_append, placeholders_lines d s, placeholders_linesAll d rest,
      walkAll, Statement.unknownKinds_append, List.map_append]
    rfl

/-- So do the cases of a switch. -/
theorem placeholders_linesCases (d : Dialect) : ∀ cases : List (Text × List (Statement Form)),
    placeholders (linesCases d cases) = (unknownKinds (walkCases cases)).map d.placeholder
  | [] => rfl
  | (value, body) :: rest => by
    rw [linesCases, Line.placeholders_append, placeholders_caseBlock, placeholders_linesAll d body,
      placeholders_linesCases d rest, walkCases, Statement.unknownKinds_append, List.map_append]

end

/-! ### Programs -/

/-- Empty lines between classes are no placeholders. -/
theorem placeholders_classLines (d : Dialect) : ∀ ss : List (Statement Form),
    placeholders (classLines d ss) = placeholders (linesAll d ss)
  | [] => rfl
  | [s] => by simp [classLines, linesAll]
  | s :: t :: rest => by
    have hrest := placeholders_classLines d (t :: rest)
    simp only [classLines, Line.placeholders_append, Line.placeholders_cons_blank, hrest]
    simp [linesAll]

/-- Nor are those between functions. -/
theorem placeholders_functionLines (d : Dialect) (ss : List (Statement Form)) :
    placeholders (functionLines d ss) = placeholders (linesAll d ss) := by
  induction ss with
  | nil => rfl
  | cons s rest ih =>
    rw [functionLines] at ih ⊢
    simp [linesAll, ih]

/-- Nor is the one after the classes. -/
theorem placeholders_classSection (d : Dialect) (ss : List (Statement Form)) :
    placeholders (classSection d ss) = placeholders (linesAll d ss) := by
  cases ss with
  | nil => rfl
  | cons s rest => simp [classSection, placeholders_classLines]

/-- Nor are the lines that every program has. -/
theorem placeholders_fixedLines (texts : List String) : placeholders (fixedLines texts) = [] := by
  induction texts with
  | nil => rfl
  | cons text rest ih => exact ih

/-- A program leaves the placeholders of its parts, in the order of the dialect. -/
theorem placeholders_programLines (d : Dialect) (p : Program Form) :
    placeholders (programLines d p) =
      (unknownKinds (p.writtenWalk d.language)).map d.placeholder := by
  -- The dialects write the parts in different orders.
  cases d with
  | cpp =>
    have hclasses : placeholders
        (if p.classes.isEmpty then [] else Line.blank :: classLines .cpp p.classes) =
          placeholders (linesAll .cpp p.classes) := by
      cases p.classes with
      | nil => rfl
      | cons s rest => simp [placeholders_classLines]
    simp only [programLines, Line.placeholders_append, hclasses]
    simp [placeholders_fixedLines, placeholders_functionLines, placeholders_linesAll,
      Program.writtenWalk, Dialect.language]
  | csharp | java =>
    simp [programLines, placeholders_fixedLines, placeholders_classSection,
      placeholders_functionLines, placeholders_linesAll, Program.writtenWalk, Dialect.language]

end Braces

/-! ## Python -/

namespace Python

/-- An assignment leaves no placeholders. -/
theorem placeholders_assignment (name value tag : Text) :
    placeholders (assignment name value tag) = [] := by
  simp only [assignment]
  split <;> simp [-List.map_append]

/-- A `pass` in place of an empty block is no placeholder. -/
theorem placeholders_suite {ss : List (Statement Form)} {body : List Line}
    (h : ss = [] → body = []) : placeholders (suite ss body) = placeholders body := by
  cases ss with
  | nil => simp [suite, h]
  | cons s rest => simp [suite]

/-- The branch that is taken when no other is has the placeholders of its statements. -/
theorem placeholders_elseLines (ss : List (Statement Form)) :
    placeholders (elseLines ss (linesAll ss)) = placeholders (linesAll ss) := by
  cases ss with
  | nil => rfl
  | cons s rest => simp [elseLines, suite]

/-- As far as placeholders go, the members of a class are like the statements of a list. -/
theorem placeholders_linesMembers (ss : List (Statement Form)) :
    placeholders (linesMembers ss) = placeholders (linesAll ss) := by
  induction ss with
  | nil => rfl
  | cons s rest ih =>
    -- A method has a header of its own, which is no placeholder.
    cases s with
    | function name params body id => simp [linesMembers, linesAll, lines, methodHeader, ih]
    | _ => simp [linesMembers, linesAll, ih]

mutual

/-- A statement leaves one placeholder for each unknown statement, in depth-first order. -/
theorem placeholders_lines : ∀ s : Statement Form,
    placeholders (lines s) = (unknownKinds s.walk).map placeholder
  | .declare _ name value dataType _ => by
    rw [lines, placeholders_assignment]
    rfl
  | .update name value _ => by
    rw [lines, placeholders_assignment]
    rfl
  | .arrayValues .. => rfl
  | .arraySize .. => rfl
  | .print .. => rfl
  | .call .. => rfl
  | .create .. => rfl
  | .unknown .. => rfl
  | .ifElse condition body orElse id => by
    rw [lines, Line.placeholders_append, Line.placeholders_cons_header, placeholders_elseLines,
      placeholders_suite (by rintro rfl; rfl), placeholders_linesAll body,
      placeholders_linesAll orElse]
    simp [Statement.walk, nested, unknownKinds_cons, unknownKind?]
  | .switch subject [] otherwise id => by
    have hotherwise := placeholders_linesAll otherwise
    -- Without cases only the default is written.
    cases otherwise with
    | nil => rfl
    | cons s rest => exact hotherwise
  | .switch subject ((value, body) :: rest) otherwise id => by
    rw [lines, Line.placeholders_append, Line.placeholders_append, Line.placeholders_cons_header,
      placeholders_elseLines, placeholders_suite (by rintro rfl; rfl), placeholders_linesAll body,
      placeholders_linesCases subject rest, placeholders_linesAll otherwise]
    simp [Statement.walk, nested, walkCases, unknownKinds_cons, unknownKind?]
  | .forRange var bound body id => by
    rw [lines, Line.placeholders_cons_header, placeholders_suite (by rintro rfl; rfl),
      placeholders_linesAll body]
    rfl
  | .whileLoop condition body id => by
    rw [lines, Line.placeholders_cons_header, placeholders_suite (by rintro rfl; rfl),
      placeholders_linesAll body]
    rfl
  | .function name params body id => by
    rw [lines, methodHeader, Line.placeholders_cons_header,
      placeholders_suite (by rintro rfl; rfl), placeholders_linesAll body]
    rfl
  | .classDef name base members id => by
    rw [lines, Line.placeholders_cons_header, placeholders_suite (by rintro rfl; rfl),
      placeholders_linesMembers, placeholders_linesAll members]
    rfl

/-- The statements of a list leave the placeholders of their unknown statements. -/
theorem placeholders_linesAll : ∀ ss : List (Statement Form),
    placeholders (linesAll ss) = (unknownKinds (walkAll ss)).map placeholder
  | [] => rfl
  | s :: rest => by
    rw [linesAll, Line.placeholders_append, placeholders_lines s, placeholders_linesAll rest,
      walkAll, Statement.unknownKinds_append, List.map_append]
    rfl

/-- So do the cases of a switch after the first. -/
theorem placeholders_linesCases (subject : Text) :
    ∀ cases : List (Text × List (Statement Form)),
      placeholders (linesCases subject cases) = (unknownKinds (walkCases cases)).map placeholder
  | [] => rfl
  | (value, body) :: rest => by
    rw [linesCases, Line.placeholders_append, Line.placeholders_cons_branch,
      placeholders_suite (by rintro rfl; rfl), placeholders_linesAll body,
      placeholders_linesCases subject rest, walkCases, Statement.unknownKinds_append,
      List.map_append]

end

/-- Empty lines after definitions are no placeholders. -/
theorem placeholders_entries (ss : List (Statement Form)) :
    placeholders (ss.flatMap fun s => lines s ++ [Line.blank, Line.blank]) =
      placeholders (linesAll ss) := by
  induction ss with
  | nil => rfl
  | cons s rest ih => simp [linesAll, ih]

/-- A program leaves the placeholders of its parts: classes, functions, main body. -/
theorem placeholders_programLines (p : Program Form) :
    placeholders (programLines p) = (unknownKinds (p.writtenWalk .python)).map placeholder := by
  have hbody : placeholders (suite p.body (linesAll p.body)) = placeholders (linesAll p.body) :=
    placeholders_suite (by intro h; rw [h]; rfl)
  simp [programLines, placeholders_entries, hbody, placeholders_linesAll, Program.writtenWalk]

end Python

/-! ## Programs -/

/-- The line that stands for an unknown statement. -/
def Language.placeholder (language : Language) (kind : Text) : Line :=
  match language.dialect? with
  | some dialect => dialect.placeholder kind
  | none => Python.placeholder kind

/-- The placeholder is a comment that names the language and the kind. Where a block may not be
without statements, it follows one that does nothing. -/
theorem Language.text_placeholder (language : Language) (kind : Text) :
    (language.placeholder kind).text =
      (if language = .python then "pass  " else "") ++ language.commentMark ++
        " Unsupported node type for " ++ language.displayName ++ ": " ++ kind := by
  cases language <;> rfl

/-- The line itself keeps the kind. -/
theorem Language.placeholderKind?_placeholder (language : Language) (kind : Text) :
    (language.placeholder kind).placeholderKind? = some kind := by
  cases language <;> rfl

/-- The warning about an unknown statement. -/
def Language.warning (language : Language) (kind : Text) : Log.Entry :=
  ⟨.warning, if language = .python then .renderingPython else .rendering,
    "[" ++ language.name ++ "] unsupported statement kind '" ++ kind ++ "'"⟩

namespace Program

/-- Marks do not touch unknown statements, in whatever order they are written. -/
theorem unknownKinds_writtenWalk_mark (language : Language) (inlineDefault blockScoped : Bool)
    (p : Program Unit) :
    unknownKinds ((p.mark inlineDefault blockScoped).writtenWalk language) =
      unknownKinds (p.writtenWalk language) := by
  have hunmark (q : Program Form) :
      unknownKinds (q.unmark.writtenWalk language) = unknownKinds (q.writtenWalk language) := by
    cases language <;>
      simp [writtenWalk, unmark, Statement.unknownKinds_walkAll_unmarkAll]
  rw [← hunmark, unmark_mark]

/-- The placeholders of a program are those of its unknown statements, in the order in which the
language writes them. -/
theorem placeholders_lines (language : Language) (blockScoped : Bool) (p : Program Unit) :
    placeholders (p.lines language blockScoped) =
      (unknownKinds (p.writtenWalk language)).map language.placeholder := by
  rw [← unknownKinds_writtenWalk_mark language language.inlinesDefault blockScoped, lines]
  cases language with
  | csharp => exact Braces.placeholders_programLines .csharp _
  | cpp => exact Braces.placeholders_programLines .cpp _
  | java => exact Braces.placeholders_programLines .java _
  | python => exact Python.placeholders_programLines _

/-- What is reported as unsupported are the unknown statements, in the order in which the language
writes them. -/
theorem unsupported_eq (language : Language) (blockScoped : Bool) (p : Program Unit) :
    p.unsupported language blockScoped = unknownKinds (p.writtenWalk language) := by
  have hkind : Line.placeholderKind? ∘ language.placeholder = some :=
    funext language.placeholderKind?_placeholder
  rw [unsupported, Line.filterMap_placeholderKind?, placeholders_lines, List.filterMap_map, hkind,
    List.filterMap_some]

/-- Rendering writes every unknown statement once: the warnings it logs are those of the unknown
statements in the order of the language, and so are the placeholders among the lines that make up
the code. -/
theorem render_writes_each_unknown_once (language : Language) (blockScoped : Bool)
    (p : Program Unit) (s : Session) :
    (Job.render language blockScoped p).Gives s (p.source language blockScoped)
        (s.reported
          (⟨.debug, .rendering, "[" ++ language.name ++ "] emitting " ++ p.sizes⟩ ::
            (unknownKinds (p.writtenWalk language)).map language.warning)) ∧
      placeholders (p.lines language blockScoped) =
        (unknownKinds (p.writtenWalk language)).map language.placeholder ∧
      p.source language blockScoped =
        Text.joined "\n" ((p.lines language blockScoped).map (·.writtenAt 0)) ++ "\n" := by
  refine ⟨?_, placeholders_lines language blockScoped p, source_eq language blockScoped p⟩
  rw [← unsupported_eq language blockScoped]
  exact (Job.gives_report (p.renderingLog language blockScoped) s).bind (Job.gives_pure _ _)

end Program

end BlockFlow
