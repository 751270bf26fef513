import Mathlib.Algebra.Order.BigOperators.Group.List
import Mathlib.Algebra.Order.Group.Nat
import BlockFlow.Proofs.Program.Rekinding
import BlockFlow.Proofs.Source.Clauses
import BlockFlow.Proofs.Source.Occurrence
import BlockFlow.Proofs.Source.Placeholders

/-!
# Code shows kinds in placeholders only

Other kinds of unknown statements change the placeholders of a program and leave all its other lines
as they are (`Program.lines_rekind`). A longer kind therefore makes the source code longer
(`Program.length_source_lt`), so that two programs that differ in such a kind differ in their code,
in every language.
-/

namespace BlockFlow

variable (f : Text → Text)

namespace Statement

variable (inlineDefault : Bool)

mutual

/-- A statement with other kinds is marked like the statement itself, in the same scopes. -/
theorem mark_rekind : ∀ (s : Statement Unit) (scopes : Scopes),
    mark inlineDefault (rekind f s) scopes =
      (rekind f (mark inlineDefault s scopes).1, (mark inlineDefault s scopes).2)
  | .ifElse _ body orElse _, _ => by
    simp [mark, rekind, markAll_rekindAll body, markAll_rekindAll orElse]
  | .switch _ cases otherwise _, _ => by
    simp only [mark, rekind, isEmpty_rekindCases, markCases_rekindCases cases,
      markAll_rekindAll otherwise]
    -- The default is marked in one of two scopes.
    split <;> simp [rekind]
  | .forRange _ _ body _, _ | .whileLoop _ body _, _ | .function _ _ body _, _ => by
    simp [mark, rekind, markAll_rekindAll body]
  | .classDef _ _ members _, _ => by simp [mark, rekind, markEach_rekindAll members]
  | .declare .., _ | .update .., _ | .arrayValues .., _ | .arraySize .., _ | .print .., _
  | .call .., _ | .create .., _ | .unknown .., _ => by
    simp [mark, rekind]

/-- So are the statements of a list. -/
theorem markAll_rekindAll : ∀ (ss : List (Statement Unit)) (scopes : Scopes),
    markAll inlineDefault (rekindAll f ss) scopes =
      (rekindAll f (markAll inlineDefault ss scopes).1, (markAll inlineDefault ss scopes).2)
  | [], _ => by simp [markAll, rekindAll]
  | s :: rest, _ => by simp [markAll, rekindAll, mark_rekind s, markAll_rekindAll rest]

/-- So are the cases of a switch. -/
theorem markCases_rekindCases :
    ∀ (cases : List (Text × List (Statement Unit))) (scopes : Scopes),
      markCases inlineDefault (rekindCases f cases) scopes =
        (rekindCases f (markCases inlineDefault cases scopes).1,
          (markCases inlineDefault cases scopes).2)
  | [], _ => by simp [markCases, rekindCases]
  | (_, body) :: rest, _ => by
    simp [markCases, rekindCases, markAll_rekindAll body, markCases_rekindCases rest]

/-- So are statements that are each marked in scopes of their own. -/
theorem markEach_rekindAll : ∀ (ss : List (Statement Unit)) (blockScoped : Bool),
    markEach inlineDefault blockScoped (rekindAll f ss) =
      rekindAll f (markEach inlineDefault blockScoped ss)
  | [], _ => by simp [markEach, rekindAll]
  | s :: rest, _ => by simp [markEach, rekindAll, mark_rekind s, markEach_rekindAll rest]

end

end Statement

/-- A program with other kinds is marked like the program itself. -/
theorem Program.mark_rekind (inlineDefault blockScoped : Bool) (p : Program Unit) :
    (p.rekind f).mark inlineDefault blockScoped =
      (p.mark inlineDefault blockScoped).rekind f := by
  simp [Program.mark, Program.rekind, Statement.markEach_rekindAll, Statement.markAll_rekindAll]

/-! ## Exchanging placeholders -/

namespace Line

variable (g : Text → Line)

/-- A line in which a placeholder is exchanged for another one at the same level. -/
def exchange (line : Line) : Line :=
  match line.role with
  | .placeholder kind => (g kind).deeper line.level
  | _ => line

@[simp]
theorem exchange_plain (text : Text) : exchange g (plain text) = plain text :=
  rfl

@[simp]
theorem exchange_header (text : Text) : exchange g (header text) = header text :=
  rfl

@[simp]
theorem exchange_branch (text : Text) : exchange g (branch text) = branch text :=
  rfl

@[simp]
theorem exchange_blank : exchange g blank = blank :=
  rfl

@[simp]
theorem map_exchange_indent (ls : List Line) :
    (indent ls).map (exchange g) = indent (ls.map (exchange g)) := by
  simp only [indent, List.map_map]
  congr 1
  funext line
  obtain ⟨level, role, text⟩ := line
  cases role <;> rfl

end Line

open Line (exchange)
open Statement (rekind rekindAll rekindCases rekindAll_eq_map)

namespace Braces

variable (d : Dialect)

/-- The placeholders of a block are those of its body. -/
@[simp]
theorem map_exchange_block (g : Text → Line) (text : Text) (body : List Line) :
    (block text body).map (exchange g) = block text (body.map (exchange g)) := by
  simp [block, opened, closed]

/-- So are those of a section of a switch. -/
@[simp]
theorem map_exchange_caseBlock (g : Text → Line) (label : Text) (body : List Line) :
    (caseBlock d label body).map (exchange g) = caseBlock d label (body.map (exchange g)) := by
  unfold caseBlock
  split <;> simp

mutual

/-- Other kinds exchange the placeholders in the lines of a statement. -/
theorem lines_rekind : ∀ s : Statement Form,
    lines d (rekind f s) = (lines d s).map (exchange fun kind => d.placeholder (f kind))
  | .ifElse _ body orElse _ => by
    simp [rekind, lines, opened, closed, linesAll_rekindAll body, linesAll_rekindAll orElse,
      apply_ite (List.map _)]
  | .switch _ cases otherwise _ => by
    simp [rekind, lines, linesCases_rekindCases cases, linesAll_rekindAll otherwise,
      apply_ite (List.map _)]
  | .forRange _ _ body _ | .whileLoop _ body _ | .function _ _ body _ => by
    simp [rekind, lines, linesAll_rekindAll body]
  | .classDef _ _ members _ => by
    simp [rekind, lines, linesMembers_rekindAll members]
  | .unknown .. => by simp [rekind, lines, exchange, Dialect.placeholder]
  | .declare .. | .update .. | .arrayValues .. | .arraySize .. | .print .. | .call ..
  | .create .. => by
    simp [rekind, lines]

/-- So they do in the lines of a list of statements. -/
theorem linesAll_rekindAll : ∀ ss : List (Statement Form),
    linesAll d (rekindAll f ss) =
      (linesAll d ss).map (exchange fun kind => d.placeholder (f kind))
  | [] => rfl
  | s :: rest => by simp [rekindAll, linesAll, lines_rekind s, linesAll_rekindAll rest]

/-- So they do in those of the cases of a switch. -/
theorem linesCases_rekindCases : ∀ cases : List (Text × List (Statement Form)),
    linesCases d (rekindCases f cases) =
      (linesCases d cases).map (exchange fun kind => d.placeholder (f kind))
  | [] => rfl
  | (_, body) :: rest => by
    simp [rekindCases, linesCases, linesAll_rekindAll body, linesCases_rekindCases rest]

/-- So they do in those of the members of a class. -/
theorem linesMembers_rekindAll : ∀ ss : List (Statement Form),
    linesMembers d (rekindAll f ss) =
      (linesMembers d ss).map (exchange fun kind => d.placeholder (f kind))
  | [] => rfl
  | s :: rest => by
    have hfirst := lines_rekind s
    have hrest := linesMembers_rekindAll rest
    -- A method has a header of its own.
    cases s with
    | function name params body id =>
      simp [rekindAll, rekind, linesMembers, linesAll_rekindAll body, hrest]
    | _ =>
      simp only [linesMembers, List.map_append]
      rw [← hfirst, ← hrest]
      rfl

end

/-- So they do in those of the classes of a program. -/
theorem classLines_rekindAll : ∀ ss : List (Statement Form),
    classLines d (rekindAll f ss) =
      (classLines d ss).map (exchange fun kind => d.placeholder (f kind))
  | [] => rfl
  | [s] => lines_rekind f d s
  | s :: t :: rest => by
    have hrest := classLines_rekindAll (t :: rest)
    simp only [rekindAll, classLines, lines_rekind] at hrest ⊢
    simp [hrest]

/-- So they do in those of its functions. -/
theorem functionLines_rekindAll (ss : List (Statement Form)) :
    functionLines d (rekindAll f ss) =
      (functionLines d ss).map (exchange fun kind => d.placeholder (f kind)) := by
  simp [functionLines, rekindAll_eq_map, List.flatMap_map, List.map_flatMap, lines_rekind]

/-- Other kinds exchange the placeholders in the lines of a program. -/
theorem programLines_rekind (p : Program Form) :
    programLines d (p.rekind f) =
      (programLines d p).map (exchange fun kind => d.placeholder (f kind)) := by
  cases d <;>
    simp [programLines, Program.rekind, fixedLines, classSection, classLines_rekindAll,
      functionLines_rekindAll, linesAll_rekindAll, apply_ite (List.map _)]

end Braces

namespace Python

/-- The placeholders below a header are those of the body. -/
@[simp]
theorem map_exchange_suite (g : Text → Line) (ss : List (Statement Form)) (body : List Line) :
    (suite ss body).map (exchange g) = suite ss (body.map (exchange g)) := by
  cases ss <;> simp [suite]

/-- So are those of the branch that is taken when no other is. -/
@[simp]
theorem map_exchange_elseLines (g : Text → Line) (ss : List (Statement Form)) (body : List Line) :
    (elseLines ss body).map (exchange g) = elseLines ss (body.map (exchange g)) := by
  cases ss <;> simp [elseLines]

/-- An assignment has no placeholders. -/
@[simp]
theorem map_exchange_assignment (g : Text → Line) (name value tag : Text) :
    (assignment name value tag).map (exchange g) = assignment name value tag := by
  simp only [assignment]
  split <;> simp [Function.comp_def]

/-- Other kinds do not change whether there are statements below a header. -/
@[simp]
theorem suite_rekindAll (ss : List (Statement Form)) (body : List Line) :
    suite (rekindAll f ss) body = suite ss body := by
  simp only [suite, Statement.isEmpty_rekindAll]

/-- Nor whether there is a last branch. -/
@[simp]
theorem elseLines_rekindAll (ss : List (Statement Form)) (body : List Line) :
    elseLines (rekindAll f ss) body = elseLines ss body := by
  simp only [elseLines, suite_rekindAll, Statement.isEmpty_rekindAll]

@[simp]
theorem exchange_methodHeader (g : Text → Line) (isMember : Bool) (name : Text)
    (params : List Param) :
    exchange g (methodHeader isMember name params) = methodHeader isMember name params :=
  rfl

mutual

/-- Other kinds exchange the placeholders in the lines of a statement. -/
theorem lines_rekind : ∀ s : Statement Form,
    lines (rekind f s) = (lines s).map (exchange fun kind => placeholder (f kind))
  | .ifElse _ body orElse _ => by
    simp [rekind, lines, linesAll_rekindAll body, linesAll_rekindAll orElse]
  | .switch _ [] otherwise _ => by
    simp [rekind, rekindCases, lines, linesAll_rekindAll otherwise, apply_ite (List.map _)]
  | .switch _ ((_, body) :: rest) otherwise _ => by
    simp [rekind, rekindCases, lines, linesAll_rekindAll body,
      linesCases_rekindCases _ rest, linesAll_rekindAll otherwise]
  | .forRange _ _ body _ | .whileLoop _ body _ | .function _ _ body _ => by
    simp [rekind, lines, linesAll_rekindAll body]
  | .classDef _ _ members _ => by simp [rekind, lines, linesMembers_rekindAll members]
  | .unknown .. => by simp [rekind, lines, exchange, placeholder]
  | .declare .. | .update .. | .arrayValues .. | .arraySize .. | .print .. | .call ..
  | .create .. => by
    simp [rekind, lines]

/-- So they do in the lines of a list of statements. -/
theorem linesAll_rekindAll : ∀ ss : List (Statement Form),
    linesAll (rekindAll f ss) = (linesAll ss).map (exchange fun kind => placeholder (f kind))
  | [] => rfl
  | s :: rest => by simp [rekindAll, linesAll, lines_rekind s, linesAll_rekindAll rest]

/-- So they do in those of the cases of a switch after the first. -/
theorem linesCases_rekindCases (subject : Text) :
    ∀ cases : List (Text × List (Statement Form)),
      linesCases subject (rekindCases f cases) =
        (linesCases subject cases).map (exchange fun kind => placeholder (f kind))
  | [] => rfl
  | (_, body) :: rest => by
    simp [rekindCases, linesCases, linesAll_rekindAll body, linesCases_rekindCases subject rest]

/-- So they do in those of the members of a class. -/
theorem linesMembers_rekindAll : ∀ ss : List (Statement Form),
    linesMembers (rekindAll f ss) =
      (linesMembers ss).map (exchange fun kind => placeholder (f kind))
  | [] => rfl
  | s :: rest => by
    have hfirst := lines_rekind s
    have hrest := linesMembers_rekindAll rest
    -- A method has a header of its own.
    cases s with
    | function name params body id =>
      simp [rekindAll, rekind, linesMembers, linesAll_rekindAll body, hrest]
    | _ =>
      simp only [linesMembers, List.map_append]
      rw [← hfirst, ← hrest]
      rfl

end

/-- Other kinds exchange the placeholders in the lines of a program. -/
theorem programLines_rekind (p : Program Form) :
    programLines (p.rekind f) =
      (programLines p).map (exchange fun kind => placeholder (f kind)) := by
  have hentries (ss : List (Statement Form)) :
      (rekindAll f ss).flatMap (fun s => lines s ++ [Line.blank, Line.blank]) =
        (ss.flatMap fun s => lines s ++ [Line.blank, Line.blank]).map
          (exchange fun kind => placeholder (f kind)) := by
    simp [rekindAll_eq_map, List.flatMap_map, List.map_flatMap, lines_rekind]
  simp [programLines, Program.rekind, linesAll_rekindAll, hentries]

end Python

/-! ## Programs -/

/-- Other kinds only exchange the placeholders of a program. -/
theorem Program.lines_rekind (language : Language) (blockScoped : Bool) (p : Program Unit) :
    (p.rekind f).lines language blockScoped =
      (p.lines language blockScoped).map (exchange fun kind => language.placeholder (f kind)) := by
  rw [lines, mark_rekind, lines]
  cases language with
  | csharp => exact Braces.programLines_rekind f .csharp _
  | cpp => exact Braces.programLines_rekind f .cpp _
  | java => exact Braces.programLines_rekind f .java _
  | python => exact Python.programLines_rekind f _

/-! ## Length of the code -/

/-- The length of texts that are joined by a separator. -/
theorem Text.length_joined (separator : Text) (texts : List Text) :
    (joined separator texts).length =
      texts.flatten.length + (texts.length - 1) * separator.length := by
  induction texts with
  | nil => simp [joined]
  | cons text rest ih =>
    cases rest with
    | nil => simp [joined]
    | cons next rest =>
      simp only [joined, List.intercalate_cons_cons, List.flatten_cons, List.length_append,
        List.length_cons, Nat.add_sub_cancel] at ih ⊢
      rw [ih, Nat.succ_mul]
      omega

namespace Language

variable (language : Language)

/-- A placeholder ends in the kind it stands for. -/
theorem exists_placeholder_text :
    ∃ mark : Text, mark ≠ [] ∧ ∀ kind, (language.placeholder kind).text = mark ++ kind := by
  exact ⟨_, by simp, language.text_placeholder⟩

/-- A placeholder at some level is as long as its kind, up to a constant. -/
theorem exists_length_placeholder (level : Nat) : ∃ length : Nat,
    ∀ kind, (((language.placeholder kind).deeper level).writtenAt 0).length =
      length + kind.length := by
  obtain ⟨mark, hmark, htext⟩ := language.exists_placeholder_text
  refine ⟨(Writer.margin (0 + level)).length + mark.length, fun kind => ?_⟩
  have hlevel : ((language.placeholder kind).deeper level).level = level := by
    cases language <;> simp [placeholder, dialect?, Line.deeper, Braces.Dialect.placeholder,
      Python.placeholder]
  have hdeeper : ((language.placeholder kind).deeper level).text = mark ++ kind := htext kind
  rw [Line.writtenAt_of_ne_nil (by simp [hdeeper, hmark]), hlevel, hdeeper]
  simp [Nat.add_assoc]

/-- A placeholder is exchanged for that of its kind at the same level. -/
theorem exchange_placeholder (g : Text → Line) (kind : Text) (level : Nat) :
    exchange g ((language.placeholder kind).deeper level) = (g kind).deeper level := by
  cases language <;> simp [exchange, placeholder, dialect?, Line.deeper,
    Braces.Dialect.placeholder, Python.placeholder]

end Language

namespace Program

variable {f} {language : Language} {blockScoped : Bool} {p : Program Unit}

/-- The length of the code is that of its lines, with a line break for each. -/
theorem length_source (language : Language) (blockScoped : Bool) (p : Program Unit) :
    (p.source language blockScoped).length =
      ((p.lines language blockScoped).flatMap (·.writtenAt 0)).length
        + ((p.lines language blockScoped).length - 1) + 1 := by
  have hbreak : (Text.ofString "\n").length = 1 := rfl
  rw [source_eq, List.length_append, Text.length_joined, hbreak, Nat.mul_one, writtenLines,
    List.length_map, ← List.flatMap_def]

/-- A line that stands for an unknown statement is the placeholder of the language at some level. -/
theorem exists_level_of_mem_lines {line : Line} {kind : Text}
    (h : line ∈ p.lines language blockScoped) (hrole : line.role = .placeholder kind) :
    ∃ level, line = (language.placeholder kind).deeper level := by
  obtain ⟨level, role, text⟩ := line
  obtain rfl : role = .placeholder kind := hrole
  have hmem : (⟨0, .placeholder kind, text⟩ : Line) ∈
      Line.placeholders (p.lines language blockScoped) :=
    List.mem_filterMap.2 ⟨_, h, rfl⟩
  rw [placeholders_lines, List.mem_map] at hmem
  obtain ⟨kind', -, hline⟩ := hmem
  have hkind := language.placeholderKind?_placeholder kind'
  rw [hline] at hkind
  obtain rfl : kind = kind' := Option.some.inj hkind
  exact ⟨level, by simp [hline, Line.deeper]⟩

/-- The order in which a program is written does not change which kinds it has. -/
theorem mem_unknownKinds_writtenWalk {kind : Text} :
    kind ∈ Statement.unknownKinds (p.writtenWalk language) ↔
      kind ∈ Statement.unknownKinds p.walk := by
  cases language <;> simp [writtenWalk, walk, or_comm]

/-- Every kind of an unknown statement has a placeholder. -/
theorem exists_mem_lines {kind : Text} (h : kind ∈ Statement.unknownKinds p.walk)
    (language : Language) (blockScoped : Bool) :
    ∃ level, (language.placeholder kind).deeper level ∈ p.lines language blockScoped := by
  rw [← mem_unknownKinds_writtenWalk, ← unsupported_eq language blockScoped, unsupported,
    List.mem_filterMap] at h
  obtain ⟨line, hmem, hkind⟩ := h
  have hrole : line.role = .placeholder kind := by
    obtain ⟨level, role, text⟩ := line
    cases role <;> simp_all [Line.placeholderKind?]
  obtain ⟨level, rfl⟩ := exists_level_of_mem_lines hmem hrole
  exact ⟨level, hmem⟩

/-- A longer kind makes the code longer. -/
theorem length_source_lt (hle : ∀ kind, kind.length ≤ (f kind).length) {kind : Text}
    (hkind : kind ∈ Statement.unknownKinds p.walk) (hlt : kind.length < (f kind).length)
    (language : Language) (blockScoped : Bool) :
    (p.source language blockScoped).length < ((p.rekind f).source language blockScoped).length := by
  -- Line by line the code gets no shorter, and at the placeholder of the kind it gets longer.
  have hline (line : Line) (hmem : line ∈ p.lines language blockScoped) :
      (line.writtenAt 0).length ≤
        ((exchange (fun kind => language.placeholder (f kind)) line).writtenAt 0).length := by
    -- Only a placeholder is exchanged.
    cases hrole : line.role with
    | placeholder kind =>
      obtain ⟨level, rfl⟩ := exists_level_of_mem_lines hmem hrole
      obtain ⟨length, hlength⟩ := language.exists_length_placeholder level
      rw [language.exchange_placeholder, hlength, hlength]
      exact Nat.add_le_add_left (hle kind) length
    | _ => simp [exchange, hrole]
  obtain ⟨level, hmem⟩ := exists_mem_lines hkind language blockScoped
  have hlonger : (((language.placeholder kind).deeper level).writtenAt 0).length <
      ((exchange (fun kind => language.placeholder (f kind))
        ((language.placeholder kind).deeper level)).writtenAt 0).length := by
    obtain ⟨length, hlength⟩ := language.exists_length_placeholder level
    rw [language.exchange_placeholder, hlength, hlength]
    exact Nat.add_lt_add_left hlt length
  have hsum := List.sum_lt_sum (fun line : Line => (line.writtenAt 0).length)
    (fun line => ((exchange (fun kind => language.placeholder (f kind)) line).writtenAt 0).length)
    hline ⟨_, hmem, hlonger⟩
  rw [length_source, length_source, lines_rekind, List.length_map, List.flatMap_map,
    List.length_flatMap, List.length_flatMap]
  exact Nat.add_lt_add_right (Nat.add_lt_add_right hsum _) 1

end Program

end BlockFlow
