import BlockFlow.Log
import BlockFlow.Source.Braces.Layout
import BlockFlow.Source.Language
import BlockFlow.Source.Python.Layout
import BlockFlow.Source.Writer

/-!
# Rendering programs

A program is rendered in two steps: its declarations are marked, then the marked program is laid out
as lines. Every unknown statement leaves one placeholder line, and each of those is reported.
-/

namespace BlockFlow

/-- The brace dialect of a language, if its blocks stand in braces. -/
def Language.dialect? : Language → Option Braces.Dialect
  | .csharp => some .csharp
  | .cpp => some .cpp
  | .java => some .java
  | .python => none

/-- In Python the default of a switch without cases is no block of its own. -/
def Language.inlinesDefault : Language → Bool
  | .python => true
  | _ => false

/-- What starts a comment. -/
def Language.commentMark : Language → Text
  | .python => "#"
  | _ => "//"

/-- The lines of a marked statement. -/
def Statement.linesIn (language : Language) (s : Statement Form) : List Line :=
  match language.dialect? with
  | some dialect => Braces.lines dialect s
  | none => Python.lines s

/-- Writes a statement, with the names in scope before and after it. -/
def Statement.write (language : Language) (s : Statement Unit) (w : Writer) (scopes : Scopes) :
    Writer × Scopes :=
  let marked := s.mark language.inlinesDefault scopes
  (w.putAll (marked.1.linesIn language), marked.2)

namespace Program

/-- The lines of a marked program. -/
def linesIn (language : Language) (p : Program Form) : List Line :=
  match language.dialect? with
  | some dialect => Braces.programLines dialect p
  | none => Python.programLines p

/-- The lines of a program. -/
def lines (language : Language) (blockScoped : Bool) (p : Program Unit) : List Line :=
  (p.mark language.inlinesDefault blockScoped).linesIn language

/-- In a brace language the marked program is laid out by its dialect. -/
theorem lines_eq_programLines (d : Braces.Dialect) (blockScoped : Bool) (p : Program Unit) :
    p.lines d.language blockScoped = Braces.programLines d (p.mark false blockScoped) := by
  cases d <;> rfl

/-- The source code of a program. -/
def source (language : Language) (blockScoped : Bool) (p : Program Unit) : Text :=
  ((Writer.new 0 language.commentMark).putAll (p.lines language blockScoped)).result ++ "\n"

/-- The kinds of the unknown statements, in the order of their placeholders. -/
def unsupported (language : Language) (blockScoped : Bool) (p : Program Unit) : List Text :=
  (p.lines language blockScoped).filterMap Line.placeholderKind?

/-- A report of the sizes of a program's parts. -/
def sizes {δ : Type} (p : Program δ) : Text :=
  toString p.classes.length ++ " classes, " ++ toString p.functions.length ++ " functions, "
    ++ toString p.body.length ++ " body statements"

/-- What is reported when a program is rendered. -/
def renderingLog (language : Language) (blockScoped : Bool) (p : Program Unit) : List Log.Entry :=
  let channel := if language = .python then Log.Channel.renderingPython else .rendering
  ⟨.debug, .rendering, "[" ++ language.name ++ "] emitting " ++ p.sizes⟩ ::
    (p.unsupported language blockScoped).map fun kind =>
      ⟨.warning, channel,
        "[" ++ language.name ++ "] unsupported statement kind '" ++ kind ++ "'"⟩

end Program

end BlockFlow
