import BlockFlow.Text.Basic

/-!
# Lines of code

Source code is laid out as a list of lines, each at a level of indentation. A line also says what
part it plays in the block structure, so that the structure can be read off without parsing text.
-/

namespace BlockFlow

/-- The part a line plays. -/
inductive Role where
  /-- A line that opens no block by its indentation. -/
  | plain
  /-- The first line of a statement whose block follows one level deeper. -/
  | header
  /-- A further branch of the statement above, whose block follows one level deeper. -/
  | branch
  /-- The line that stands for an unknown statement of this kind. -/
  | placeholder (kind : Text)
deriving DecidableEq, Repr

/-- A line of code. -/
structure Line where
  level : Nat
  role : Role
  text : Text
deriving DecidableEq, Repr

namespace Line

/-- A plain line at the outermost level. -/
def plain (text : Text) : Line := ⟨0, .plain, text⟩

/-- A header at the outermost level. -/
def header (text : Text) : Line := ⟨0, .header, text⟩

/-- A branch at the outermost level. -/
def branch (text : Text) : Line := ⟨0, .branch, text⟩

/-- An empty line. -/
def blank : Line := plain ""

/-- Lines one level deeper. -/
def indent (lines : List Line) : List Line :=
  lines.map fun line => { line with level := line.level + 1 }

@[simp]
theorem indent_append (xs ys : List Line) : indent (xs ++ ys) = indent xs ++ indent ys :=
  List.map_append

/-- The kind of the unknown statement a line stands for. -/
def placeholderKind? (line : Line) : Option Text :=
  match line.role with
  | .placeholder kind => some kind
  | _ => none

end Line

end BlockFlow
