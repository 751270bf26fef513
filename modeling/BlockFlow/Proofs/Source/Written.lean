import BlockFlow.Source.Rendering

/-!
# Written lines

A writer turns every line of code into one line of text: the margin of its level in front of the
text, or nothing at all for an empty line (`Writer.lines_putAll`). The source code of a program is
its written lines, with a line break after each (`Program.source_eq`).
-/

namespace BlockFlow

/-- A line of code as a writer at a level writes it. -/
def Line.writtenAt (indent : Int) (line : Line) : Text :=
  if line.text = "" then "" else Writer.margin (indent + line.level) ++ line.text

/-- A line with a text is written with the margin of its level. -/
theorem Line.writtenAt_of_ne_nil {line : Line} (h : line.text ≠ []) (indent : Int) :
    line.writtenAt indent = Writer.margin (indent + line.level) ++ line.text :=
  if_neg h

/-- Writing lines of code adds one line of text for each. -/
theorem Writer.lines_putAll (w : Writer) (ls : List Line) :
    (w.putAll ls).lines.toList = w.lines.toList ++ ls.map (·.writtenAt w.indent) := by
  induction ls generalizing w with
  | nil => simp [putAll]
  | cons line rest ih =>
    have hput : (w.put line).lines.toList = w.lines.toList ++ [line.writtenAt w.indent] := by
      simp [put, writeLine, Line.writtenAt]
    have hrest := ih (w.put line)
    rw [hput, indent_put] at hrest
    simpa [putAll] using hrest

namespace Program

/-- The lines of text of a program's source code. -/
def writtenLines (language : Language) (blockScoped : Bool) (p : Program Unit) : List Text :=
  (p.lines language blockScoped).map (·.writtenAt 0)

/-- The source code of a program is its lines of text, with a line break after each. -/
theorem source_eq (language : Language) (blockScoped : Bool) (p : Program Unit) :
    p.source language blockScoped =
      Text.joined "\n" (p.writtenLines language blockScoped) ++ "\n" := by
  rw [source, Writer.result, Writer.lines_putAll]
  rfl

end Program

end BlockFlow
