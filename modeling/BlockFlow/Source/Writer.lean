import BlockFlow.Source.Line

/-!
# Writers

A writer collects lines of text, each indented by four spaces a level. An empty line is never
indented, and a level below zero indents nothing.
-/

namespace BlockFlow

/-- A collector of indented lines. -/
structure Writer where
  indent : Int
  commentMark : Text
  lines : Array Text

namespace Writer

/-- A writer without lines. -/
def new (indent : Int) (commentMark : Text) : Writer :=
  ⟨indent, commentMark, #[]⟩

/-- The spaces in front of a line at a level. -/
def margin (level : Int) : Text :=
  List.replicate (4 * level).toNat (.char ' ')

/-- Adds a line of text. -/
def writeLine (w : Writer) (text : Text) : Writer :=
  { w with lines := w.lines.push (if text = "" then "" else margin w.indent ++ text) }

/-- Adds an empty line. -/
def blank (w : Writer) : Writer :=
  w.writeLine ""

/-- Adds a comment. -/
def comment (w : Writer) (text : Text) : Writer :=
  w.writeLine (w.commentMark ++ " " ++ text)

/-- Goes one level deeper. -/
def push (w : Writer) : Writer :=
  { w with indent := w.indent + 1 }

/-- Goes one level back, never below zero. -/
def pop (w : Writer) : Writer :=
  { w with indent := max 0 (w.indent - 1) }

/-- Goes some levels deeper. -/
def pushTimes (w : Writer) : Nat → Writer
  | 0 => w
  | n + 1 => w.push.pushTimes n

/-- Goes some levels back. -/
def popTimes (w : Writer) : Nat → Writer
  | 0 => w
  | n + 1 => w.pop.popTimes n

/-- Adds lines of text. -/
def extend (w : Writer) (texts : List Text) : Writer :=
  texts.foldl writeLine w

/-- Adds a line of code, its level counted from the level of the writer. -/
def put (w : Writer) (line : Line) : Writer :=
  { { w with indent := w.indent + line.level }.writeLine line.text with indent := w.indent }

/-- A line at the level of the writer is written as its text. -/
theorem put_eq_writeLine (w : Writer) {line : Line} (h : line.level = 0) :
    w.put line = w.writeLine line.text := by
  simp [put, writeLine, h]

/-- Adds lines of code. -/
def putAll (w : Writer) (lines : List Line) : Writer :=
  lines.foldl put w

@[simp]
theorem indent_put (w : Writer) (line : Line) : (w.put line).indent = w.indent :=
  rfl

/-- Writing lines does not change the level of the writer. -/
@[simp]
theorem indent_putAll (w : Writer) (lines : List Line) : (w.putAll lines).indent = w.indent := by
  induction lines generalizing w with
  | nil => rfl
  | cons line rest ih => simpa [putAll] using ih (w.put line)

@[simp]
theorem putAll_append (w : Writer) (xs ys : List Line) :
    w.putAll (xs ++ ys) = (w.putAll xs).putAll ys :=
  List.foldl_append

/-- The text of all lines. -/
def result (w : Writer) : Text :=
  Text.joined "\n" w.lines.toList

end Writer

end BlockFlow
