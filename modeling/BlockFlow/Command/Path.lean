import BlockFlow.Text.Blank

/-!
# Paths

Paths of files as people write them. Empty and `.` components do not count; `..` is kept, because
what it stands for depends on the file tree.
-/

namespace BlockFlow.Command

/-- A path: the slashes it starts with, if any, and its components. -/
structure Path where
  root : Text
  parts : List Text
deriving DecidableEq, Repr

namespace Path

/-- Reads a path. Two slashes at the start are kept; any other number counts as one. -/
def ofText (t : Text) : Path :=
  let isSlash (c : CodePoint) := c == .char '/'
  let leading := (t.takeWhile isSlash).length
  let root := if leading = 0 then "" else if leading = 2 then "//" else "/"
  ⟨root, (Text.splitWhere isSlash t).filter fun part => part ≠ "" && part ≠ "."⟩

/-- A path as text. -/
def text (p : Path) : Text :=
  if p.root = "" && p.parts.isEmpty then Text.ofString "." else p.root ++ Text.joined "/" p.parts

/-- Whether a path starts at the root. -/
def isAbsolute (p : Path) : Bool :=
  p.root ≠ ""

/-- The last component. -/
def name (p : Path) : Text :=
  p.parts.getLast?.getD []

/-- A name without its last ending. A dot at the start or at the end of a name starts no ending. -/
def withoutEnding (name : Text) : Text :=
  let ending := name.reverse.takeWhile (· != .char '.')
  let before := name.take (name.length - ending.length - 1)
  if ending.isEmpty || before.isEmpty || ending.length = name.length then name else before

/-- The last component without its last ending. -/
def stem (p : Path) : Text :=
  withoutEnding p.name

/-- A component below a path. -/
def join (p : Path) (part : Text) : Path :=
  { p with parts := p.parts ++ [part] }

end Path

end BlockFlow.Command
