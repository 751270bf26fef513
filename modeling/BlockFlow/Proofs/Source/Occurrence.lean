import BlockFlow.Proofs.Source.Units
import BlockFlow.Source.Braces.Layout

/-!
# Where statements are written

A statement is written as a run of neighbouring lines, some levels deeper than on its own
(`Occurs`). In a brace language every statement of a program is written somewhere, but for
functions, whose header depends on whether they stand in a class (`occurs_programLines`).
-/

namespace BlockFlow

namespace Line

/-- A line some levels deeper. -/
def deeper (levels : Nat) (line : Line) : Line :=
  { line with level := line.level + levels }

/-- Lines some levels deeper. -/
def shift (levels : Nat) (ls : List Line) : List Line :=
  ls.map (deeper levels)

@[simp]
theorem deeper_zero (line : Line) : line.deeper 0 = line :=
  rfl

@[simp]
theorem deeper_deeper (levels more : Nat) (line : Line) :
    (line.deeper levels).deeper more = line.deeper (levels + more) := by
  simp [deeper, Nat.add_assoc]

@[simp]
theorem shift_zero (ls : List Line) : shift 0 ls = ls :=
  List.map_id ls

@[simp]
theorem shift_append (levels : Nat) (xs ys : List Line) :
    shift levels (xs ++ ys) = shift levels xs ++ shift levels ys :=
  List.map_append

/-- Indenting moves lines by one level. -/
theorem indent_eq_shift (ls : List Line) : indent ls = shift 1 ls :=
  rfl

@[simp]
theorem indent_shift (levels : Nat) (ls : List Line) :
    indent (shift levels ls) = shift (levels + 1) ls :=
  List.map_map

@[simp]
theorem shift_shift (levels more : Nat) (ls : List Line) :
    shift more (shift levels ls) = shift (levels + more) ls := by
  simp [shift]

/-- Lines that stand among others, some levels deeper. -/
def Occurs (part ls : List Line) : Prop :=
  ∃ levels above below, ls = above ++ shift levels part ++ below

namespace Occurs

variable {part ls : List Line}

theorem refl (ls : List Line) : Occurs ls ls :=
  ⟨0, [], [], by simp⟩

/-- A part of a part is a part. -/
theorem trans {all : List Line} (h : Occurs part ls) (hls : Occurs ls all) : Occurs part all := by
  obtain ⟨levels, above, below, rfl⟩ := h
  obtain ⟨more, above', below', rfl⟩ := hls
  exact ⟨levels + more, above' ++ shift more above, shift more below ++ below', by simp⟩

/-- A part stays one with further lines below. -/
theorem append_right (h : Occurs part ls) (xs : List Line) : Occurs part (ls ++ xs) := by
  obtain ⟨levels, above, below, rfl⟩ := h
  exact ⟨levels, above, below ++ xs, by simp⟩

/-- It stays one with further lines above. -/
theorem append_left (h : Occurs part ls) (xs : List Line) : Occurs part (xs ++ ls) := by
  obtain ⟨levels, above, below, rfl⟩ := h
  exact ⟨levels, xs ++ above, below, by simp⟩

theorem cons (h : Occurs part ls) (line : Line) : Occurs part (line :: ls) :=
  h.append_left [line]

/-- A part of all lines but the first is one of all. -/
theorem of_tail (h : Occurs part ls.tail) : Occurs part ls := by
  cases ls with
  | nil => exact h
  | cons line rest => exact h.cons line

/-- A part stays one among indented lines. -/
theorem indent (h : Occurs part ls) : Occurs part (Line.indent ls) := by
  obtain ⟨levels, above, below, rfl⟩ := h
  exact ⟨levels + 1, Line.indent above, Line.indent below, by simp⟩

end Occurs

end Line

namespace Braces

open Line (Occurs)
open Statement (nested walkAll walkCases)

/-- A part of the body of a block is one of the block. -/
theorem occurs_block {part body : List Line} (h : Occurs part body) (text : Text) :
    Occurs part (block text body) :=
  (h.indent.append_right [closed]).cons (opened text)

/-- A part of the body of a section is one of the section. -/
theorem occurs_caseBlock {part body : List Line} (h : Occurs part body) (d : Dialect)
    (label : Text) : Occurs part (caseBlock d label body) := by
  have hbreak := h.append_right [Line.plain "break;"]
  unfold caseBlock
  split
  · exact occurs_block hbreak label
  · exact hbreak.indent.cons _

/-- The members of a class are written like the statements of a list, but for the headers of its
functions. -/
theorem exists_linesMembers_cons (d : Dialect) (s : Statement Form) (rest : List (Statement Form)) :
    ∃ first, linesMembers d (s :: rest) = first :: (lines d s).tail ++ linesMembers d rest ∧
      (s.isFunction = false → lines d s = first :: (lines d s).tail) := by
  -- Only a function has another first line as a member of a class.
  cases s with
  | function name params body id =>
    refine ⟨opened (d.methodHeader true name params), ?_, nofun⟩
    simp [linesMembers, lines, block]
  | classDef name base members id =>
    cases d <;> exact ⟨_, rfl, fun _ => rfl⟩
  | _ => exact ⟨_, rfl, fun _ => rfl⟩

mutual

/-- What is nested in a statement is written below its first line. -/
theorem occurs_of_mem_nested (d : Dialect) : ∀ s t : Statement Form, t ∈ nested s →
    t.isFunction = false → Occurs (lines d t) (lines d s).tail
  | .ifElse c body orElse id, t, h, ht => by
    rw [nested, List.mem_append] at h
    -- A second body with a statement in it is not empty, so it is written.
    rcases h with h | h
    · exact ((occurs_of_mem_walkAll d body t h ht).indent.append_right _).append_right _
    · have hne : orElse.isEmpty = false := by
        cases orElse with
        | nil => simp [walkAll] at h
        | cons => rfl
      have horElse := (occurs_of_mem_walkAll d orElse t h ht).indent.cons (opened "\x7d else")
      have hall := (horElse.append_right [closed]).append_left (Line.indent (linesAll d body))
      simpa [lines, hne] using hall
  | .switch c cases otherwise id, t, h, ht => by
    rw [nested, List.mem_append] at h
    -- A default with a statement in it is not empty, so it is written.
    rcases h with h | h
    · exact ((occurs_of_mem_walkCases d cases t h ht).append_right _).indent.append_right _
    · have hne : otherwise.isEmpty = false := by
        cases otherwise with
        | nil => simp [walkAll] at h
        | cons => rfl
      have hdefault := occurs_caseBlock (occurs_of_mem_walkAll d otherwise t h ht) d "default:"
      have hall := (hdefault.append_left (linesCases d cases)).indent.append_right [closed]
      simpa [lines, block, hne] using hall
  | .forRange v c body id, t, h, ht =>
    (occurs_of_mem_walkAll d body t h ht).indent.append_right _
  | .whileLoop c body id, t, h, ht =>
    (occurs_of_mem_walkAll d body t h ht).indent.append_right _
  | .function n params body id, t, h, ht =>
    (occurs_of_mem_walkAll d body t h ht).indent.append_right _
  | .classDef n base members id, t, h, ht => by
    have hmembers := (occurs_of_mem_members d members t h ht).indent.append_right
      [Line.plain d.classFooter]
    cases d with
    | cpp => exact hmembers.cons (Line.plain "public:")
    | csharp | java => exact hmembers

/-- Every statement of a list that is no function is written in the lines of the list. -/
theorem occurs_of_mem_walkAll (d : Dialect) : ∀ (ss : List (Statement Form)) (t : Statement Form),
    t ∈ walkAll ss → t.isFunction = false → Occurs (lines d t) (linesAll d ss)
  | s :: rest, t, h, ht => by
    rw [walkAll, List.mem_append, List.mem_cons] at h
    -- The statement is the first one, nested in it, or further on.
    rcases h with (rfl | h) | h
    · exact (Occurs.refl _).append_right _
    · exact (occurs_of_mem_nested d s t h ht).of_tail.append_right _
    · exact (occurs_of_mem_walkAll d rest t h ht).append_left _

/-- Every statement of a case is written in the lines of the cases. -/
theorem occurs_of_mem_walkCases (d : Dialect) :
    ∀ (cases : List (Text × List (Statement Form))) (t : Statement Form), t ∈ walkCases cases →
      t.isFunction = false → Occurs (lines d t) (linesCases d cases)
  | (value, body) :: rest, t, h, ht => by
    rw [walkCases, List.mem_append] at h
    rcases h with h | h
    · exact (occurs_caseBlock (occurs_of_mem_walkAll d body t h ht) d _).append_right _
    · exact (occurs_of_mem_walkCases d rest t h ht).append_left _

/-- Every statement of a class that is no function is written in the lines of its members. -/
theorem occurs_of_mem_members (d : Dialect) :
    ∀ (ss : List (Statement Form)) (t : Statement Form), t ∈ walkAll ss →
      t.isFunction = false → Occurs (lines d t) (linesMembers d ss)
  | s :: rest, t, h, ht => by
    obtain ⟨first, hlines, hfirst⟩ := exists_linesMembers_cons d s rest
    rw [hlines]
    rw [walkAll, List.mem_append, List.mem_cons] at h
    rcases h with (rfl | h) | h
    · rw [← hfirst ht]
      exact (Occurs.refl _).append_right _
    · exact ((occurs_of_mem_nested d s t h ht).cons first).append_right _
    · exact (occurs_of_mem_members d rest t h ht).append_left _

end

end Braces

end BlockFlow
