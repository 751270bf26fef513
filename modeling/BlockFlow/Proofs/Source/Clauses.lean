import BlockFlow.Proofs.Positions
import BlockFlow.Proofs.Source.Occurrence
import BlockFlow.Source.Python.Layout

/-!
# Clauses of Python statements

A compound statement in Python consists of clauses, each a line that opens a block together with the
block. This module reads the lines of statements as clauses (`lines_eq_flatMap`). No statement is
left out of the lines (`lines_ne_nil`), and a line opens a block just when it is the first line of a
clause (`countP_lines`). From the second clause of a statement on, the first line continues the
statement, so the clause before has to stand right above it (`Continued`).
-/

namespace BlockFlow

/-- Only the empty string gives the empty text. -/
@[simp]
theorem Text.ofString_eq_nil_iff (s : String) : Text.ofString s = [] ↔ s = "" := by
  simp [Text.ofString, Text.ofChars]

/-- Whether a line opens a block. -/
def Line.opens (line : Line) : Bool :=
  match line.role with
  | .header | .branch => true
  | .plain | .placeholder _ => false

namespace Python

open Line (plain header branch indent deeper shift opens)
open Statement (nested walkAll walkCases)

/-! ## Clauses -/

/-- A block with the line that opens it. From the second clause of a statement on, that line
continues the statement. -/
structure Clause where
  continues : Bool
  text : Text
  body : List Line

namespace Clause

/-- The line that opens the block of a clause. -/
def head (c : Clause) : Line :=
  if c.continues then branch c.text else header c.text

/-- The lines of a clause. -/
def lines (c : Clause) : List Line :=
  c.head :: indent c.body

/-- A clause that holds some statements with the lines they are written as. -/
def of (continues : Bool) (text : Text) (body : List (Statement Form)) (ls : List Line) : Clause :=
  ⟨continues, text, if body.isEmpty then [plain "pass"] else ls⟩

/-- A clause starts at the level of its statement. -/
@[simp]
theorem level_head (c : Clause) : c.head.level = 0 := by
  unfold head
  split <;> rfl

/-- The first line of a clause has its text. -/
@[simp]
theorem text_head (c : Clause) : c.head.text = c.text := by
  unfold head
  split <;> rfl

/-- The first line of a clause opens its block. -/
@[simp]
theorem opens_head (c : Clause) : c.head.opens = true := by
  unfold head
  split <;> rfl

/-- The first line of a first clause is a header. -/
theorem role_head {c : Clause} (h : c.continues = false) : c.head.role = .header := by
  rw [head, h]
  rfl

end Clause

/-- The clause that is taken when no other is, if there is anything in it. -/
def elseClauses (body : List (Statement Form)) : List Clause :=
  if body.isEmpty then [] else [.of true "else:" body (linesAll body)]

/-- The clause of a case of a switch after the first. -/
def elifClause (subject : Text) (case : Text × List (Statement Form)) : Clause :=
  .of true ("elif " ++ caseTest subject case.1 ++ ":") case.2 (linesAll case.2)

/-- The clauses of a statement. -/
def clauses : Statement Form → List Clause
  | .ifElse condition body orElse _ =>
    .of false ("if " ++ spell condition ++ ":") body (linesAll body) :: elseClauses orElse
  | .switch subject ((value, body) :: rest) otherwise _ =>
    .of false ("if " ++ caseTest subject value ++ ":") body (linesAll body)
      :: rest.map (elifClause subject) ++ elseClauses otherwise
  | .forRange var bound body _ =>
    [.of false ("for " ++ var ++ " in range(" ++ spell bound ++ "):") body (linesAll body)]
  | .whileLoop condition body _ =>
    [.of false ("while " ++ spell condition ++ ":") body (linesAll body)]
  | .function name params body _ =>
    [.of false (methodHeader false name params).text body (linesAll body)]
  | .classDef name base members _ =>
    [.of false ("class " ++ name ++ baseClause base ++ ":") members (linesMembers members)]
  | _ => []

/-- The last part of a branch is a clause, if it is written at all. -/
theorem elseLines_eq_flatMap (body : List (Statement Form)) :
    elseLines body (linesAll body) = (elseClauses body).flatMap Clause.lines := by
  unfold elseLines elseClauses
  split
  · rfl
  · rw [List.flatMap_singleton]
    rfl

/-- Each case of a switch after the first is a clause. -/
theorem linesCases_eq_flatMap (subject : Text) (cases : List (Text × List (Statement Form))) :
    linesCases subject cases = (cases.map (elifClause subject)).flatMap Clause.lines := by
  induction cases with
  | nil => rfl
  | cons case rest ih =>
    rw [linesCases, ih, List.map_cons, List.flatMap_cons]
    rfl

/-- A compound statement is written clause by clause. -/
theorem lines_eq_flatMap {s : Statement Form} (h : clauses s ≠ []) :
    lines s = (clauses s).flatMap Clause.lines := by
  cases s with
  | ifElse condition body orElse id =>
    rw [lines, elseLines_eq_flatMap]
    rfl
  | switch subject cases otherwise id =>
    -- Without cases a switch is no compound statement.
    cases cases with
    | nil => exact absurd rfl h
    | cons case rest =>
      rw [lines, elseLines_eq_flatMap, linesCases_eq_flatMap, clauses, List.flatMap_append]
      rfl
  | forRange | whileLoop | function | classDef =>
    rw [clauses, List.flatMap_singleton]
    rfl
  | _ => exact absurd rfl h

/-! ## Every statement is written -/

/-- A step is written as some text. -/
theorem Step.statement_ne_nil (step : Step) : step.statement ≠ [] := by
  unfold statement
  split <;> simp

/-- An assignment is one line and the increments below it. -/
theorem exists_assignment (name value tag : Text) :
    ∃ text more, assignment name value tag = (text :: more).map plain ∧
      ∀ t ∈ text :: more, t ≠ [] := by
  unfold assignment
  simp only
  -- Only where the value is no text its increments go below.
  split
  · exact ⟨_, [], rfl, by simp⟩
  · refine ⟨_, _, rfl, ?_⟩
    intro t ht
    simp only [List.mem_cons, List.mem_append, splitIncrements, List.mem_map] at ht
    rcases ht with rfl | ⟨step, -, rfl⟩ | ⟨step, -, rfl⟩
    · simp
    · exact step.statement_ne_nil
    · exact step.statement_ne_nil

mutual

/-- Every statement has a line. -/
theorem lines_ne_nil : ∀ s : Statement Form, lines s ≠ []
  | .switch _ [] [] _ => List.cons_ne_nil _ _
  | .switch _ [] (s :: rest) _ => linesAll_ne_nil (s :: rest) (List.cons_ne_nil s rest)
  | .switch _ (_ :: _) _ _ => List.cons_ne_nil _ _
  | .declare _ name value dataType _ => by
    obtain ⟨text, more, hlines, -⟩ := exists_assignment name value dataType
    simp [lines, hlines]
  | .update name value _ => by
    obtain ⟨text, more, hlines, -⟩ := exists_assignment name value ""
    simp [lines, hlines]
  | .arrayValues .. => List.cons_ne_nil _ _
  | .arraySize .. => List.cons_ne_nil _ _
  | .print .. => List.cons_ne_nil _ _
  | .ifElse .. => List.cons_ne_nil _ _
  | .forRange .. => List.cons_ne_nil _ _
  | .whileLoop .. => List.cons_ne_nil _ _
  | .function .. => List.cons_ne_nil _ _
  | .call .. => List.cons_ne_nil _ _
  | .classDef .. => List.cons_ne_nil _ _
  | .create .. => List.cons_ne_nil _ _
  | .unknown .. => List.cons_ne_nil _ _

/-- So has every list of statements that is not empty. -/
theorem linesAll_ne_nil : ∀ ss : List (Statement Form), ss ≠ [] → linesAll ss ≠ []
  | s :: rest, _ => by simp [linesAll, lines_ne_nil s]

end

/-- So has a class with members. -/
theorem linesMembers_ne_nil {ss : List (Statement Form)} (h : ss ≠ []) : linesMembers ss ≠ [] := by
  cases ss with
  | nil => exact absurd rfl h
  | cons s rest =>
    cases s with
    | function => simp [linesMembers]
    | _ => simp [linesMembers, lines_ne_nil]

/-! ## Counting clauses -/

/-- Whether a line opens a block and continues a statement, or opens a block and does not. -/
def opensAs (continues : Bool) (line : Line) : Bool :=
  decide (line.role = if continues then .branch else .header)

/-- The number of clauses of all statements of a list that continue their statement, or do not. -/
def clauseCount (continues : Bool) (ss : List (Statement Form)) : Nat :=
  (ss.flatMap clauses).countP (·.continues == continues)

section

variable (continues : Bool)

/-- The clauses of statements are counted statement by statement. -/
theorem clauseCount_cons (s : Statement Form) (ss : List (Statement Form)) :
    clauseCount continues (s :: ss) =
      (clauses s).countP (·.continues == continues) + clauseCount continues ss := by
  rw [clauseCount, List.flatMap_cons, List.countP_append, clauseCount]

/-- They are counted list by list as well. -/
theorem clauseCount_append (ss ts : List (Statement Form)) :
    clauseCount continues (ss ++ ts) = clauseCount continues ss + clauseCount continues ts := by
  rw [clauseCount, List.flatMap_append, List.countP_append, clauseCount, clauseCount]

/-- Indenting lines opens no blocks. -/
theorem countP_indent (ls : List Line) :
    (indent ls).countP (opensAs continues) = ls.countP (opensAs continues) := by
  rw [indent, List.countP_map]
  rfl

/-- The first line of a clause opens a block as the clause does. -/
theorem Clause.opensAs_head (c : Clause) :
    opensAs continues c.head = (c.continues == continues) := by
  rcases c with ⟨_ | _, text, body⟩ <;> cases continues <;> rfl

/-- The lines that open a block among those of some clauses are their first lines and those inside
their blocks. -/
theorem countP_flatMap_lines (cs : List Clause) :
    (cs.flatMap Clause.lines).countP (opensAs continues) =
      cs.countP (·.continues == continues) +
        (cs.flatMap Clause.body).countP (opensAs continues) := by
  induction cs with
  | nil => rfl
  | cons c cs ih =>
    rw [List.flatMap_cons, List.flatMap_cons, List.countP_append, List.countP_append, ih,
      Clause.lines, List.countP_cons, List.countP_cons, countP_indent, Clause.opensAs_head]
    omega

/-- A line that does nothing opens no block. -/
theorem countP_pass : [plain "pass"].countP (opensAs continues) = 0 := by
  cases continues <;> rfl

/-- A clause without statements opens no block inside, as its lines do not. -/
theorem countP_body_of (first : Bool) (text : Text) {body : List (Statement Form)} {ls : List Line}
    (h : body = [] → ls = []) :
    (Clause.of first text body ls).body.countP (opensAs continues) =
      ls.countP (opensAs continues) := by
  cases body with
  | nil =>
    rw [h rfl]
    exact countP_pass continues
  | cons s rest => rfl

/-- The body of a clause opens the blocks of its statements. -/
theorem countP_body_of_linesAll (first : Bool) (text : Text) (body : List (Statement Form)) :
    (Clause.of first text body (linesAll body)).body.countP (opensAs continues) =
      (linesAll body).countP (opensAs continues) :=
  countP_body_of continues first text (by rintro rfl; rfl)

/-- So does the last part of a branch. -/
theorem countP_elseClauses (body : List (Statement Form)) :
    ((elseClauses body).flatMap Clause.body).countP (opensAs continues) =
      (linesAll body).countP (opensAs continues) := by
  cases body with
  | nil => rfl
  | cons s rest =>
    rw [elseClauses, if_neg (by simp), List.flatMap_singleton, countP_body_of_linesAll]

/-- The members of a class open the same blocks as the statements of a list. -/
theorem countP_linesMembers (ss : List (Statement Form)) :
    (linesMembers ss).countP (opensAs continues) = (linesAll ss).countP (opensAs continues) := by
  induction ss with
  | nil => rfl
  | cons s rest ih =>
    cases s with
    | function name params body id =>
      rw [linesMembers, linesAll, lines, List.countP_append, List.countP_append, ih,
        List.countP_cons, List.countP_cons]
      rfl
    | _ => simp [linesMembers, linesAll, ih]

/-- An assignment opens no block. -/
theorem countP_assignment (name value tag : Text) :
    (assignment name value tag).countP (opensAs continues) = 0 := by
  obtain ⟨text, more, hlines, -⟩ := exists_assignment name value tag
  rw [hlines, List.countP_map]
  exact List.countP_eq_zero.mpr fun _ _ => by cases continues <;> nofun

/-- A compound statement opens its own blocks and those of the statements in them. -/
theorem countP_lines_of_clauses {s : Statement Form} (hne : clauses s ≠ [])
    (h : ((clauses s).flatMap Clause.body).countP (opensAs continues) =
      clauseCount continues (nested s)) :
    (lines s).countP (opensAs continues) = clauseCount continues s.walk := by
  rw [lines_eq_flatMap hne, countP_flatMap_lines, h, Statement.walk, clauseCount_cons]

/-- A statement with one clause opens one block and those of the statements in it. -/
theorem countP_lines_of_clause {s : Statement Form} {first : Bool} {text : Text}
    {body : List (Statement Form)} {ls : List Line}
    (hclauses : clauses s = [.of first text body ls]) (hempty : body = [] → ls = [])
    (hls : ls.countP (opensAs continues) = clauseCount continues (nested s)) :
    (lines s).countP (opensAs continues) = clauseCount continues s.walk := by
  apply countP_lines_of_clauses
  · simp [hclauses]
  · rw [hclauses, List.flatMap_singleton, countP_body_of continues first text hempty, hls]

end

mutual

/-- A statement opens one block for each of its clauses, with all that is nested in it. -/
theorem countP_lines (continues : Bool) : ∀ s : Statement Form,
    (lines s).countP (opensAs continues) = clauseCount continues s.walk
  | .declare _ name value dataType _ => countP_assignment continues name value dataType
  | .update name value _ => countP_assignment continues name value ""
  | .arrayValues .. => by cases continues <;> rfl
  | .arraySize .. => by cases continues <;> rfl
  | .print .. => by cases continues <;> rfl
  | .call .. => by cases continues <;> rfl
  | .create .. => by cases continues <;> rfl
  | .unknown .. => by cases continues <;> rfl
  | .ifElse condition body orElse id => by
    apply countP_lines_of_clauses continues (by simp [clauses])
    rw [clauses, List.flatMap_cons, List.countP_append, countP_body_of_linesAll, countP_elseClauses,
      countP_linesAll continues body, countP_linesAll continues orElse, nested, clauseCount_append]
  | .switch _ [] [] _ => by cases continues <;> rfl
  | .switch _ [] (s :: rest) _ => countP_linesAll continues (s :: rest)
  | .switch subject ((value, body) :: rest) otherwise id => by
    apply countP_lines_of_clauses continues (by simp [clauses])
    rw [clauses, List.flatMap_append, List.flatMap_cons, List.countP_append, List.countP_append,
      countP_body_of_linesAll, countP_elseClauses, countP_linesAll continues body,
      countP_elifClauses continues subject rest, countP_linesAll continues otherwise, nested,
      walkCases, clauseCount_append, clauseCount_append]
  | .forRange _ _ body _ =>
    countP_lines_of_clause continues rfl (by rintro rfl; rfl) (countP_linesAll continues body)
  | .whileLoop _ body _ =>
    countP_lines_of_clause continues rfl (by rintro rfl; rfl) (countP_linesAll continues body)
  | .function _ _ body _ =>
    countP_lines_of_clause continues rfl (by rintro rfl; rfl) (countP_linesAll continues body)
  | .classDef _ _ members _ => by
    have hmembers := (countP_linesMembers continues members).trans
      (countP_linesAll continues members)
    exact countP_lines_of_clause continues rfl (by rintro rfl; rfl) hmembers

/-- A list of statements opens one block for each of their clauses. -/
theorem countP_linesAll (continues : Bool) : ∀ ss : List (Statement Form),
    (linesAll ss).countP (opensAs continues) = clauseCount continues (walkAll ss)
  | [] => rfl
  | s :: rest => by
    rw [linesAll, List.countP_append, countP_lines continues s, countP_linesAll continues rest]
    exact (clauseCount_append continues _ _).symm

/-- So do the cases of a switch after the first. -/
theorem countP_elifClauses (continues : Bool) (subject : Text) :
    ∀ cases : List (Text × List (Statement Form)),
      ((cases.map (elifClause subject)).flatMap Clause.body).countP (opensAs continues) =
        clauseCount continues (walkCases cases)
  | [] => rfl
  | (value, body) :: rest => by
    rw [List.map_cons, List.flatMap_cons, List.countP_append, elifClause, countP_body_of_linesAll,
      countP_linesAll continues body, countP_elifClauses continues subject rest, walkCases,
      clauseCount_append]

end

/-- Whether a line starts a clause that is taken on a condition. -/
def IsTest (line : Line) : Prop :=
  Text.ofString "if " <+: line.text ∨ Text.ofString "elif " <+: line.text

/-- At most one clause is taken when no other is. -/
theorem length_elseClauses_le (body : List (Statement Form)) : (elseClauses body).length ≤ 1 := by
  unfold elseClauses
  split <;> simp

/-- Every clause but the last of a statement is taken on a condition. -/
theorem isTest_of_clauses_eq {s : Statement Form} {left right : List Clause} {upper lower : Clause}
    (h : clauses s = left ++ upper :: lower :: right) : IsTest upper.head := by
  -- Only the clause that is taken when no other is has no condition.
  have hsplit : ∀ tests body, tests ++ elseClauses body = left ++ upper :: lower :: right →
      upper ∈ tests := by
    intro tests body h
    rcases append_eq_append_cons h with ⟨mid, rfl, -⟩ | ⟨mid, -, hmid⟩
    · simp
    · have hlength := length_elseClauses_le body
      simp only [hmid, List.length_append, List.length_cons] at hlength
      omega
  cases s with
  | ifElse condition body orElse id =>
    obtain rfl := List.mem_singleton.mp (hsplit [_] orElse h)
    exact Or.inl (by simp [Clause.of])
  | switch subject cases otherwise id =>
    cases cases with
    | nil => simp [clauses] at h
    | cons case rest =>
      rcases List.mem_cons.mp (hsplit _ otherwise h) with rfl | hupper
      · exact Or.inl (by simp [Clause.of])
      · obtain ⟨case, -, rfl⟩ := List.mem_map.mp hupper
        exact Or.inr (by simp [elifClause, Clause.of])
  | forRange | whileLoop | function | classDef =>
    have hlength := congrArg List.length h
    simp [clauses] at hlength
    omega
  | _ => simp [clauses] at h

/-! ## Clauses that continue a statement -/

/-- The lines above a clause of a statement, the line that opens it, its block, the line that opens
the next clause of the statement, and the lines below that one. -/
inductive Adjoins (s : Statement Form) : List Line → Line → List Line → Line → List Line → Prop
  | intro {left right : List Clause} {upper lower : Clause}
      (h : clauses s = left ++ upper :: lower :: right) (levels : Nat) (above below : List Line) :
      Adjoins s (above ++ shift levels (left.flatMap Clause.lines)) (upper.head.deeper levels)
        (shift levels (Line.indent upper.body)) (lower.head.deeper levels)
        (shift levels (Line.indent lower.body ++ right.flatMap Clause.lines) ++ below)

namespace Adjoins

variable {s : Statement Form} {above below block : List Line} {opener line : Line}

/-- Further lines above and below do not part two clauses. -/
theorem append (h : Adjoins s above opener block line below) (xs ys : List Line) :
    Adjoins s (xs ++ above) opener block line (below ++ ys) := by
  obtain ⟨h, levels, above, below⟩ := h
  simpa using Adjoins.intro h levels (xs ++ above) (below ++ ys)

/-- Nor does indenting them. -/
theorem indent (h : Adjoins s above opener block line below) :
    Adjoins s (indent above) (opener.deeper 1) (Line.indent block) (line.deeper 1)
      (Line.indent below) := by
  obtain ⟨h, levels, above, below⟩ := h
  simpa using Adjoins.intro h (levels + 1) (Line.indent above) (Line.indent below)

/-- The clause above is taken on a condition. -/
theorem isTest (h : Adjoins s above opener block line below) : IsTest opener := by
  obtain ⟨h, levels, above, below⟩ := h
  exact isTest_of_clauses_eq h

/-- Both clauses start at the same level. -/
theorem level_eq (h : Adjoins s above opener block line below) : opener.level = line.level := by
  obtain ⟨h, levels, above, below⟩ := h
  simp [Line.deeper]

/-- Everything between them is indented more. -/
theorem level_lt (h : Adjoins s above opener block line below) :
    ∀ inner ∈ block, line.level < inner.level := by
  obtain ⟨h, levels, above, below⟩ := h
  intro inner hinner
  rw [Line.indent_eq_shift, Line.shift_shift] at hinner
  obtain ⟨line, -, rfl⟩ := List.mem_map.mp hinner
  simp [Line.deeper]
  omega

end Adjoins

/-- Every line that goes on with a statement has the clause before right above it. -/
def Continued (ss : List (Statement Form)) (ls : List Line) : Prop :=
  ∀ before line after, ls = before ++ line :: after → line.role = .branch →
    ∃ s ∈ ss, ∃ above opener block, before = above ++ opener :: block ∧
      Adjoins s above opener block line after

namespace Continued

variable {ss ts : List (Statement Form)} {xs ys : List Line}

/-- With more statements to look for there is still one that is continued. -/
theorem mono (h : Continued ss xs) (hsub : ss ⊆ ts) : Continued ts xs := by
  intro before line after hls hrole
  obtain ⟨s, hs, hrest⟩ := h before line after hls hrole
  exact ⟨s, hsub hs, hrest⟩

/-- Lines that do not go on with a statement. -/
theorem of_forall (h : ∀ line ∈ xs, line.role ≠ .branch) : Continued ss xs := by
  intro before line after hls hrole
  exact absurd hrole (h line (by simp [hls]))

/-- Two lists of lines in a row. -/
theorem append (hx : Continued ss xs) (hy : Continued ss ys) : Continued ss (xs ++ ys) := by
  intro before line after hls hrole
  -- The line stands in the first list or in the second one.
  rcases append_eq_append_cons hls with ⟨mid, hxs, rfl⟩ | ⟨mid, rfl, hys⟩
  · obtain ⟨s, hs, above, opener, block, rfl, hadjoins⟩ := hx before line mid hxs hrole
    exact ⟨s, hs, above, opener, block, rfl, by simpa using hadjoins.append [] ys⟩
  · obtain ⟨s, hs, above, opener, block, rfl, hadjoins⟩ := hy mid line after hys hrole
    exact ⟨s, hs, xs ++ above, opener, block, by simp, by simpa using hadjoins.append xs []⟩

/-- Indented lines. -/
theorem indent (h : Continued ss xs) : Continued ss (indent xs) := by
  intro before line after hls hrole
  obtain ⟨before, tail, hxs, rfl, htail⟩ := List.map_eq_append_iff.mp hls
  obtain ⟨line, after, rfl, rfl, rfl⟩ := List.map_eq_cons_iff.mp htail
  obtain ⟨s, hs, above, opener, block, rfl, hadjoins⟩ := h before line after hxs hrole
  exact ⟨s, hs, Line.indent above, opener.deeper 1, Line.indent block, List.map_append,
    hadjoins.indent⟩

/-- The clauses of a statement go on with each other. -/
theorem clauses {s : Statement Form} (hs : s ∈ ss)
    (hfirst : ∀ c ∈ (clauses s).head?, c.continues = false)
    (hbodies : ∀ c ∈ Python.clauses s, Continued ss c.body) :
    Continued ss ((Python.clauses s).flatMap Clause.lines) := by
  intro before line after hls hrole
  obtain ⟨left, clause, right, before, after, hclauses, hclause, rfl, rfl⟩ :=
    flatMap_eq_append_cons hls
  cases before with
  | nil =>
    -- The line opens the clause, so the clause is not the first.
    obtain ⟨rfl, rfl⟩ := List.cons.inj hclause
    rcases List.eq_nil_or_concat left with rfl | ⟨left, upper, rfl⟩
    · have hheader := Clause.role_head (hfirst clause (by simp [hclauses]))
      simp [hheader] at hrole
    · have hadjoins := Adjoins.intro (by simpa using hclauses) 0 [] []
      exact ⟨s, hs, left.flatMap Clause.lines, upper.head, Line.indent upper.body,
        by simp [Clause.lines], by simpa using hadjoins⟩
  | cons head before =>
    -- The line stands in the block of the clause.
    obtain ⟨rfl, hbody⟩ := List.cons.inj hclause
    have hmem : clause ∈ Python.clauses s := by simp [hclauses]
    obtain ⟨t, ht, above, opener, block, rfl, hadjoins⟩ :=
      (hbodies clause hmem).indent before line after hbody hrole
    refine ⟨t, ht, left.flatMap Clause.lines ++ clause.head :: above, opener, block, by simp, ?_⟩
    simpa using hadjoins.append (left.flatMap Clause.lines ++ [clause.head])
      (right.flatMap Clause.lines)

end Continued

end Python

end BlockFlow
