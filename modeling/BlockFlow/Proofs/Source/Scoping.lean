import BlockFlow.Proofs.Source.Declaring
import BlockFlow.Proofs.Source.Placeholders
import BlockFlow.Proofs.Source.Written

/-!
# What block scoping changes

A program can be written with one scope for every block or with a single scope for a whole unit. The
single scope knows at least the names that the scopes of blocks know (`Scopes.Covers`), all the way
through a program, so a statement that assigns with block scoping assigns without it as well.
Nothing else depends on the scopes: side by side, the two outputs of a brace language agree but for
statements that assign in the one and declare in the other (`Braces.Aligned`). Python has no
declarations, and its two outputs are the same.
-/

namespace BlockFlow

namespace Statement

/-- Marking loses and adds no statement. -/
theorem isEmpty_markAll (inlineDefault : Bool) (ss : List (Statement Unit)) (scopes : Scopes) :
    (markAll inlineDefault ss scopes).1.isEmpty = ss.isEmpty := by
  cases ss <;> simp [markAll]

/-- Nor does marking statements in scopes of their own. -/
theorem isEmpty_markEach (inlineDefault blockScoped : Bool) (ss : List (Statement Unit)) :
    (markEach inlineDefault blockScoped ss).isEmpty = ss.isEmpty := by
  cases ss <;> simp [markEach]

/-- A marked statement is a function exactly if the statement is one. -/
theorem isFunction_mark (inlineDefault : Bool) (s : Statement Unit) (scopes : Scopes) :
    (s.mark inlineDefault scopes).1.isFunction = s.isFunction := by
  cases s with
  | switch subject cases otherwise id =>
    rw [mark]
    split <;> rfl
  | _ => rfl

end Statement

/-! ## Python -/

namespace Python

open Statement (isEmpty_markAll isEmpty_markEach isFunction_mark)

/-- A member of a class that is no method is written like a statement. -/
theorem linesMembers_cons_of_isFunction {s : Statement Form} (h : s.isFunction = false)
    (rest : List (Statement Form)) : linesMembers (s :: rest) = lines s ++ linesMembers rest := by
  cases s with
  | function => cases h
  | _ => simp only [linesMembers]

mutual

/-- In Python a statement is written the same way whatever is in scope. -/
theorem lines_mark : ∀ (s : Statement Unit) (u v : Scopes),
    lines (s.mark true u).1 = lines (s.mark true v).1
  | .declare .., _, _ => rfl
  | .update .., _, _ => rfl
  | .arrayValues .., _, _ => rfl
  | .arraySize .., _, _ => rfl
  | .print .., _, _ => rfl
  | .call .., _, _ => rfl
  | .create .., _, _ => rfl
  | .unknown .., _, _ => rfl
  | .ifElse _ body orElse _, u, v => by
    have hbody := linesAll_markAll body u.enter v.enter
    have horElse := linesAll_markAll orElse (Statement.markAll true body u.enter).2.leave.enter
      (Statement.markAll true body v.enter).2.leave.enter
    simp only [Statement.mark, lines, elseLines, suite, isEmpty_markAll, hbody, horElse]
  | .switch _ [] otherwise _, u, v => by
    have hotherwise := linesAll_markAll otherwise u v
    simp only [Statement.mark, Statement.markCases, List.isEmpty_nil, Bool.and_self, if_true, lines,
      isEmpty_markAll, hotherwise]
  | .switch subject ((value, body) :: rest) otherwise _, u, v => by
    have hbody := linesAll_markAll body u.enter v.enter
    have hrest := linesCases_markCases subject rest (Statement.markAll true body u.enter).2.leave
      (Statement.markAll true body v.enter).2.leave
    have hotherwise := linesAll_markAll otherwise
      (Statement.markCases true ((value, body) :: rest) u).2.enter
      (Statement.markCases true ((value, body) :: rest) v).2.enter
    simp only [Statement.markCases] at hotherwise
    simp [Statement.mark, Statement.markCases, lines, elseLines, suite, isEmpty_markAll, hbody,
      hrest, hotherwise]
  | .forRange _ _ body _, u, v => by
    have hbody := linesAll_markAll body u.enter v.enter
    simp only [Statement.mark, lines, suite, isEmpty_markAll, hbody]
  | .whileLoop _ body _, u, v => by
    have hbody := linesAll_markAll body u.enter v.enter
    simp only [Statement.mark, lines, suite, isEmpty_markAll, hbody]
  | .function _ _ body _, u, v => by
    have hbody := linesAll_markAll body (Scopes.new u.blockScoped).enter
      (Scopes.new v.blockScoped).enter
    simp only [Statement.mark, lines, suite, isEmpty_markAll, hbody]
  | .classDef _ _ members _, u, v => by
    have hmembers := linesMembers_markEach members u.blockScoped v.blockScoped
    simp only [Statement.mark, lines, suite, isEmpty_markEach, hmembers]

/-- So are the statements of a list. -/
theorem linesAll_markAll : ∀ (ss : List (Statement Unit)) (u v : Scopes),
    linesAll (Statement.markAll true ss u).1 = linesAll (Statement.markAll true ss v).1
  | [], _, _ => rfl
  | s :: rest, u, v => by
    simp only [Statement.markAll, linesAll, lines_mark s u v,
      linesAll_markAll rest (s.mark true u).2 (s.mark true v).2]

/-- So are the cases of a switch. -/
theorem linesCases_markCases (subject : Text) :
    ∀ (cases : List (Text × List (Statement Unit))) (u v : Scopes),
      linesCases subject (Statement.markCases true cases u).1 =
        linesCases subject (Statement.markCases true cases v).1
  | [], _, _ => rfl
  | (_, body) :: rest, u, v => by
    have hbody := linesAll_markAll body u.enter v.enter
    have hrest := linesCases_markCases subject rest (Statement.markAll true body u.enter).2.leave
      (Statement.markAll true body v.enter).2.leave
    simp only [Statement.markCases, linesCases, suite, isEmpty_markAll, hbody, hrest]

/-- So are the members of a class. -/
theorem linesMembers_markEach : ∀ (ss : List (Statement Unit)) (shared own : Bool),
    linesMembers (Statement.markEach true shared ss) =
      linesMembers (Statement.markEach true own ss)
  | [], _, _ => rfl
  | s :: rest, shared, own => by
    have hs := lines_mark s (Scopes.new shared) (Scopes.new own)
    have hrest := linesMembers_markEach rest shared own
    -- A method has a header of its own.
    cases s with
    | function name params body id =>
      have hbody := linesAll_markAll body (Scopes.new shared).enter (Scopes.new own).enter
      simp only [Statement.markEach, Statement.mark, linesMembers, suite, isEmpty_markAll,
        Scopes.blockScoped_new, hbody, hrest]
    | _ =>
      rw [Statement.markEach, Statement.markEach,
        linesMembers_cons_of_isFunction (isFunction_mark true _ _),
        linesMembers_cons_of_isFunction (isFunction_mark true _ _), hs, hrest]

end

/-- In Python a program is written the same way in both modes. -/
theorem programLines_mark (p : Program Unit) (shared own : Bool) :
    programLines (p.mark true shared) = programLines (p.mark true own) := by
  have hentries (ss : List (Statement Unit)) :
      (Statement.markEach true shared ss).flatMap (fun s => lines s ++ [Line.blank, Line.blank]) =
        (Statement.markEach true own ss).flatMap
          (fun s => lines s ++ [Line.blank, Line.blank]) := by
    simp only [Statement.markEach_eq_map, List.flatMap_map,
      fun s => lines_mark s (Scopes.new shared) (Scopes.new own)]
  have hbody := linesAll_markAll p.body (Scopes.new shared).enter (Scopes.new own).enter
  simp only [programLines, Program.mark, List.flatMap_append, hentries, suite, isEmpty_markAll,
    hbody]

end Python

/-! ## Names in scope -/

namespace Scopes

/-- A single scope knows every name that some scopes of blocks know. -/
structure Covers (shared own : Scopes) : Prop where
  single : shared.blockScoped = false
  blocks : own.blockScoped = true
  known : ∀ name, own.isDeclared name = true → shared.isDeclared name = true

namespace Covers

open Statement (mark markAll markCases)

variable {shared own : Scopes}

/-- At first neither knows any name. -/
theorem new : Covers (Scopes.new false) (Scopes.new true) :=
  ⟨rfl, rfl, by simp⟩

/-- Entering a block changes nothing about this. -/
theorem enter (h : Covers shared own) : Covers shared.enter own.enter :=
  ⟨by simpa using h.single, by simpa using h.blocks, by simpa using h.known⟩

/-- What assigns with the scopes of blocks assigns with the single scope. -/
theorem assigning (h : Covers shared own) (name : Text) :
    Form.ofNew (own.declare name).1 = .assigning →
      Form.ofNew (shared.declare name).1 = .assigning := by
  have hknown := h.known name
  cases hown : own.isDeclared name <;> simp_all [Form.ofNew]

/-- The single scope keeps whatever is introduced in a statement, blocks only what the statement
introduces itself. -/
theorem after_mark (h : Covers shared own) (s : Statement Unit) :
    Covers (mark false s shared).2 (mark false s own).2 := by
  refine ⟨(Statement.blockScoped_mark s shared).trans h.single,
    (Statement.blockScoped_mark s own).trans h.blocks, ?_⟩
  intro name hname
  rw [Statement.snd_mark s own h.blocks, isDeclared_introduce] at hname
  rw [(Statement.tracks_mark s shared h.single).known]
  -- A name was known before, or the statement introduces it itself.
  rcases hname with hname | hname
  · exact .inl (h.known name hname)
  · exact .inr ⟨_, List.mem_cons_self, (Statement.introduces_mark s shared name).2 hname⟩

/-- After a block the single scope knows even more, and the scopes of blocks are back. -/
theorem after_block (h : Covers shared own) (ss : List (Statement Unit)) :
    Covers (markAll false ss shared.enter).2.leave (markAll false ss own.enter).2.leave := by
  have hmarked := (Statement.blockScoped_markAll ss shared).trans h.single
  rw [enter_eq_self h.single, leave_eq_self hmarked, Statement.leave_markAll ss own h.blocks]
  refine ⟨hmarked, h.blocks, ?_⟩
  intro name hname
  exact ((Statement.tracks_markAll ss shared h.single).known name).2 (.inl (h.known name hname))

/-- So it is after the cases of a switch. -/
theorem after_cases (h : Covers shared own) (cases : List (Text × List (Statement Unit))) :
    Covers (markCases false cases shared).2 (markCases false cases own).2 := by
  rw [Statement.snd_markCases cases own h.blocks]
  refine ⟨(Statement.blockScoped_markCases cases shared).trans h.single, h.blocks, ?_⟩
  intro name hname
  exact ((Statement.tracks_markCases cases shared h.single).known name).2
    (.inl (h.known name hname))

end Covers

end Scopes

/-! ## Aligned lines -/

namespace Statement

/-- A statement that introduces a variable, in one of its two forms. -/
def inForm? (form : Form) : Statement Unit → Option (Statement Form)
  | .declare _ name value dataType id => some (.declare form name value dataType id)
  | .arrayValues _ name dataType values id => some (.arrayValues form name dataType values id)
  | .arraySize _ name dataType size id => some (.arraySize form name dataType size id)
  | _ => none

/-- The statements that introduce a variable, in order. -/
def introductions (ss : List (Statement Unit)) : List (Statement Unit) :=
  ss.filter fun s => (s.inForm? .declaring).isSome

@[simp]
theorem introductions_nil : introductions [] = [] :=
  rfl

@[simp]
theorem introductions_append (ss ts : List (Statement Unit)) :
    introductions (ss ++ ts) = introductions ss ++ introductions ts :=
  List.filter_append ..

/-- A statement that introduces nothing itself has the introductions of what is nested in it. -/
theorem introductions_walk {s : Statement Unit} (h : s.inForm? .declaring = none) :
    introductions s.walk = introductions s.nested := by
  rw [walk, introductions, List.filter_cons_of_neg (by simp [h])]
  rfl

end Statement

namespace Braces

open Line (plain blank indent)
open Statement (inForm? introductions walkAll walkCases markAll markCases markEach)

/-- Two outputs side by side, with the statements that introduce a variable in the order of their
lines. Such a statement takes one line in each output, at the same level, and where it assigns in
the second output it does so in the first one. All other lines agree. -/
inductive Aligned (d : Dialect) : List (Statement Unit) → List Line → List Line → Prop
  | nil : Aligned d [] [] []
  | same {ss : List (Statement Unit)} {xs ys : List Line} (line : Line)
      (rest : Aligned d ss xs ys) : Aligned d ss (line :: xs) (line :: ys)
  | introduction {ss : List (Statement Unit)} {xs ys : List Line} {s : Statement Unit}
      {t t' : Statement Form} {form form' : Form} {line line' : Line} (level : Nat)
      (first : s.inForm? form = some t) (second : s.inForm? form' = some t')
      (written : lines d t = [line]) (written' : lines d t' = [line'])
      (weaker : form' = .assigning → form = .assigning) (rest : Aligned d ss xs ys) :
      Aligned d (s :: ss) (line.deeper level :: xs) (line'.deeper level :: ys)

namespace Aligned

variable {d : Dialect} {ss ts : List (Statement Unit)} {xs ys xs' ys' : List Line}

theorem refl (d : Dialect) (xs : List Line) : Aligned d [] xs xs := by
  induction xs with
  | nil => exact .nil
  | cons line rest ih => exact .same line ih

/-- A statement on its own that introduces a variable. -/
theorem single {s : Statement Unit} {t t' : Statement Form} {form form' : Form} {line line' : Line}
    (first : s.inForm? form = some t) (second : s.inForm? form' = some t')
    (written : lines d t = [line]) (written' : lines d t' = [line'])
    (weaker : form' = .assigning → form = .assigning) : Aligned d [s] (lines d t) (lines d t') := by
  rw [written, written']
  exact .introduction 0 first second written written' weaker .nil

theorem append (h : Aligned d ss xs ys) (h' : Aligned d ts xs' ys') :
    Aligned d (ss ++ ts) (xs ++ xs') (ys ++ ys') := by
  induction h with
  | nil => exact h'
  | same line _ ih => exact .same line ih
  | introduction level first second written written' weaker _ ih =>
    exact .introduction level first second written written' weaker ih

/-- Both outputs may go on with the same lines. -/
theorem append_same (h : Aligned d ss xs ys) (common : List Line) :
    Aligned d ss (xs ++ common) (ys ++ common) := by
  have happend := h.append (refl d common)
  rwa [List.append_nil] at happend

theorem same_append (h : Aligned d ss xs ys) (common : List Line) :
    Aligned d ss (common ++ xs) (common ++ ys) :=
  (refl d common).append h

/-- Both outputs may be indented. -/
theorem indent (h : Aligned d ss xs ys) : Aligned d ss (Line.indent xs) (Line.indent ys) := by
  induction h with
  | nil => exact .nil
  | same line _ ih => exact .same _ ih
  | introduction level first second written written' weaker _ ih =>
    exact .introduction (level + 1) first second written written' weaker ih

/-- Both outputs may be put into a block. -/
theorem block (h : Aligned d ss xs ys) (text : Text) :
    Aligned d ss (block text xs) (block text ys) :=
  (h.indent.append_same [closed]).same_append [opened text]

/-- Both outputs may be put into a section of a switch. -/
theorem caseBlock (h : Aligned d ss xs ys) (label : Text) :
    Aligned d ss (caseBlock d label xs) (caseBlock d label ys) := by
  have hbreak := h.append_same [plain "break;"]
  unfold Braces.caseBlock
  split
  · exact hbreak.block label
  · exact .same _ hbreak.indent

/-- Aligned outputs have as many lines. -/
theorem length_eq (h : Aligned d ss xs ys) : xs.length = ys.length := by
  induction h with
  | nil => rfl
  | same line _ ih => simp [ih]
  | introduction _ _ _ _ _ _ _ ih => simp [ih]

end Aligned

/-- Two lines of a statement that introduces a variable, at the same level: the first one assigns,
the second one declares. -/
def DeclaredInstead (d : Dialect) (s : Statement Unit) (x y : Line) : Prop :=
  ∃ t t' line line' level, s.inForm? .assigning = some t ∧ s.inForm? .declaring = some t' ∧
    lines d t = [line] ∧ lines d t' = [line'] ∧ x = line.deeper level ∧ y = line'.deeper level

/-- Where aligned outputs differ, a statement is declared instead. -/
theorem Aligned.exists_declaredInstead {d : Dialect} {ss : List (Statement Unit)}
    {xs ys : List Line} (h : Aligned d ss xs ys) {i : Nat} (hi : xs[i]? ≠ ys[i]?) :
    ∃ s ∈ ss, ∃ x y, xs[i]? = some x ∧ ys[i]? = some y ∧ DeclaredInstead d s x y := by
  induction h generalizing i with
  | nil => exact absurd rfl hi
  | same line _ ih =>
    cases i with
    | zero => exact absurd rfl hi
    | succ i => exact ih hi
  | @introduction _ _ _ s t t' form form' line line' level first second written written' weaker
      _ ih =>
    cases i with
    | zero =>
      refine ⟨s, List.mem_cons_self, line.deeper level, line'.deeper level, rfl, rfl, ?_⟩
      by_cases hform : form = form'
      · -- The same form is written the same way.
        subst hform
        obtain rfl := Option.some.inj (first.symm.trans second)
        obtain rfl := List.singleton_inj.1 (written.symm.trans written')
        exact absurd rfl hi
      · obtain ⟨rfl, rfl⟩ : form = .assigning ∧ form' = .declaring := by
          cases form <;> cases form' <;> simp_all
        exact ⟨t, t', line, line', level, first, second, written, written', rfl, rfl⟩
    | succ i =>
      obtain ⟨s, hs, hdiffer⟩ := ih hi
      exact ⟨s, List.mem_cons_of_mem _ hs, hdiffer⟩

/-! ## The two outputs of a program -/

/-- A part that is written only if there is anything in it. -/
theorem Aligned.unless_empty {d : Dialect} {ss : List (Statement Unit)}
    {ts ts' : List (Statement Form)} {xs ys : List Line} (hts : ts.isEmpty = ss.isEmpty)
    (hts' : ts'.isEmpty = ss.isEmpty)
    (h : Aligned d (introductions (walkAll ss)) xs ys) :
    Aligned d (introductions (walkAll ss)) (if ts.isEmpty then [] else xs)
      (if ts'.isEmpty then [] else ys) := by
  rw [hts, hts']
  cases ss with
  | nil => exact .nil
  | cons s rest => exact h

/-- A member of a class that is no method is written like a statement. -/
theorem linesMembers_cons_of_isFunction {s : Statement Form} (h : s.isFunction = false)
    (d : Dialect) (rest : List (Statement Form)) :
    linesMembers d (s :: rest) = lines d s ++ linesMembers d rest := by
  cases s with
  | function => cases h
  | _ => simp only [linesMembers]

open Statement (isEmpty_markAll isEmpty_markEach isFunction_mark introductions_walk)

mutual

/-- The two ways to write a statement: by induction on the statement, while the single scope covers
the scopes of blocks. -/
theorem aligned_lines (d : Dialect) : ∀ (s : Statement Unit) {shared own : Scopes},
    shared.Covers own → Aligned d (introductions s.walk) (lines d (s.mark false shared).1)
      (lines d (s.mark false own).1)
  | .declare _ name _ _ _, _, _, h => .single rfl rfl rfl rfl (h.assigning name)
  | .arrayValues _ name _ _ _, _, _, h => .single rfl rfl rfl rfl (h.assigning name)
  | .arraySize _ name _ _ _, _, _, h => .single rfl rfl rfl rfl (h.assigning name)
  | .update .., _, _, _ => .refl d _
  | .print .., _, _, _ => .refl d _
  | .call .., _, _, _ => .refl d _
  | .create .., _, _, _ => .refl d _
  | .unknown .., _, _, _ => .refl d _
  | .ifElse condition body orElse id, shared, own, h => by
    have hbody := aligned_linesAll d body h.enter
    have horElse := aligned_linesAll d orElse (h.after_block body).enter
    rw [introductions_walk rfl, Statement.nested, Statement.introductions_append]
    simp only [Statement.mark, lines]
    refine Aligned.append_same (.append (.same _ hbody.indent) ?_) [closed]
    exact .unless_empty (isEmpty_markAll ..) (isEmpty_markAll ..) (.same _ horElse.indent)
  | .switch subject cases otherwise id, shared, own, h => by
    have hcases := aligned_linesCases d cases h
    have hotherwise := aligned_linesAll d otherwise (h.after_cases cases).enter
    rw [introductions_walk rfl, Statement.nested, Statement.introductions_append]
    simp only [Statement.mark, Bool.false_and, Bool.false_eq_true, if_false, lines]
    refine Aligned.block (.append hcases ?_) _
    exact .unless_empty (isEmpty_markAll ..) (isEmpty_markAll ..) (hotherwise.caseBlock _)
  | .forRange _ _ body _, _, _, h => (aligned_linesAll d body h.enter).block _
  | .whileLoop _ body _, _, _, h => (aligned_linesAll d body h.enter).block _
  | .function _ _ body _, shared, own, h => by
    have hbody := aligned_linesAll d body Scopes.Covers.new.enter
    simp only [Statement.mark, lines, h.single, h.blocks]
    exact hbody.block _
  | .classDef name base members _, shared, own, h => by
    have hmembers := aligned_linesMembers d members
    simp only [Statement.mark, lines, h.single, h.blocks]
    exact (hmembers.indent.same_append _).append_same _

/-- The two ways to write a list of statements. -/
theorem aligned_linesAll (d : Dialect) : ∀ (ss : List (Statement Unit)) {shared own : Scopes},
    shared.Covers own → Aligned d (introductions (walkAll ss))
      (linesAll d (markAll false ss shared).1) (linesAll d (markAll false ss own).1)
  | [], _, _, _ => .nil
  | s :: rest, _, _, h => by
    have hs := aligned_lines d s h
    have hrest := aligned_linesAll d rest (h.after_mark s)
    rw [walkAll, Statement.introductions_append]
    exact hs.append hrest

/-- The two ways to write the cases of a switch. -/
theorem aligned_linesCases (d : Dialect) :
    ∀ (cases : List (Text × List (Statement Unit))) {shared own : Scopes}, shared.Covers own →
      Aligned d (introductions (walkCases cases)) (linesCases d (markCases false cases shared).1)
        (linesCases d (markCases false cases own).1)
  | [], _, _, _ => .nil
  | (value, body) :: rest, _, _, h => by
    have hbody := aligned_linesAll d body h.enter
    have hrest := aligned_linesCases d rest (h.after_block body)
    rw [walkCases, Statement.introductions_append]
    exact (hbody.caseBlock _).append hrest

/-- The two ways to write the members of a class, where nothing is in scope. -/
theorem aligned_linesMembers (d : Dialect) : ∀ ss : List (Statement Unit),
    Aligned d (introductions (walkAll ss)) (linesMembers d (markEach false false ss))
      (linesMembers d (markEach false true ss))
  | [] => .nil
  | s :: rest => by
    have hs := aligned_lines d s Scopes.Covers.new
    have hrest := aligned_linesMembers d rest
    rw [walkAll, Statement.introductions_append, markEach, markEach]
    -- A method has a header of its own.
    cases s with
    | function name params body id =>
      have hbody := aligned_linesAll d body Scopes.Covers.new.enter
      exact (hbody.block _).append hrest
    | _ =>
      rw [linesMembers_cons_of_isFunction (isFunction_mark false _ _),
        linesMembers_cons_of_isFunction (isFunction_mark false _ _)]
      exact hs.append hrest

end

/-- The two ways to write the classes of a program. -/
theorem aligned_classLines (d : Dialect) : ∀ ss : List (Statement Unit),
    Aligned d (introductions (walkAll ss)) (classLines d (markEach false false ss))
      (classLines d (markEach false true ss))
  | [] => .nil
  | [s] => by
    have hs := aligned_lines d s Scopes.Covers.new
    rw [walkAll, walkAll, List.append_nil]
    exact hs
  | s :: t :: rest => by
    have hs := aligned_lines d s Scopes.Covers.new
    have hrest := aligned_classLines d (t :: rest)
    rw [walkAll, Statement.introductions_append]
    exact hs.append (.same blank hrest)

/-- The two ways to write its functions. -/
theorem aligned_functionLines (d : Dialect) (ss : List (Statement Unit)) :
    Aligned d (introductions (walkAll ss)) (functionLines d (markEach false false ss))
      (functionLines d (markEach false true ss)) := by
  induction ss with
  | nil => exact .nil
  | cons s rest ih =>
    have hs := aligned_lines d s Scopes.Covers.new
    rw [walkAll, Statement.introductions_append]
    exact .append (.same blank hs) ih

/-- The two ways to write its classes with the empty line after them. -/
theorem aligned_classSection (d : Dialect) (ss : List (Statement Unit)) :
    Aligned d (introductions (walkAll ss)) (classSection d (markEach false false ss))
      (classSection d (markEach false true ss)) :=
  .unless_empty (isEmpty_markEach ..) (isEmpty_markEach ..)
    ((aligned_classLines d ss).append_same [blank])

/-- The two outputs of a program are aligned, its statements taken in the order in which the dialect
writes them. -/
theorem aligned_programLines (d : Dialect) (p : Program Unit) :
    Aligned d (introductions (p.writtenWalk d.language)) (programLines d (p.mark false false))
      (programLines d (p.mark false true)) := by
  have hclasses := aligned_classSection d p.classes
  have hfunctions := aligned_functionLines d p.functions
  have hbody := aligned_linesAll d p.body Scopes.Covers.new.enter
  -- The dialects write the parts in different orders.
  cases d with
  | csharp =>
    simp only [Dialect.language, Program.writtenWalk, Statement.introductions_append,
      List.append_assoc]
    exact ((hclasses.append (((hbody.block _).append hfunctions).block _)).block _).same_append _
  | java =>
    simp only [Dialect.language, Program.writtenWalk, Statement.introductions_append,
      List.append_assoc]
    exact hclasses.append (((hbody.block _).append hfunctions).block _)
  | cpp =>
    have hclasses := Aligned.unless_empty (isEmpty_markEach false false p.classes)
      (isEmpty_markEach false true p.classes) (.same blank (aligned_classLines .cpp p.classes))
    simp only [Dialect.language, Program.writtenWalk, Statement.introductions_append]
    exact ((hclasses.same_append _).append hfunctions).append
      (.same blank ((hbody.append_same _).block _))

end Braces

namespace Program

/-- What introduces a variable as a program is written is one of its statements. -/
theorem mem_walk_of_mem_introductions {language : Language} {p : Program Unit} {s : Statement Unit}
    (h : s ∈ Statement.introductions (p.writtenWalk language)) : s ∈ p.walk := by
  have hs := List.mem_of_mem_filter h
  cases language <;>
    simp only [writtenWalk, walk, Statement.walkAll_append, List.mem_append] at * <;> tauto

/-- Block scoping only turns assignments into declarations. The Python code of a program is the same
with it and without it. In the brace languages the two outputs are aligned: they have the same
number of written lines, and where they differ, a statement that introduces a variable is written
with its assigning form without block scoping and with its declaring form with it. -/
theorem scoping_turns_assignments_into_declarations (p : Program Unit) :
    p.source .python true = p.source .python false ∧
    ∀ d : Braces.Dialect,
      Braces.Aligned d (Statement.introductions (p.writtenWalk d.language))
        (p.lines d.language false) (p.lines d.language true) ∧
      (p.writtenLines d.language false).length = (p.writtenLines d.language true).length ∧
      ∀ i : Nat, (p.writtenLines d.language false)[i]? ≠ (p.writtenLines d.language true)[i]? →
        ∃ s ∈ p.walk, ∃ x y, Braces.DeclaredInstead d s x y ∧
          (p.writtenLines d.language false)[i]? = some (x.writtenAt 0) ∧
          (p.writtenLines d.language true)[i]? = some (y.writtenAt 0) := by
  constructor
  · simp only [source, lines, linesIn, Language.dialect?, Language.inlinesDefault,
      Python.programLines_mark p true false]
  · intro d
    have haligned := Braces.aligned_programLines d p
    rw [← lines_eq_programLines d false p, ← lines_eq_programLines d true p] at haligned
    refine ⟨haligned, by simp [writtenLines, haligned.length_eq], ?_⟩
    intro i hi
    simp only [writtenLines, List.getElem?_map] at hi ⊢
    obtain ⟨s, hs, x, y, hx, hy, hdeclared⟩ :=
      haligned.exists_declaredInstead fun heq => hi (congrArg _ heq)
    refine ⟨s, mem_walk_of_mem_introductions hs, x, y, hdeclared, ?_, ?_⟩
    · rw [hx]
      rfl
    · rw [hy]
      rfl

/-- A variable that is introduced in two branches is declared again in the second one. -/
example :
    let p : Program Unit := ⟨[], [], [.ifElse "c" [.declare () "x" "a" "int" none]
      [.declare () "x" "b" "int" none] none]⟩
    (p.lines .java false)[5]? = some ⟨3, .plain, "x = b;"⟩ ∧
      (p.lines .java true)[5]? = some ⟨3, .plain, "int x = b;"⟩ := by
  decide

end Program

end BlockFlow
