import BlockFlow.Proofs.Source.Bracing

/-!
# Blocks of a program

What the tree of a program's source code (`Braces.programCode`) holds. The introductions of
variables stand in it in the order in which they are written (`introductionsAll_programCode`). Each
block belongs to a statement of the program, apart from the block of the main body and those that
hold classes and functions, and what is declared directly in it can be read off the statement
(`mem_blocksAll_programCode`). If no text of the program holds a brace, then no text of the tree
does (`plainAll_programCode`): its pairs of braces are those of the source code, initialisers of
arrays aside.
-/

namespace BlockFlow

/-! ## Declared names -/

namespace Statement

/-- The name that a statement declares. -/
def declaredName? (s : Statement Form) : Option Text :=
  match s.introduction? with
  | some (name, .declaring) => some name
  | _ => none

/-- The names that the statements of a list declare, without those nested in them. -/
def declaredNames (ss : List (Statement Form)) : List Text :=
  ss.filterMap declaredName?

end Statement

namespace Braces

open Line (plain blank unlinesAt)
open Statement (declaredNames)
open Code

/-! ## Empty lines -/

section EmptyLines

variable (d : Dialect) (level : Int) {α : Type} {f : Code → List α}

theorem codeAll_eq_flatMap (ss : List (Statement Form)) :
    codeAll d level ss = ss.flatMap (code d level) := by
  induction ss with
  | nil => simp [codeAll]
  | cons s rest ih => simp [codeAll, ih]

/-- What leaves texts aside does not see empty lines. -/
theorem flatMap_blankBefore (hf : ∀ t, f (.text t) = []) (ss : List (Statement Form)) :
    (blankBefore d level ss).flatMap f = (codeAll d level ss).flatMap f := by
  simp [blankBefore, codeAll_eq_flatMap, List.flatMap_assoc, linesCode, hf]

/-- Nor those that come after. -/
theorem flatMap_blankAfter (hf : ∀ t, f (.text t) = []) (ss : List (Statement Form)) :
    (blankAfter d level ss).flatMap f = (codeAll d level ss).flatMap f := by
  simp [blankAfter, codeAll_eq_flatMap, List.flatMap_assoc, linesCode, hf]

end EmptyLines

/-! ## Introductions -/

section Introductions

variable (d : Dialect) (level : Int) (body : List Code)

/-- Lines alone introduce nothing. -/
@[simp]
theorem introductions_linesCode (ls : List Line) : (linesCode level ls).introductions = [] := by
  rw [linesCode, introductions]

/-- A block introduces what its body does. -/
@[simp]
theorem introductionsAll_blockCode (holds : Holds) (text : Text) :
    introductionsAll (blockCode level holds text body) = introductionsAll body := by
  simp [blockCode, bracesCode, introductionsAll, introductions]

/-- So does a section of a switch. -/
@[simp]
theorem introductionsAll_sectionCode (label : Text) :
    introductionsAll (sectionCode d level label body) = introductionsAll body := by
  unfold sectionCode
  split <;> simp [introductionsAll]

/-- So does a class. -/
@[simp]
theorem introductionsAll_classCode (name base : Text) :
    introductionsAll (classCode d level name base body) = introductionsAll body := by
  cases d <;> simp [classCode, bracesCode, introductionsAll, introductions]

/-- A statement without a block introduces at most a variable of its own. -/
theorem introductionsAll_leafCode (s : Statement Form) :
    introductionsAll [leafCode d level s] = s.introduction?.toList := by
  unfold leafCode
  -- The line is one that introduces a variable, or any other.
  split
  · rename_i name form h
    simp [introductionsAll, introductions, h]
  · rename_i h
    simp [introductionsAll, h]

/-- A method introduces what the function does. -/
theorem introductionsAll_codeMembers (ss : List (Statement Form)) :
    introductionsAll (codeMembers d level ss) = introductionsAll (codeAll d level ss) := by
  induction ss with
  | nil => rfl
  | cons s rest ih =>
    cases s with
    | function name params body id => simp [codeMembers, codeAll, code, ih]
    | _ => simp [codeMembers, codeAll, ih]

mutual

/-- The tree of a statement holds the introductions of its statements, in depth-first order. -/
theorem introductionsAll_code : ∀ (s : Statement Form) (level : Int),
    introductionsAll (code d level s) = s.walk.filterMap Statement.introduction?
  | .ifElse condition body orElse id, level => by
    have hwalk : (Statement.ifElse condition body orElse id).walk.filterMap
        Statement.introduction? =
          (Statement.walkAll body ++ Statement.walkAll orElse).filterMap
            Statement.introduction? := rfl
    rw [hwalk, List.filterMap_append, ← introductionsAll_codeAll body (level + 1),
      ← introductionsAll_codeAll orElse (level + 1), code]
    cases orElse <;> simp [bracesCode, introductionsAll, introductions, codeAll]
  | .switch subject cases otherwise id, level => by
    have hwalk : (Statement.switch subject cases otherwise id).walk.filterMap
        Statement.introduction? =
          (Statement.walkCases cases ++ Statement.walkAll otherwise).filterMap
            Statement.introduction? := rfl
    rw [hwalk, List.filterMap_append, ← introductionsAll_codeCases cases (level + 1),
      ← introductionsAll_codeAll otherwise (level + 1 + 1), code]
    cases otherwise <;> simp [introductionsAll, codeAll]
  | .forRange var bound body id, level => by
    rw [code, introductionsAll_blockCode, introductionsAll_codeAll body]
    rfl
  | .whileLoop condition body id, level => by
    rw [code, introductionsAll_blockCode, introductionsAll_codeAll body]
    rfl
  | .function name params body id, level => by
    rw [code, introductionsAll_blockCode, introductionsAll_codeAll body]
    rfl
  | .classDef name base members id, level => by
    rw [code, introductionsAll_classCode, introductionsAll_codeMembers]
    exact introductionsAll_codeAll members (level + 1)
  | .declare .., level => introductionsAll_leafCode ..
  | .update .., level => introductionsAll_leafCode ..
  | .arrayValues .., level => introductionsAll_leafCode ..
  | .arraySize .., level => introductionsAll_leafCode ..
  | .print .., level => introductionsAll_leafCode ..
  | .call .., level => introductionsAll_leafCode ..
  | .create .., level => introductionsAll_leafCode ..
  | .unknown .., level => introductionsAll_leafCode ..

/-- The tree of a list holds the introductions of its statements. -/
theorem introductionsAll_codeAll : ∀ (ss : List (Statement Form)) (level : Int),
    introductionsAll (codeAll d level ss) =
      (Statement.walkAll ss).filterMap Statement.introduction?
  | [], _ => rfl
  | s :: rest, level => by
    rw [codeAll, introductionsAll_append, introductionsAll_code s, introductionsAll_codeAll rest,
      ← List.filterMap_append]
    rfl

/-- So does the tree of the cases of a switch. -/
theorem introductionsAll_codeCases : ∀ (cases : List (Text × List (Statement Form)))
    (level : Int), introductionsAll (codeCases d level cases) =
      (Statement.walkCases cases).filterMap Statement.introduction?
  | [], _ => rfl
  | (value, body) :: rest, level => by
    rw [codeCases, introductionsAll_append, introductionsAll_sectionCode,
      introductionsAll_codeAll body, introductionsAll_codeCases rest, ← List.filterMap_append]
    rfl

end

/-- The tree of a program holds its introductions in the order in which they are written. -/
theorem introductionsAll_programCode (p : Program Form) :
    introductionsAll (programCode d p) =
      (p.writtenWalk d.language).filterMap Statement.introduction? := by
  have htext (t : Text) : (Code.text t).introductions = [] := by rw [introductions]
  have hbefore (level : Int) (ss : List (Statement Form)) :
      introductionsAll (blankBefore d level ss) =
        (Statement.walkAll ss).filterMap Statement.introduction? := by
    rw [← introductionsAll_codeAll d ss level, introductionsAll_eq_flatMap,
      introductionsAll_eq_flatMap, flatMap_blankBefore d level htext]
  have hafter (level : Int) (ss : List (Statement Form)) :
      introductionsAll (blankAfter d level ss) =
        (Statement.walkAll ss).filterMap Statement.introduction? := by
    rw [← introductionsAll_codeAll d ss level, introductionsAll_eq_flatMap,
      introductionsAll_eq_flatMap, flatMap_blankAfter d level htext]
  cases d <;>
    simp [programCode, introductionsAll, hbefore, hafter, introductionsAll_codeAll,
      Program.writtenWalk, Dialect.language]

end Introductions

/-! ## Blocks -/

/-- A block that is written only if there is anything in it. -/
def blockUnlessEmpty (ss : List (Statement Form)) : List (Holds × List Text) :=
  if ss.isEmpty then [] else [(.statements, declaredNames ss)]

/-- The block of a section of a switch, in a dialect that has one. -/
def sectionBlock (d : Dialect) (names : List Text) : List (Holds × List Text) :=
  if d.bracesCases then [(.statements, names)] else []

/-- The names that sections of a switch declare directly in its block: none, if they are blocks of
their own. -/
def sharedNames (d : Dialect) (sections : List (List (Statement Form))) : List Text :=
  if d.bracesCases then [] else sections.flatMap declaredNames

/-- The blocks that a statement opens itself, with the names declared directly in them. Only in some
dialects the sections of a switch are blocks of their own. -/
def ownBlocks (d : Dialect) : Statement Form → List (Holds × List Text)
  | .ifElse _ body orElse _ => (.statements, declaredNames body) :: blockUnlessEmpty orElse
  | .switch _ cases otherwise _ =>
    (.sections, sharedNames d (cases.map (·.2) ++ [otherwise]))
      :: cases.flatMap (fun case => sectionBlock d (declaredNames case.2))
      ++ (if otherwise.isEmpty then [] else sectionBlock d (declaredNames otherwise))
  | .forRange _ _ body _ => [(.statements, declaredNames body)]
  | .whileLoop _ body _ => [(.statements, declaredNames body)]
  | .function _ _ body _ => [(.statements, declaredNames body)]
  | .classDef _ _ members _ => [(.members, declaredNames members)]
  | _ => []

section Blocks

variable (d : Dialect) (level : Int) (body : List Code)

@[simp]
theorem declared_cons_text (t : Text) : declared (.text t :: body) = declared body :=
  rfl

/-- Lines declare nothing. -/
@[simp]
theorem declared_cons_linesCode (ls : List Line) :
    declared (linesCode level ls :: body) = declared body :=
  rfl

/-- What is declared inside a block is not declared around it. -/
@[simp]
theorem declared_cons_bracesCode (holds : Holds) (rest : List Code) :
    declared (bracesCode level holds body :: rest) = declared rest :=
  rfl

@[simp]
theorem declared_nil : declared [] = [] :=
  rfl

/-- A section declares directly what its body does, unless it is a block. -/
theorem declared_sectionCode (label : Text) :
    declared (sectionCode d level label body) = if d.bracesCases then [] else declared body := by
  unfold sectionCode
  split <;> simp [blockCode]

/-- Of a statement only what it declares itself is declared directly in the block around it. -/
@[simp]
theorem declared_code (s : Statement Form) :
    declared (code d level s) = s.declaredName?.toList := by
  have hleaf : declared [leafCode d level s] = s.declaredName?.toList := by
    unfold leafCode Statement.declaredName?
    rcases s.introduction? with _ | ⟨name, _ | _⟩ <;> rfl
  -- What is nested in a block is not declared around it, so only a plain line counts.
  cases s with
  | ifElse condition body orElse id =>
    rw [code]
    split <;> rfl
  | switch | forRange | whileLoop | function => rfl
  | classDef name base members id => cases d <;> rfl
  | _ => exact hleaf

/-- In a list of statements, what they declare themselves is declared directly. -/
@[simp]
theorem declared_codeAll (ss : List (Statement Form)) :
    declared (codeAll d level ss) = declaredNames ss := by
  induction ss with
  | nil => rfl
  | cons s rest ih =>
    rw [codeAll, declared_append, declared_code, ih, declaredNames, declaredNames]
    cases h : s.declaredName? <;> simp [h]

/-- The cases of a switch share what they declare, unless they are blocks. -/
theorem declared_codeCases (cases : List (Text × List (Statement Form))) :
    declared (codeCases d level cases) = sharedNames d (cases.map (·.2)) := by
  unfold sharedNames
  induction cases with
  | nil => simp [codeCases]
  | cons case rest ih =>
    rw [codeCases, declared_append, declared_sectionCode, ih, declared_codeAll]
    split <;> simp

/-- So do the cases together with the default. -/
theorem declared_switchCode (cases : List (Text × List (Statement Form)))
    (otherwise : List (Statement Form)) :
    declared (codeCases d level cases
        ++ (if otherwise.isEmpty then []
          else sectionCode d level "default:" (codeAll d (level + 1) otherwise))) =
      sharedNames d (cases.map (·.2) ++ [otherwise]) := by
  rw [declared_append, declared_codeCases, sharedNames, sharedNames]
  cases otherwise <;> cases hbraces : d.bracesCases <;>
    simp [declared_sectionCode, hbraces, declaredNames]

/-- The members of a class are declared directly in it. -/
@[simp]
theorem declared_codeMembers (ss : List (Statement Form)) :
    declared (codeMembers d level ss) = declaredNames ss := by
  rw [← declared_codeAll d level]
  induction ss with
  | nil => rfl
  | cons s rest ih =>
    cases s with
    | function name params body id => simp [codeMembers, codeAll, code, ih, blockCode]
    | _ => simp [codeMembers, codeAll, ih]

/-- Lines alone hold no blocks. -/
@[simp]
theorem blocks_linesCode (ls : List Line) : (linesCode level ls).blocks = [] := by
  rw [linesCode, blocks]

/-- A pair of braces is a block, and those of its body follow. -/
@[simp]
theorem blocks_bracesCode (holds : Holds) :
    (bracesCode level holds body).blocks = (holds, declared body) :: blocksAll body := by
  simp [bracesCode, blocks, blocksAll]

/-- A header does not change this. -/
@[simp]
theorem blocksAll_blockCode (holds : Holds) (text : Text) :
    blocksAll (blockCode level holds text body) = (holds, declared body) :: blocksAll body := by
  simp [blockCode, blocksAll, blocks]

/-- A section has a block of its own in some dialects. -/
theorem blocksAll_sectionCode (label : Text) :
    blocksAll (sectionCode d level label body) =
      sectionBlock d (declared body) ++ blocksAll body := by
  unfold sectionCode sectionBlock
  split <;> simp [blocksAll]

/-- A class is a block that holds members. -/
@[simp]
theorem blocksAll_classCode (name base : Text) :
    blocksAll (classCode d level name base body) = (.members, declared body) :: blocksAll body := by
  cases d <;> simp [classCode, blocksAll, blocks]

/-- A statement that holds no others and opens no block has none. -/
theorem mem_blocksAll_leafCode (x : Holds × List Text) {s : Statement Form}
    (hnested : s.nested = []) (hown : ownBlocks d s = []) :
    x ∈ blocksAll [leafCode d level s] ↔ x ∈ s.walk.flatMap (ownBlocks d) := by
  have hleaf : blocksAll [leafCode d level s] = [] := by
    unfold leafCode
    split <;> simp [blocksAll, blocks]
  simp [hleaf, Statement.walk, hnested, hown]

/-- A method has the blocks of the function. -/
theorem blocksAll_codeMembers (ss : List (Statement Form)) :
    blocksAll (codeMembers d level ss) = blocksAll (codeAll d level ss) := by
  induction ss with
  | nil => rfl
  | cons s rest ih =>
    cases s with
    | function name params body id => simp [codeMembers, codeAll, code, ih]
    | _ => simp [codeMembers, codeAll, ih]

/-- The blocks of a statement: its own ones, then those of what is nested in it. -/
theorem walk_flatMap_ownBlocks (s : Statement Form) :
    s.walk.flatMap (ownBlocks d) = ownBlocks d s ++ s.nested.flatMap (ownBlocks d) :=
  rfl

mutual

/-- Every block of a statement belongs to it or to a statement nested in it. -/
theorem mem_blocksAll_code (x : Holds × List Text) : ∀ (s : Statement Form) (level : Int),
    x ∈ blocksAll (code d level s) ↔ x ∈ s.walk.flatMap (ownBlocks d)
  | .ifElse condition body orElse id, level => by
    have hbody := mem_blocksAll_codeAll x body (level + 1)
    have horElse := mem_blocksAll_codeAll x orElse (level + 1)
    rw [walk_flatMap_ownBlocks, Statement.nested, List.flatMap_append, List.mem_append,
      List.mem_append, ← hbody, ← horElse, code, ownBlocks, blockUnlessEmpty]
    -- Without a second body there is one block only.
    cases orElse with
    | nil => simp [blocksAll, blocks, codeAll]
    | cons s rest =>
      simp only [blocksAll, blocks, blocks_bracesCode, blocksAll_append, declared_codeAll,
        List.isEmpty_cons, Bool.false_eq_true, if_false, List.mem_append, List.mem_cons,
        List.nil_append, List.append_nil, List.not_mem_nil, or_false]
      grind only
  | .switch subject cases otherwise id, level => by
    have hcases := mem_blocksAll_codeCases x cases (level + 1)
    have hotherwise := mem_blocksAll_codeAll x otherwise (level + 1 + 1)
    have hdefault : x ∈ blocksAll (if otherwise.isEmpty then []
          else sectionCode d (level + 1) "default:" (codeAll d (level + 1 + 1) otherwise)) ↔
        x ∈ (if otherwise.isEmpty then [] else sectionBlock d (declaredNames otherwise)) ∨
          x ∈ (Statement.walkAll otherwise).flatMap (ownBlocks d) := by
      rw [← hotherwise]
      -- Without a default there is no section for it.
      cases otherwise with
      | nil => simp [blocksAll, codeAll]
      | cons s rest => simp [blocksAll_sectionCode]
    rw [code, blocksAll_blockCode, declared_switchCode, List.mem_cons, blocksAll_append,
      List.mem_append, hcases, hdefault, walk_flatMap_ownBlocks, Statement.nested,
      List.flatMap_append, List.mem_append, List.mem_append, ownBlocks, List.mem_append,
      List.mem_cons]
    grind only
  | .forRange var bound body id, level => by
    rw [code, blocksAll_blockCode, List.mem_cons, mem_blocksAll_codeAll x body, declared_codeAll]
    simp [walk_flatMap_ownBlocks, ownBlocks, Statement.nested]
  | .whileLoop condition body id, level => by
    rw [code, blocksAll_blockCode, List.mem_cons, mem_blocksAll_codeAll x body, declared_codeAll]
    simp [walk_flatMap_ownBlocks, ownBlocks, Statement.nested]
  | .function name params body id, level => by
    rw [code, blocksAll_blockCode, List.mem_cons, mem_blocksAll_codeAll x body, declared_codeAll]
    simp [walk_flatMap_ownBlocks, ownBlocks, Statement.nested]
  | .classDef name base members id, level => by
    rw [code, blocksAll_classCode, List.mem_cons, blocksAll_codeMembers,
      mem_blocksAll_codeAll x members, declared_codeMembers]
    simp [walk_flatMap_ownBlocks, ownBlocks, Statement.nested]
  | .declare .., level => mem_blocksAll_leafCode d level x rfl rfl
  | .update .., level => mem_blocksAll_leafCode d level x rfl rfl
  | .arrayValues .., level => mem_blocksAll_leafCode d level x rfl rfl
  | .arraySize .., level => mem_blocksAll_leafCode d level x rfl rfl
  | .print .., level => mem_blocksAll_leafCode d level x rfl rfl
  | .call .., level => mem_blocksAll_leafCode d level x rfl rfl
  | .create .., level => mem_blocksAll_leafCode d level x rfl rfl
  | .unknown .., level => mem_blocksAll_leafCode d level x rfl rfl

/-- Every block of a list belongs to one of its statements or to one nested in them. -/
theorem mem_blocksAll_codeAll (x : Holds × List Text) :
    ∀ (ss : List (Statement Form)) (level : Int),
      x ∈ blocksAll (codeAll d level ss) ↔ x ∈ (Statement.walkAll ss).flatMap (ownBlocks d)
  | [], _ => Iff.rfl
  | s :: rest, level => by
    rw [codeAll, blocksAll_append, List.mem_append, mem_blocksAll_code x s,
      mem_blocksAll_codeAll x rest, ← List.mem_append, ← List.flatMap_append]
    rfl

/-- The blocks of the cases of a switch: those of their statements, and with braces around every
case also one for each. -/
theorem mem_blocksAll_codeCases (x : Holds × List Text) :
    ∀ (cases : List (Text × List (Statement Form))) (level : Int),
      x ∈ blocksAll (codeCases d level cases) ↔
        x ∈ cases.flatMap (fun case => sectionBlock d (declaredNames case.2)) ∨
          x ∈ (Statement.walkCases cases).flatMap (ownBlocks d)
  | [], _ => by simp [codeCases, blocksAll, Statement.walkCases]
  | (value, body) :: rest, level => by
    rw [codeCases, blocksAll_append, List.mem_append, blocksAll_sectionCode, List.mem_append,
      mem_blocksAll_codeAll x body, mem_blocksAll_codeCases x rest, declared_codeAll,
      Statement.walkCases, List.flatMap_append, List.mem_append, List.flatMap_cons, List.mem_append]
    exact or_or_or_comm

end

/-- Apart from the block of the main body, every block of a program that does not hold members
belongs to one of its statements. -/
theorem mem_blocksAll_programCode (p : Program Form) {x : Holds × List Text}
    (hx : x.1 ≠ .members) :
    x ∈ blocksAll (programCode d p) ↔
      x = (.statements, declaredNames p.body) ∨ x ∈ p.walk.flatMap (ownBlocks d) := by
  have hmembers (names : List Text) : x ≠ (.members, names) := by
    rintro rfl
    exact hx rfl
  have htext (t : Text) : (Code.text t).blocks = [] := by rw [blocks]
  have hbefore (level : Int) (ss : List (Statement Form)) :
      x ∈ blocksAll (blankBefore d level ss) ↔
        x ∈ (Statement.walkAll ss).flatMap (ownBlocks d) := by
    rw [← mem_blocksAll_codeAll d x ss level, blocksAll_eq_flatMap, blocksAll_eq_flatMap,
      flatMap_blankBefore d level htext]
  have hafter (level : Int) (ss : List (Statement Form)) :
      x ∈ blocksAll (blankAfter d level ss) ↔
        x ∈ (Statement.walkAll ss).flatMap (ownBlocks d) := by
    rw [← mem_blocksAll_codeAll d x ss level, blocksAll_eq_flatMap, blocksAll_eq_flatMap,
      flatMap_blankAfter d level htext]
  -- The dialects differ in the order of the parts and in the members around them.
  rw [Program.walk, Statement.walkAll_append, Statement.walkAll_append, List.flatMap_append,
    List.flatMap_append, List.mem_append, List.mem_append]
  cases d <;>
    simp only [programCode, blocksAll, blocks_linesCode, blocksAll_append, blocksAll_blockCode,
      List.cons_append, List.nil_append, List.append_nil, List.mem_append, List.mem_cons, hmembers,
      false_or, hbefore, hafter, mem_blocksAll_codeAll, declared_append, declared_codeAll,
      declared_cons_linesCode, declared_nil] <;>
    grind only

end Blocks

/-! ## Braces in texts -/

section Plain

variable (d : Dialect) (level : Int) {body : List Code}

/-- A statement that opens no block and introduces no variable is written without braces. -/
theorem braces_lines {s : Statement Form} (h : s.BraceFree) (hown : ownBlocks d s = [])
    (hintroduces : s.introduction? = none) : Line.braces (lines d s) = [] := by
  have hfree := h.braces
  -- Only these statements write a plain line without introducing a variable.
  cases s with
  | update name value id =>
    obtain ⟨hname, hvalue⟩ : name.braces = [] ∧ value.braces = [] := by
      simpa [Statement.texts] using hfree
    simp only [lines, Line.braces_cons, Line.text_plain, Text.braces_append, hname,
      Dialect.braces_formatValue hvalue]
    rfl
  | print value id =>
    have hvalue : value.braces = [] := by simpa [Statement.texts] using hfree
    simp [lines, d.braces_printLine hvalue]
  | call name args id =>
    obtain ⟨hname, hargs⟩ : name.braces = [] ∧ ∀ t ∈ args, t.braces = [] := by
      simpa [Statement.texts] using hfree
    simp only [lines, Line.braces_cons, Line.text_plain, Text.braces_append, hname,
      Dialect.braces_commaList hargs]
    rfl
  | create var className args id =>
    obtain ⟨hvar, hclass, hargs⟩ :
        var.braces = [] ∧ className.braces = [] ∧ ∀ t ∈ args, t.braces = [] := by
      simpa [Statement.texts] using hfree
    simp [lines, d.braces_createLine hvar hclass hargs]
  | unknown kind data id =>
    have hkind : kind.braces = [] := by simpa [Statement.texts] using hfree
    simp only [lines, Line.braces_cons, Dialect.placeholder, Text.braces_append, hkind]
    cases d <;> rfl
  | declare | arrayValues | arraySize => cases hintroduces
  | _ => simp [ownBlocks] at hown

/-- Lines without braces are a plain text. -/
theorem plain_linesCode {ls : List Line} (h : Line.braces ls = []) :
    (linesCode level ls).Plain := by
  rw [linesCode, Plain, Line.braces_unlinesAt, h]

/-- A statement without a block is plain. -/
theorem plainAll_leafCode {s : Statement Form} (h : ∀ t ∈ s.walk, t.BraceFree)
    (hown : ownBlocks d s = []) : PlainAll [leafCode d level s] := by
  have hs : s.BraceFree := h s List.mem_cons_self
  unfold leafCode
  split
  · -- Only the values of an array bring braces of their own, in pairs.
    rename_i name form _
    have hline : Plain (.introduction name form (unlinesAt level (lines d s))) := by
      rw [Plain, Line.braces_unlinesAt]
      exact isDyck_lines d s h
    simpa [PlainAll] using hline
  · rename_i hintroduces
    simpa [PlainAll] using plain_linesCode level (braces_lines d hs hown hintroduces)

/-- A pair of braces around what is plain is plain. -/
theorem plain_bracesCode (holds : Holds) (h : PlainAll body) :
    (bracesCode level holds body).Plain := by
  have hbreak : Text.braces "\n" = [] := rfl
  simp [bracesCode, Plain, PlainAll, h, hbreak, Writer.braces_margin]

/-- So is a block with a header. -/
theorem plainAll_blockCode (holds : Holds) {text : Text} (htext : text.braces = [])
    (h : PlainAll body) : PlainAll (blockCode level holds text body) := by
  have hbreak : Text.braces "\n" = [] := rfl
  have hspace : Text.braces " " = [] := rfl
  simp [blockCode, Plain, PlainAll, plain_bracesCode level holds h, hbreak, hspace,
    Writer.braces_margin, htext]

/-- So is a section of a switch. -/
theorem plainAll_sectionCode {label : Text} (hlabel : label.braces = []) (h : PlainAll body) :
    PlainAll (sectionCode d level label body) := by
  have hbody : PlainAll (body ++ [linesCode (level + 1) [plain "break;"]]) := by
    simp only [plainAll_append, PlainAll, and_true]
    exact ⟨h, plain_linesCode _ rfl⟩
  unfold sectionCode
  split
  · exact plainAll_blockCode level .statements hlabel hbody
  · exact ⟨plain_linesCode level (by simp [hlabel]), hbody⟩

/-- So is a class. -/
theorem plainAll_classCode {name base : Text} (hname : name.braces = []) (hbase : base.braces = [])
    (h : PlainAll body) : PlainAll (classCode d level name base body) := by
  have hclause (introduction : String) (hintroduction : Text.braces introduction = []) :
      (Dialect.baseClause introduction base).braces = [] := by
    unfold Dialect.baseClause
    split
    · rfl
    · simp [hintroduction, hbase]
  -- In C++ the braces are closed by another line and hold a line for the access.
  cases d with
  | csharp =>
    refine plainAll_blockCode level .members ?_ h
    simp only [Text.braces_append, hname, hclause " : " rfl, List.append_nil]
    rfl
  | java =>
    refine plainAll_blockCode level .members ?_ h
    simp only [Text.braces_append, hname, hclause " extends " rfl, List.append_nil]
    rfl
  | cpp =>
    have hpublic : PlainAll (linesCode level [plain "public:"] :: body) :=
      ⟨plain_linesCode level rfl, h⟩
    refine ⟨?_, plain_bracesCode level .members hpublic, rfl, trivial⟩
    simp only [Plain, Text.braces_append, Writer.braces_margin, hname,
      hclause " : public " rfl, List.append_nil]
    rfl

mutual

/-- In the tree of a statement whose texts hold no braces, only pairs of braces do. -/
theorem plainAll_code : ∀ (s : Statement Form) (level : Int), (∀ t ∈ s.walk, t.BraceFree) →
    PlainAll (code d level s)
  | .ifElse condition body orElse id, level, h => by
    have hcondition : condition.braces = [] := by
      simpa [Statement.texts] using (h _ List.mem_cons_self).braces
    have hnested : ∀ t ∈ Statement.walkAll body ++ Statement.walkAll orElse, t.BraceFree :=
      fun t ht => h t (List.mem_cons_of_mem _ ht)
    have hbody := plainAll_codeAll body (level + 1)
      fun t ht => hnested t (List.mem_append_left _ ht)
    have horElse := plainAll_codeAll orElse (level + 1)
      fun t ht => hnested t (List.mem_append_right _ ht)
    rw [code, plainAll_append, plainAll_append]
    refine ⟨⟨⟨?_, plain_bracesCode level .statements hbody, trivial⟩, ?_⟩, rfl, trivial⟩
    · simp only [Plain, Text.braces_append, Writer.braces_margin, hcondition, List.append_nil]
      rfl
    · split
      · trivial
      · exact ⟨rfl, plain_bracesCode level .statements horElse, trivial⟩
  | .switch subject cases otherwise id, level, h => by
    obtain ⟨hsubject, hvalues⟩ :
        subject.braces = [] ∧ ∀ t ∈ cases.map (·.1), t.braces = [] := by
      have hfree := (h _ List.mem_cons_self).braces
      exact ⟨hfree _ List.mem_cons_self, fun t ht => hfree t (List.mem_cons_of_mem _ ht)⟩
    have hnested : ∀ t ∈ Statement.walkCases cases ++ Statement.walkAll otherwise, t.BraceFree :=
      fun t ht => h t (List.mem_cons_of_mem _ ht)
    have hcases := plainAll_codeCases cases (level + 1) hvalues
      fun t ht => hnested t (List.mem_append_left _ ht)
    have hotherwise := plainAll_codeAll otherwise (level + 1 + 1)
      fun t ht => hnested t (List.mem_append_right _ ht)
    rw [code]
    apply plainAll_blockCode
    · simp only [Text.braces_append, hsubject, List.append_nil]
      rfl
    · refine (plainAll_append _ _).mpr ⟨hcases, ?_⟩
      split
      · trivial
      · exact plainAll_sectionCode d _ rfl hotherwise
  | .forRange var bound body id, level, h => by
    obtain ⟨hvar, hbound⟩ : var.braces = [] ∧ bound.braces = [] := by
      simpa [Statement.texts] using (h _ List.mem_cons_self).braces
    refine plainAll_blockCode level .statements ?_
      (plainAll_codeAll body _ fun t ht => h t (List.mem_cons_of_mem _ ht))
    simp only [Text.braces_append, hvar, hbound, List.append_nil]
    rfl
  | .whileLoop condition body id, level, h => by
    have hcondition : condition.braces = [] := by
      simpa [Statement.texts] using (h _ List.mem_cons_self).braces
    refine plainAll_blockCode level .statements ?_
      (plainAll_codeAll body _ fun t ht => h t (List.mem_cons_of_mem _ ht))
    simp only [Text.braces_append, hcondition, List.append_nil]
    rfl
  | .function name params body id, level, h => by
    obtain ⟨hname, hparams⟩ := braces_of_braceFree_function (h _ List.mem_cons_self)
    exact plainAll_blockCode level .statements (d.braces_methodHeader false hname hparams)
      (plainAll_codeAll body _ fun t ht => h t (List.mem_cons_of_mem _ ht))
  | .classDef name base members id, level, h => by
    obtain ⟨hname, hbase⟩ : name.braces = [] ∧ base.braces = [] := by
      simpa [Statement.texts] using (h _ List.mem_cons_self).braces
    exact plainAll_classCode d level hname hbase
      (plainAll_codeMembers members _ fun t ht => h t (List.mem_cons_of_mem _ ht))
  | .declare .., level, h => plainAll_leafCode d level h rfl
  | .update .., level, h => plainAll_leafCode d level h rfl
  | .arrayValues .., level, h => plainAll_leafCode d level h rfl
  | .arraySize .., level, h => plainAll_leafCode d level h rfl
  | .print .., level, h => plainAll_leafCode d level h rfl
  | .call .., level, h => plainAll_leafCode d level h rfl
  | .create .., level, h => plainAll_leafCode d level h rfl
  | .unknown .., level, h => plainAll_leafCode d level h rfl

/-- The tree of a list of statements is plain. -/
theorem plainAll_codeAll : ∀ (ss : List (Statement Form)) (level : Int),
    (∀ t ∈ Statement.walkAll ss, t.BraceFree) → PlainAll (codeAll d level ss)
  | [], _, _ => trivial
  | s :: rest, level, h => by
    rw [codeAll, plainAll_append]
    exact ⟨plainAll_code s level fun t ht => h t (List.mem_append_left _ ht),
      plainAll_codeAll rest level fun t ht => h t (List.mem_append_right _ ht)⟩

/-- So is the tree of the cases of a switch. -/
theorem plainAll_codeCases : ∀ (cases : List (Text × List (Statement Form))) (level : Int),
    (∀ t ∈ cases.map (·.1), t.braces = []) →
      (∀ t ∈ Statement.walkCases cases, t.BraceFree) → PlainAll (codeCases d level cases)
  | [], _, _, _ => trivial
  | (value, body) :: rest, level, hvalues, h => by
    have hlabel : ("case " ++ value ++ ":" : Text).braces = [] := by
      simp only [Text.braces_append, hvalues value List.mem_cons_self, List.append_nil]
      rfl
    have hbody := plainAll_codeAll body (level + 1) fun t ht => h t (List.mem_append_left _ ht)
    rw [codeCases, plainAll_append]
    exact ⟨plainAll_sectionCode d level hlabel hbody,
      plainAll_codeCases rest level (fun t ht => hvalues t (List.mem_cons_of_mem _ ht))
        fun t ht => h t (List.mem_append_right _ ht)⟩

/-- So is the tree of the members of a class. -/
theorem plainAll_codeMembers : ∀ (ss : List (Statement Form)) (level : Int),
    (∀ t ∈ Statement.walkAll ss, t.BraceFree) → PlainAll (codeMembers d level ss)
  | [], _, _ => trivial
  | s :: rest, level, h => by
    have hs := plainAll_code s level fun t ht => h t (List.mem_append_left _ ht)
    have hrest := plainAll_codeMembers rest level fun t ht => h t (List.mem_append_right _ ht)
    -- A method has a header of its own.
    cases s with
    | function name params body id =>
      obtain ⟨hname, hparams⟩ := braces_of_braceFree_function (h _ List.mem_cons_self)
      have hbody := plainAll_codeAll body (level + 1) fun t ht =>
        h t (List.mem_append_left _ (List.mem_cons_of_mem _ ht))
      rw [codeMembers, plainAll_append]
      exact ⟨plainAll_blockCode level .statements (d.braces_methodHeader true hname hparams) hbody,
        hrest⟩
    | _ =>
      rw [codeMembers, plainAll_append]
      · exact ⟨hs, hrest⟩
      · simp

end

/-- Empty lines before statements are plain. -/
theorem plainAll_blankBefore {ss : List (Statement Form)} (h : PlainAll (codeAll d level ss)) :
    PlainAll (blankBefore d level ss) := by
  rw [codeAll_eq_flatMap, plainAll_iff] at h
  rw [blankBefore, plainAll_iff]
  intro part hpart
  obtain ⟨s, hs, hmem⟩ := List.mem_flatMap.mp hpart
  rcases List.mem_cons.mp hmem with rfl | hmem
  · exact plain_linesCode level rfl
  · exact h part (List.mem_flatMap.mpr ⟨s, hs, hmem⟩)

/-- So are empty lines after them. -/
theorem plainAll_blankAfter {ss : List (Statement Form)} (h : PlainAll (codeAll d level ss)) :
    PlainAll (blankAfter d level ss) := by
  rw [codeAll_eq_flatMap, plainAll_iff] at h
  rw [blankAfter, plainAll_iff]
  intro part hpart
  obtain ⟨s, hs, hmem⟩ := List.mem_flatMap.mp hpart
  rcases List.mem_append.mp hmem with hmem | hmem
  · exact h part (List.mem_flatMap.mpr ⟨s, hs, hmem⟩)
  · rw [List.mem_singleton.mp hmem]
    exact plain_linesCode level rfl

/-- In the tree of a program whose texts hold no braces, only pairs of braces do. -/
theorem plainAll_programCode {p : Program Form} (h : p.BraceFree) : PlainAll (programCode d p) := by
  have hall (ss : List (Statement Form)) (hss : Statement.walkAll ss ⊆ p.walk) (level : Int) :
      PlainAll (codeAll d level ss) :=
    plainAll_codeAll d ss level fun t ht => h t (hss ht)
  have hclasses := hall p.classes (by simp [Program.walk])
  have hfunctions := hall p.functions (by simp [Program.walk])
  have hbody := hall p.body (by simp [Program.walk])
  -- The dialects nest the parts of a program in different blocks.
  cases d with
  | csharp =>
    refine ⟨plain_linesCode 0 rfl, plainAll_blockCode 0 .members rfl ?_⟩
    refine (plainAll_append _ _).mpr ⟨plainAll_blankAfter .csharp 1 (hclasses 1), ?_⟩
    refine plainAll_blockCode 1 .members rfl ?_
    refine (plainAll_append _ _).mpr ⟨?_, plainAll_blankBefore .csharp 2 (hfunctions 2)⟩
    exact plainAll_blockCode 2 .statements rfl (hbody 3)
  | java =>
    refine (plainAll_append _ _).mpr ⟨plainAll_blankAfter .java 0 (hclasses 0), ?_⟩
    refine plainAll_blockCode 0 .members rfl ?_
    refine (plainAll_append _ _).mpr ⟨?_, plainAll_blankBefore .java 1 (hfunctions 1)⟩
    exact plainAll_blockCode 1 .statements rfl (hbody 2)
  | cpp =>
    rw [programCode, plainAll_append, plainAll_append]
    refine ⟨⟨⟨plain_linesCode 0 rfl, plainAll_blankBefore .cpp 0 (hclasses 0)⟩,
      plainAll_blankBefore .cpp 0 (hfunctions 0)⟩, plain_linesCode 0 rfl, ?_⟩
    refine plainAll_blockCode 0 .statements rfl ?_
    exact (plainAll_append _ _).mpr ⟨hbody 1, plain_linesCode 1 rfl, trivial⟩

end Plain

/-- A tree of blocks that is the source code of a program. -/
structure TreeOf (d : Dialect) (blockScoped : Bool) (p : Program Unit) (codes : List Code) :
    Prop where
  /-- Put together, the tree is the source code. -/
  written : writtenAll codes = p.source d.language blockScoped
  /-- If no text of the program holds a brace, then no text of the tree does, and the braces of an
  introduction are balanced. -/
  plain : p.BraceFree → PlainAll codes
  /-- The tree holds every introduction in the form in which it is written. -/
  introductions : introductionsAll codes =
    ((p.mark false blockScoped).writtenWalk d.language).filterMap Statement.introduction?

end Braces

namespace Program

/-- The tree of a marked program is one of its source code. -/
theorem treeOf_programCode (d : Braces.Dialect) (blockScoped : Bool) (p : Program Unit) :
    Braces.TreeOf d blockScoped p (Braces.programCode d (p.mark false blockScoped)) where
  written := writtenAll_programCode d blockScoped p
  plain h := Braces.plainAll_programCode d (h.mark false blockScoped)
  introductions := Braces.introductionsAll_programCode d _

end Program

end BlockFlow
