import BlockFlow.Proofs.Program.Places
import BlockFlow.Proofs.Source.Indentation
import BlockFlow.Proofs.Source.Occurrence
import BlockFlow.Proofs.Source.Placeholders

/-!
# Inserting unknown statements

Two lists that are put at the same place in a program, neither of them empty and with the same names
in scope after them, are written as lines that agree everywhere else. The marks around the place
agree (`Place.exists_marked`), and so does the layout around it (`Place.replaces_linesIn`). An
unknown statement introduces no name, so inserting one into a list adds its placeholder and changes
nothing else.
-/

namespace BlockFlow

/-! ## Lines that differ in one part -/

namespace Line

/-- Lines that agree but for one part: where `xs` has the lines `x`, some levels deeper, `ys` has
the lines `y`. -/
def Replaces (x y xs ys : List Line) : Prop :=
  ∃ levels above below,
    xs = above ++ shift levels x ++ below ∧ ys = above ++ shift levels y ++ below

namespace Replaces

variable {x y xs ys : List Line}

theorem refl (x y : List Line) : Replaces x y x y :=
  ⟨0, [], [], by simp, by simp⟩

/-- Further lines above make no difference. -/
theorem append_left (h : Replaces x y xs ys) (ls : List Line) :
    Replaces x y (ls ++ xs) (ls ++ ys) := by
  obtain ⟨levels, above, below, rfl, rfl⟩ := h
  exact ⟨levels, ls ++ above, below, by simp, by simp⟩

/-- Nor do further lines below. -/
theorem append_right (h : Replaces x y xs ys) (ls : List Line) :
    Replaces x y (xs ++ ls) (ys ++ ls) := by
  obtain ⟨levels, above, below, rfl, rfl⟩ := h
  exact ⟨levels, above, below ++ ls, by simp, by simp⟩

theorem cons (h : Replaces x y xs ys) (line : Line) : Replaces x y (line :: xs) (line :: ys) :=
  h.append_left [line]

/-- Nor does indenting. -/
theorem indent (h : Replaces x y xs ys) : Replaces x y (Line.indent xs) (Line.indent ys) := by
  obtain ⟨levels, above, below, rfl, rfl⟩ := h
  exact ⟨levels + 1, Line.indent above, Line.indent below, by simp, by simp⟩

/-- A part of a part is a part. -/
theorem trans {xs' ys' : List Line} (h : Replaces x y xs ys) (h' : Replaces xs ys xs' ys') :
    Replaces x y xs' ys' := by
  obtain ⟨levels, above, below, rfl, rfl⟩ := h
  obtain ⟨more, above', below', rfl, rfl⟩ := h'
  exact ⟨levels + more, above' ++ shift more above, shift more below ++ below', by simp, by simp⟩

/-- Statement by statement, lines that differ in one statement only. -/
theorem flatMap {f : Statement Form → List Line} {s t : Statement Form}
    (h : Replaces x y (f s) (f t)) (before after : List (Statement Form)) :
    Replaces x y ((before ++ s :: after).flatMap f) ((before ++ t :: after).flatMap f) := by
  simp only [List.flatMap_append, List.flatMap_cons]
  exact (h.append_right _).append_left _

end Replaces

end Line

open Line (Replaces)
open Statement (fillAll endsInClass unmarkAll)

/-! ## Marks around a place -/

namespace Statement

variable (inlineDefault : Bool)

/-- Marks a list, whose statements know nothing of each other if they are the members of a class. -/
def markIn (isClass : Bool) (ss : List (Statement Unit)) (scopes : Scopes) :
    List (Statement Form) × Scopes :=
  if isClass then (markEach inlineDefault scopes.blockScoped ss, scopes)
  else markAll inlineDefault ss scopes

theorem markIn_append (isClass : Bool) (ss ts : List (Statement Unit)) (scopes : Scopes) :
    markIn inlineDefault isClass (ss ++ ts) scopes =
      ((markIn inlineDefault isClass ss scopes).1
          ++ (markIn inlineDefault isClass ts (markIn inlineDefault isClass ss scopes).2).1,
        (markIn inlineDefault isClass ts (markIn inlineDefault isClass ss scopes).2).2) := by
  cases isClass with
  | false => exact markAll_append inlineDefault ss ts scopes
  | true => simp [markIn, markEach_eq_map]

/-- Marking a list leaves its statements as they are. -/
theorem unmarkAll_markIn (isClass : Bool) (ss : List (Statement Unit)) (scopes : Scopes) :
    unmarkAll (markIn inlineDefault isClass ss scopes).1 = ss := by
  cases isClass with
  | false => exact unmarkAll_markAll inlineDefault ss scopes
  | true => exact unmarkAll_markEach inlineDefault ss scopes.blockScoped

/-- An unknown statement is marked as itself and leaves the names in scope alone. -/
theorem markIn_cons_unknown (isClass : Bool) (kind : Text) (data : Json.Fields) (id : Option Text)
    (ss : List (Statement Unit)) (scopes : Scopes) :
    markIn inlineDefault isClass (.unknown kind data id :: ss) scopes =
      (.unknown kind data id :: (markIn inlineDefault isClass ss scopes).1,
        (markIn inlineDefault isClass ss scopes).2) := by
  cases isClass <;> simp [markIn, markAll, markEach, mark]

/-- An unknown statement introduces no name, so the statements around it are marked as without
it. -/
theorem exists_markIn_insert (isClass : Bool) (before after : List (Statement Unit))
    (scopes : Scopes) : ∃ (before' after' : List (Statement Form)) (left : Scopes),
      unmarkAll before' = before ∧ unmarkAll after' = after ∧
      markIn inlineDefault isClass (before ++ after) scopes = (before' ++ after', left) ∧
      ∀ kind data id,
        markIn inlineDefault isClass (before ++ .unknown kind data id :: after) scopes =
          (before' ++ .unknown kind data id :: after', left) := by
  refine ⟨_, _, _, unmarkAll_markIn inlineDefault isClass before scopes,
    unmarkAll_markIn inlineDefault isClass after _, markIn_append inlineDefault isClass _ _ _,
    fun kind data id => ?_⟩
  rw [markIn_append, markIn_cons_unknown]

theorem markCases_append (cases more : List (Text × List (Statement Unit))) (scopes : Scopes) :
    markCases inlineDefault (cases ++ more) scopes =
      ((markCases inlineDefault cases scopes).1
          ++ (markCases inlineDefault more (markCases inlineDefault cases scopes).2).1,
        (markCases inlineDefault more (markCases inlineDefault cases scopes).2).2) := by
  induction cases generalizing scopes with
  | nil => simp [markCases]
  | cons case rest ih => simp [markCases, ih]

/-- The marks around a statement of a list depend only on the names in scope after it. -/
theorem exists_markIn_around (isClass : Bool) (before after : List (Statement Unit))
    (scopes : Scopes) : ∃ (inner : Scopes) (before' : List (Statement Form)), ∀ outer,
      ∃ (after' : List (Statement Form)) (left : Scopes), ∀ s,
        (mark inlineDefault s inner).2 = outer →
          markIn inlineDefault isClass (before ++ s :: after) scopes =
            (before' ++ (mark inlineDefault s inner).1 :: after', left) := by
  -- Members of a class are marked in scopes of their own, so nothing is handed on between them.
  cases isClass with
  | false =>
    refine ⟨(markAll inlineDefault before scopes).2, (markAll inlineDefault before scopes).1,
      fun outer => ⟨(markAll inlineDefault after outer).1, (markAll inlineDefault after outer).2,
        ?_⟩⟩
    rintro s rfl
    simp [markIn, markAll_append, markAll]
  | true =>
    refine ⟨Scopes.new scopes.blockScoped, markEach inlineDefault scopes.blockScoped before,
      fun outer => ⟨markEach inlineDefault scopes.blockScoped after, scopes, ?_⟩⟩
    rintro s -
    simp [markIn, markEach_eq_map]

end Statement

open Statement (markIn mark markAll markCases)

/-- The marks in a frame depend only on the names in scope after the list that fills it. -/
theorem Frame.exists_marked (inlineDefault : Bool) (frame : Frame Unit) (scopes : Scopes) :
    ∃ inner : Scopes, ∀ outer, ∃ (marked : Frame Form) (left : Scopes),
      marked.isClass = frame.isClass ∧ ∀ ss,
        (markIn inlineDefault frame.isClass ss inner).2 = outer →
          mark inlineDefault (frame.fill ss) scopes =
            (marked.fill (markIn inlineDefault frame.isClass ss inner).1, left) := by
  -- In each frame the list is marked after what stands before it and hands its names on.
  cases frame with
  | ifBody condition orElse id =>
    refine ⟨scopes.enter, fun outer =>
      ⟨.ifBody condition (markAll inlineDefault orElse outer.leave.enter).1 id,
        (markAll inlineDefault orElse outer.leave.enter).2.leave, rfl, ?_⟩⟩
    rintro ss rfl
    rfl
  | elseBody condition body id =>
    refine ⟨(markAll inlineDefault body scopes.enter).2.leave.enter, fun outer =>
      ⟨.elseBody condition (markAll inlineDefault body scopes.enter).1 id, outer.leave, rfl, ?_⟩⟩
    rintro ss rfl
    rfl
  | caseBody subject before value after otherwise id =>
    refine ⟨(markCases inlineDefault before scopes).2.enter, fun outer =>
      ⟨.caseBody subject (markCases inlineDefault before scopes).1 value
        (markCases inlineDefault after outer.leave).1
        (markAll inlineDefault otherwise (markCases inlineDefault after outer.leave).2.enter).1 id,
        (markAll inlineDefault otherwise
          (markCases inlineDefault after outer.leave).2.enter).2.leave, rfl, ?_⟩⟩
    rintro ss rfl
    simp only [fill, isClass, mark, Statement.markCases_append, markCases]
    simp [markIn]
  | defaultBody subject cases id =>
    -- Where the default is written without a block, it has no scope of its own.
    by_cases hinlined : (inlineDefault && cases.isEmpty) = true
    · refine ⟨(markCases inlineDefault cases scopes).2, fun outer =>
        ⟨.defaultBody subject (markCases inlineDefault cases scopes).1 id, outer, rfl, ?_⟩⟩
      rintro ss rfl
      simp only [fill, isClass, mark, if_pos hinlined]
      rfl
    · refine ⟨(markCases inlineDefault cases scopes).2.enter, fun outer =>
        ⟨.defaultBody subject (markCases inlineDefault cases scopes).1 id, outer.leave, rfl, ?_⟩⟩
      rintro ss rfl
      simp only [fill, isClass, mark, if_neg hinlined]
      rfl
  | forBody var bound id =>
    refine ⟨scopes.enter, fun outer => ⟨.forBody var bound id, outer.leave, rfl, ?_⟩⟩
    rintro ss rfl
    rfl
  | whileBody condition id =>
    refine ⟨scopes.enter, fun outer => ⟨.whileBody condition id, outer.leave, rfl, ?_⟩⟩
    rintro ss rfl
    rfl
  | functionBody name params id =>
    exact ⟨(Scopes.new scopes.blockScoped).enter, fun outer =>
      ⟨.functionBody name params id, scopes, rfl, fun ss _ => rfl⟩⟩
  | classBody name base id =>
    exact ⟨scopes, fun outer => ⟨.classBody name base id, scopes, rfl, fun ss _ => rfl⟩⟩

/-- The marks around a list some layers down depend only on the names in scope after it. -/
theorem Statement.exists_marked_path (inlineDefault : Bool) (path : List (Layer Unit))
    (isClass : Bool) (scopes : Scopes) :
    ∃ inner : Scopes, ∀ outer, ∃ (marked : List (Layer Form)) (left : Scopes),
      marked.length = path.length ∧ endsInClass isClass marked = endsInClass isClass path ∧ ∀ ss,
        (markIn inlineDefault (endsInClass isClass path) ss inner).2 = outer →
          markIn inlineDefault isClass (fillAll path ss) scopes =
            (fillAll marked (markIn inlineDefault (endsInClass isClass path) ss inner).1,
              left) := by
  induction path generalizing isClass scopes with
  | nil =>
    refine ⟨scopes, fun outer => ⟨[], outer, rfl, rfl, ?_⟩⟩
    rintro ss rfl
    rfl
  | cons layer path ih =>
    obtain ⟨around, before, haround⟩ :=
      exists_markIn_around inlineDefault isClass layer.before layer.after scopes
    obtain ⟨within, hframe⟩ := layer.frame.exists_marked inlineDefault around
    obtain ⟨inner, hpath⟩ := ih layer.frame.isClass within
    refine ⟨inner, fun outer => ?_⟩
    -- What comes after is marked from the inside out.
    obtain ⟨marked, left, hlength, hends, hpath⟩ := hpath outer
    obtain ⟨frame, leftFrame, hclass, hframe⟩ := hframe left
    obtain ⟨after, leftAround, haround⟩ := haround leftFrame
    refine ⟨⟨before, frame, after⟩ :: marked, leftAround, by simp [hlength],
      by simp only [endsInClass, hclass, hends], fun ss hss => ?_⟩
    have hinner := hpath ss hss
    have hfilled := hframe (fillAll path ss) (by rw [hinner])
    have houter := haround (layer.frame.fill (fillAll path ss)) (by rw [hfilled])
    rw [fillAll, houter, hfilled, hinner]
    rfl

/-- The marks around a place in a program depend only on the names in scope after the list there. -/
theorem Place.exists_marked (inlineDefault blockScoped : Bool) (place : Place Unit) :
    ∃ inner : Scopes, ∀ outer, ∃ marked : Place Form,
      marked.holdsMembers = place.holdsMembers ∧ ∀ ss,
        (markIn inlineDefault place.holdsMembers ss inner).2 = outer →
          (place.fill ss).mark inlineDefault blockScoped =
            marked.fill (markIn inlineDefault place.holdsMembers ss inner).1 := by
  -- Top-level entries are marked like the members of a class.
  have hentries (ss : List (Statement Unit)) : Statement.markEach inlineDefault blockScoped ss =
      (markIn inlineDefault true ss (Scopes.new blockScoped)).1 := rfl
  cases place with
  | main classes functions path =>
    obtain ⟨inner, hpath⟩ := Statement.exists_marked_path inlineDefault path false
      (Scopes.new blockScoped).enter
    refine ⟨inner, fun outer => ?_⟩
    obtain ⟨marked, left, -, hends, hpath⟩ := hpath outer
    refine ⟨.main (Statement.markEach inlineDefault blockScoped classes)
      (Statement.markEach inlineDefault blockScoped functions) marked, hends, fun ss hss => ?_⟩
    have hbody : markAll inlineDefault (fillAll path ss) _ = _ := hpath ss hss
    simp only [fill, Program.mark, hbody, holdsMembers]
  | inClasses layer path functions body =>
    obtain ⟨inner, hpath⟩ := Statement.exists_marked_path inlineDefault (layer :: path) true
      (Scopes.new blockScoped)
    refine ⟨inner, fun outer => ?_⟩
    obtain ⟨marked, left, hlength, hends, hpath⟩ := hpath outer
    obtain ⟨layer', path', rfl⟩ := List.exists_cons_of_length_eq_add_one hlength
    refine ⟨.inClasses layer' path' (Statement.markEach inlineDefault blockScoped functions)
      (markAll inlineDefault body (Scopes.new blockScoped).enter).1, hends, fun ss hss => ?_⟩
    simp only [fill, Program.mark, hentries (fillAll (layer :: path) ss), hpath ss hss]
    rfl
  | inFunctions classes layer path body =>
    obtain ⟨inner, hpath⟩ := Statement.exists_marked_path inlineDefault (layer :: path) true
      (Scopes.new blockScoped)
    refine ⟨inner, fun outer => ?_⟩
    obtain ⟨marked, left, hlength, hends, hpath⟩ := hpath outer
    obtain ⟨layer', path', rfl⟩ := List.exists_cons_of_length_eq_add_one hlength
    refine ⟨.inFunctions (Statement.markEach inlineDefault blockScoped classes) layer' path'
      (markAll inlineDefault body (Scopes.new blockScoped).enter).1, hends, fun ss hss => ?_⟩
    simp only [fill, Program.mark, hentries (fillAll (layer :: path) ss), hpath ss hss]
    rfl

/-! ## Layout of brace languages around a place -/

namespace Braces

theorem linesMembers_append (d : Dialect) (ss ts : List (Statement Form)) :
    linesMembers d (ss ++ ts) = linesMembers d ss ++ linesMembers d ts := by
  induction ss with
  | nil => simp [linesMembers]
  | cons s rest ih => cases s <;> simp [linesMembers, ih]

theorem linesCases_append (d : Dialect) (cases more : List (Text × List (Statement Form))) :
    linesCases d (cases ++ more) = linesCases d cases ++ linesCases d more := by
  induction cases with
  | nil => simp [linesCases]
  | cons case rest ih => simp [linesCases, ih]

/-- The lines of a list, which may hold the members of a class. -/
def listLines (d : Dialect) (isClass : Bool) (ss : List (Statement Form)) : List Line :=
  if isClass then linesMembers d ss else linesAll d ss

/-- The lines of a statement of a list, which may hold the members of a class. -/
def entryLines (d : Dialect) (isMember : Bool) (s : Statement Form) : List Line :=
  if isMember then linesMembers d [s] else lines d s

theorem listLines_eq_flatMap (d : Dialect) (isClass : Bool) (ss : List (Statement Form)) :
    listLines d isClass ss = ss.flatMap (entryLines d isClass) := by
  cases isClass with
  | false => exact linesAll_eq_flatMap d ss
  | true =>
    induction ss with
    | nil => simp [listLines, linesMembers]
    | cons s rest ih =>
      rw [List.flatMap_cons, ← ih]
      exact linesMembers_append d [s] rest

/-- Only functions are written in another way where they are members of a class. -/
theorem entryLines_of_isFunction {s : Statement Form} (h : s.isFunction = false) (d : Dialect)
    (isMember : Bool) : entryLines d isMember s = lines d s := by
  cases isMember with
  | false => rfl
  | true => cases s <;> simp_all [entryLines, linesMembers, Statement.isFunction]

/-- A function and a method differ in their headers only. -/
theorem entryLines_function (d : Dialect) (isMember : Bool) (name : Text) (params : List Param)
    (body : List (Statement Form)) (id : Option Text) :
    entryLines d isMember (.function name params body id) =
      block (d.methodHeader isMember name params) (linesAll d body) := by
  cases isMember <;> simp [entryLines, linesMembers, lines]

variable {x y xs ys : List Line}

/-- Of two blocks that differ in their bodies, the lines differ in those of the bodies. -/
theorem replaces_block (h : Replaces x y xs ys) (text : Text) :
    Replaces x y (block text xs) (block text ys) :=
  (h.indent.append_right [closed]).cons (opened text)

/-- So do the lines of two sections of a switch. -/
theorem replaces_caseBlock (h : Replaces x y xs ys) (d : Dialect) (label : Text) :
    Replaces x y (caseBlock d label xs) (caseBlock d label ys) := by
  have hbreak := h.append_right [Line.plain "break;"]
  -- Only with braces of its own the section is a block.
  unfold caseBlock
  split
  · exact replaces_block hbreak label
  · exact hbreak.indent.cons _

/-- Of two statements that differ in the list that fills a frame, the lines differ in those of the
list. -/
theorem replaces_fill (d : Dialect) (isMember : Bool) (frame : Frame Form)
    {ss ts : List (Statement Form)} (hss : ss ≠ []) (hts : ts ≠ []) :
    Replaces (listLines d frame.isClass ss) (listLines d frame.isClass ts)
      (entryLines d isMember (frame.fill ss)) (entryLines d isMember (frame.fill ts)) := by
  have hlist : Replaces (linesAll d ss) (linesAll d ts) (linesAll d ss) (linesAll d ts) :=
    .refl _ _
  cases frame with
  | functionBody name params id =>
    rw [Frame.fill, Frame.fill, entryLines_function, entryLines_function]
    exact replaces_block hlist _
  | ifBody condition orElse id =>
    rw [entryLines_of_isFunction rfl, entryLines_of_isFunction rfl]
    exact ((hlist.indent.cons _).append_right _).append_right _
  | elseBody condition body id =>
    rw [entryLines_of_isFunction rfl, entryLines_of_isFunction rfl]
    simp only [Frame.fill, lines, List.isEmpty_iff, if_neg hss, if_neg hts]
    exact ((hlist.indent.cons _).append_left _).append_right _
  | caseBody subject before value after otherwise id =>
    rw [entryLines_of_isFunction rfl, entryLines_of_isFunction rfl]
    simp only [Frame.fill, lines, linesCases_append, linesCases]
    have hcase := replaces_caseBlock hlist d ("case " ++ value ++ ":")
    exact replaces_block (((hcase.append_right _).append_left _).append_right _) _
  | defaultBody subject cases id =>
    rw [entryLines_of_isFunction rfl, entryLines_of_isFunction rfl]
    simp only [Frame.fill, lines, List.isEmpty_iff, if_neg hss, if_neg hts]
    exact replaces_block ((replaces_caseBlock hlist d _).append_left _) _
  | forBody | whileBody =>
    rw [entryLines_of_isFunction rfl, entryLines_of_isFunction rfl]
    exact replaces_block hlist _
  | classBody name base id =>
    rw [entryLines_of_isFunction rfl, entryLines_of_isFunction rfl]
    exact ((Replaces.refl _ _).indent.append_left _).append_right _

/-- Of classes of which one differs, the lines differ in those of this one. -/
theorem replaces_classLines {d : Dialect} {s t : Statement Form}
    (h : Replaces x y (lines d s) (lines d t)) (before after : List (Statement Form)) :
    Replaces x y (classLines d (before ++ s :: after)) (classLines d (before ++ t :: after)) := by
  have hcons (first : Statement Form) {rest : List (Statement Form)} (hne : rest ≠ []) :
      classLines d (first :: rest) = lines d first ++ Line.blank :: classLines d rest := by
    cases rest with
    | nil => exact absurd rfl hne
    | cons next rest => rfl
  induction before with
  -- The class that differs is the last one or has others after it.
  | nil =>
    cases after with
    | nil => exact h
    | cons next rest => exact h.append_right _
  | cons first before ih =>
    rw [List.cons_append, List.cons_append, hcons first (by simp), hcons first (by simp)]
    exact (ih.cons Line.blank).append_left _

/-- Of programs that differ in their classes, the lines differ in those of the classes. -/
theorem replaces_programLines_of_classes {d : Dialect} {classes classes' : List (Statement Form)}
    (hne : classes ≠ []) (hne' : classes' ≠ [])
    (h : Replaces x y (classLines d classes) (classLines d classes'))
    (functions body : List (Statement Form)) :
    Replaces x y (programLines d ⟨classes, functions, body⟩)
      (programLines d ⟨classes', functions, body⟩) := by
  have hsection : Replaces x y (classSection d classes) (classSection d classes') := by
    simpa [classSection, hne, hne'] using h.append_right [Line.blank]
  -- The dialects put the classes into different frames.
  cases d with
  | csharp => exact (replaces_block (hsection.append_right _) _).append_left _
  | java => exact hsection.append_right _
  | cpp =>
    simp only [programLines, List.isEmpty_iff, if_neg hne, if_neg hne']
    exact (((h.cons Line.blank).append_left _).append_right _).append_right _

/-- The same holds for functions. -/
theorem replaces_programLines_of_functions {d : Dialect}
    {functions functions' : List (Statement Form)}
    (h : Replaces x y (functionLines d functions) (functionLines d functions'))
    (classes body : List (Statement Form)) :
    Replaces x y (programLines d ⟨classes, functions, body⟩)
      (programLines d ⟨classes, functions', body⟩) := by
  -- The dialects put the functions into different frames.
  cases d with
  | csharp =>
    apply Replaces.append_left
    apply replaces_block
    exact (replaces_block (h.append_left _) _).append_left _
  | java => exact (replaces_block (h.append_left _) _).append_left _
  | cpp => exact (h.append_left _).append_right _

/-- It holds for main bodies, too. -/
theorem replaces_programLines_of_body {d : Dialect} {body body' : List (Statement Form)}
    (h : Replaces x y (linesAll d body) (linesAll d body'))
    (classes functions : List (Statement Form)) :
    Replaces x y (programLines d ⟨classes, functions, body⟩)
      (programLines d ⟨classes, functions, body'⟩) := by
  -- The dialects put the main body into different frames.
  cases d with
  | csharp =>
    have hmain := replaces_block h "public static void Main(string[] args)"
    apply Replaces.append_left
    apply replaces_block
    exact (replaces_block (hmain.append_right _) _).append_left _
  | java =>
    have hmain := replaces_block h "public static void main(String[] args)"
    exact (replaces_block (hmain.append_right _) _).append_left _
  | cpp =>
    have hmain := replaces_block (h.append_right [Line.plain "return 0;"]) "int main()"
    exact (hmain.cons _).append_left _

end Braces

/-! ## Layout of Python around a place -/

namespace Python

theorem linesMembers_append (ss ts : List (Statement Form)) :
    linesMembers (ss ++ ts) = linesMembers ss ++ linesMembers ts := by
  induction ss with
  | nil => simp [linesMembers]
  | cons s rest ih => cases s <;> simp [linesMembers, ih]

theorem linesCases_append (subject : Text) (cases more : List (Text × List (Statement Form))) :
    linesCases subject (cases ++ more) = linesCases subject cases ++ linesCases subject more := by
  induction cases with
  | nil => simp [linesCases]
  | cons case rest ih => simp [linesCases, ih]

/-- The lines of a list, which may hold the members of a class. -/
def listLines (isClass : Bool) (ss : List (Statement Form)) : List Line :=
  if isClass then linesMembers ss else linesAll ss

/-- The lines of a statement of a list, which may hold the members of a class. -/
def entryLines (isMember : Bool) (s : Statement Form) : List Line :=
  if isMember then linesMembers [s] else lines s

theorem listLines_eq_flatMap (isClass : Bool) (ss : List (Statement Form)) :
    listLines isClass ss = ss.flatMap (entryLines isClass) := by
  cases isClass with
  | false => exact linesAll_eq_flatMap ss
  | true =>
    induction ss with
    | nil => simp [listLines, linesMembers]
    | cons s rest ih =>
      rw [List.flatMap_cons, ← ih]
      exact linesMembers_append [s] rest

/-- Only functions are written in another way where they are members of a class. -/
theorem entryLines_of_isFunction {s : Statement Form} (h : s.isFunction = false)
    (isMember : Bool) : entryLines isMember s = lines s := by
  cases isMember with
  | false => rfl
  | true => cases s <;> simp_all [entryLines, linesMembers, Statement.isFunction]

/-- A function and a method differ in their headers only. -/
theorem entryLines_function (isMember : Bool) (name : Text) (params : List Param)
    (body : List (Statement Form)) (id : Option Text) :
    entryLines isMember (.function name params body id) =
      methodHeader isMember name params :: suite body (linesAll body) := by
  cases isMember <;> simp [entryLines, linesMembers, lines]

variable {x y xs ys : List Line} {ss ts : List (Statement Form)}

/-- Of two blocks that differ in their bodies, the lines differ in those of the bodies. -/
theorem replaces_suite (h : Replaces x y xs ys) (hss : ss ≠ []) (hts : ts ≠ []) :
    Replaces x y (suite ss xs) (suite ts ys) := by
  simp only [suite, List.isEmpty_iff, if_neg hss, if_neg hts]
  exact h.indent

/-- So do the lines of two last branches. -/
theorem replaces_elseLines (h : Replaces x y xs ys) (hss : ss ≠ []) (hts : ts ≠ []) :
    Replaces x y (elseLines ss xs) (elseLines ts ys) := by
  simp only [elseLines, List.isEmpty_iff, if_neg hss, if_neg hts]
  exact (replaces_suite h hss hts).cons _

/-- Of two statements that differ in the list that fills a frame, the lines differ in those of the
list. -/
theorem replaces_fill (isMember : Bool) (frame : Frame Form) (hss : ss ≠ []) (hts : ts ≠ []) :
    Replaces (listLines frame.isClass ss) (listLines frame.isClass ts)
      (entryLines isMember (frame.fill ss)) (entryLines isMember (frame.fill ts)) := by
  have hlist : Replaces (linesAll ss) (linesAll ts) (linesAll ss) (linesAll ts) := .refl _ _
  have hsuite := replaces_suite hlist hss hts
  cases frame with
  | functionBody name params id =>
    rw [Frame.fill, Frame.fill, entryLines_function, entryLines_function]
    exact hsuite.cons _
  | ifBody condition orElse id =>
    rw [entryLines_of_isFunction rfl, entryLines_of_isFunction rfl]
    exact (hsuite.cons _).append_right _
  | elseBody condition body id =>
    rw [entryLines_of_isFunction rfl, entryLines_of_isFunction rfl]
    exact (replaces_elseLines hlist hss hts).append_left _
  | caseBody subject before value after otherwise id =>
    rw [entryLines_of_isFunction rfl, entryLines_of_isFunction rfl]
    -- The first case of a switch opens it, and the others go on with it.
    cases before with
    | nil => exact ((hsuite.cons _).append_right _).append_right _
    | cons case before =>
      have hcases : Replaces (linesAll ss) (linesAll ts)
          (linesCases subject (before ++ (value, ss) :: after))
          (linesCases subject (before ++ (value, ts) :: after)) := by
        rw [linesCases_append, linesCases_append]
        exact ((hsuite.cons _).append_right _).append_left _
      exact (hcases.append_left _).append_right _
  | defaultBody subject cases id =>
    rw [entryLines_of_isFunction rfl, entryLines_of_isFunction rfl]
    -- Without cases only the default is written, at the level of the switch.
    cases cases with
    | nil =>
      simp only [Frame.fill, lines, List.isEmpty_iff, if_neg hss, if_neg hts]
      exact hlist
    | cons case cases => exact (replaces_elseLines hlist hss hts).append_left _
  | forBody | whileBody =>
    rw [entryLines_of_isFunction rfl, entryLines_of_isFunction rfl]
    exact hsuite.cons _
  | classBody name base id =>
    rw [entryLines_of_isFunction rfl, entryLines_of_isFunction rfl]
    exact (replaces_suite (.refl _ _) hss hts).cons _

/-- Of programs of which one class or function differs, the lines differ in those of this one. -/
theorem replaces_programLines_of_entries {p q : Program Form} {s t : Statement Form}
    (h : Replaces x y (lines s) (lines t)) (before after : List (Statement Form))
    (hp : p.classes ++ p.functions = before ++ s :: after)
    (hq : q.classes ++ q.functions = before ++ t :: after) (hbody : p.body = q.body) :
    Replaces x y (programLines p) (programLines q) := by
  have hentries := Replaces.flatMap (f := fun s => lines s ++ [Line.blank, Line.blank])
    (h.append_right _) before after
  simp only [programLines, hp, hq, hbody]
  exact ((hentries.append_right _).append_right _).append_right _

/-- Of programs that differ in their main bodies, the lines differ in those of the bodies. -/
theorem replaces_programLines_of_body (h : Replaces x y (linesAll ss) (linesAll ts))
    (hss : ss ≠ []) (hts : ts ≠ []) (classes functions : List (Statement Form)) :
    Replaces x y (programLines ⟨classes, functions, ss⟩) (programLines ⟨classes, functions, ts⟩) :=
  ((((replaces_suite h hss hts).cons _).append_left _).append_right _).append_right _

end Python

/-! ## Layout around a place -/

/-- The lines of a statement of a list, which may hold the members of a class. -/
def Statement.linesAt (language : Language) (isMember : Bool) (s : Statement Form) : List Line :=
  match language.dialect? with
  | some dialect => Braces.entryLines dialect isMember s
  | none => Python.entryLines isMember s

namespace Statement

/-- The lines of an entry in a brace language. -/
theorem linesAt_of_dialect {language : Language} {d : Braces.Dialect}
    (h : language.dialect? = some d) (isMember : Bool) :
    linesAt language isMember = Braces.entryLines d isMember := by
  funext s
  rw [linesAt, h]

/-- The lines of an entry in Python. -/
theorem linesAt_of_no_dialect {language : Language} (h : language.dialect? = none)
    (isMember : Bool) : linesAt language isMember = Python.entryLines isMember := by
  funext s
  rw [linesAt, h]

variable (language : Language)

/-- Every statement starts at the level of the list it stands in. -/
theorem exists_first_line (isMember : Bool) (s : Statement Form) :
    ∃ first rest, linesAt language isMember s = first :: rest ∧ first.level = 0 := by
  unfold linesAt
  split
  -- In a brace language the header or the only line comes first.
  case h_1 d _ =>
    cases s with
    | function name params body id =>
      rw [Braces.entryLines_function]
      exact ⟨_, _, rfl, rfl⟩
    | classDef name base members id =>
      rw [Braces.entryLines_of_isFunction rfl]
      cases d <;> exact ⟨_, _, rfl, rfl⟩
    | _ =>
      rw [Braces.entryLines_of_isFunction rfl]
      exact ⟨_, _, rfl, rfl⟩
  case h_2 =>
    -- In Python this is part of the layout, but for methods, which have a header of their own.
    cases hfunction : s.isFunction with
    | true =>
      cases s with
      | function name params body id =>
        rw [Python.entryLines_function]
        exact ⟨_, _, rfl, rfl⟩
      | _ => cases hfunction
    | false =>
      rw [Python.entryLines_of_isFunction hfunction]
      obtain ⟨first, rest, hlines⟩ := List.exists_cons_of_ne_nil (Python.lines_ne_nil s)
      exact ⟨first, rest, hlines, (Python.laid_lines s).starts first (by simp [hlines])⟩

/-- Of two entries that differ in the list that fills a frame, the lines differ in those of the
list. -/
theorem replaces_linesAt_fill (isMember : Bool) (frame : Frame Form) {ss ts : List (Statement Form)}
    (hss : ss ≠ []) (hts : ts ≠ []) :
    Replaces (ss.flatMap (linesAt language frame.isClass))
      (ts.flatMap (linesAt language frame.isClass))
      (linesAt language isMember (frame.fill ss)) (linesAt language isMember (frame.fill ts)) := by
  cases hdialect : language.dialect? with
  | some d =>
    have hfill := Braces.replaces_fill d isMember frame hss hts
    rw [Braces.listLines_eq_flatMap d _ ss, Braces.listLines_eq_flatMap d _ ts] at hfill
    rw [linesAt_of_dialect hdialect, linesAt_of_dialect hdialect]
    exact hfill
  | none =>
    have hfill := Python.replaces_fill isMember frame hss hts
    rw [Python.listLines_eq_flatMap _ ss, Python.listLines_eq_flatMap _ ts] at hfill
    rw [linesAt_of_no_dialect hdialect, linesAt_of_no_dialect hdialect]
    exact hfill

/-- Of two lists that differ in a list some layers down, the lines differ in those of that list. -/
theorem replaces_fillAll {ss ts : List (Statement Form)} (hss : ss ≠ []) (hts : ts ≠ [])
    (path : List (Layer Form)) (isClass : Bool) :
    Replaces (ss.flatMap (linesAt language (endsInClass isClass path)))
      (ts.flatMap (linesAt language (endsInClass isClass path)))
      ((fillAll path ss).flatMap (linesAt language isClass))
      ((fillAll path ts).flatMap (linesAt language isClass)) := by
  induction path generalizing isClass with
  | nil => exact .refl _ _
  | cons layer path ih =>
    have hframe := replaces_linesAt_fill language isClass layer.frame
      (fillAll_ne_nil hss path) (fillAll_ne_nil hts path)
    exact (ih layer.frame.isClass).trans (hframe.flatMap layer.before layer.after)

end Statement

open Statement (linesAt)

/-- Of two programs that differ in the list at a place, the lines differ in those of that list. -/
theorem Place.replaces_linesIn (language : Language) (place : Place Form)
    {ss ts : List (Statement Form)} (hss : ss ≠ []) (hts : ts ≠ []) :
    Replaces (ss.flatMap (linesAt language place.holdsMembers))
      (ts.flatMap (linesAt language place.holdsMembers))
      ((place.fill ss).linesIn language) ((place.fill ts).linesIn language) := by
  have hpath (path : List (Layer Form)) := Statement.replaces_fillAll language hss hts path
  have hne (path : List (Layer Form)) := Statement.fillAll_ne_nil hss path
  have hne' (path : List (Layer Form)) := Statement.fillAll_ne_nil hts path
  have hlayer (layer : Layer Form) (path : List (Layer Form)) :=
    (hpath path layer.frame.isClass).trans
      (Statement.replaces_linesAt_fill language false layer.frame (hne path) (hne' path))
  unfold Program.linesIn
  cases hdialect : language.dialect? with
  | some d =>
    rw [Statement.linesAt_of_dialect hdialect false] at hlayer
    cases place with
    | main classes functions path =>
      have hbody := hpath path false
      rw [Statement.linesAt_of_dialect hdialect false, ← Braces.listLines_eq_flatMap,
        ← Braces.listLines_eq_flatMap] at hbody
      exact Braces.replaces_programLines_of_body hbody classes functions
    | inClasses layer path functions body =>
      exact Braces.replaces_programLines_of_classes (hne (layer :: path)) (hne' (layer :: path))
        (Braces.replaces_classLines (hlayer layer path) layer.before layer.after) functions body
    | inFunctions classes layer path body =>
      have hfunctions := Replaces.flatMap (f := fun s => Line.blank :: Braces.lines d s)
        ((hlayer layer path).cons Line.blank) layer.before layer.after
      exact Braces.replaces_programLines_of_functions hfunctions classes body
  | none =>
    rw [Statement.linesAt_of_no_dialect hdialect false] at hlayer
    cases place with
    | main classes functions path =>
      have hbody := hpath path false
      rw [Statement.linesAt_of_no_dialect hdialect false, ← Python.listLines_eq_flatMap,
        ← Python.listLines_eq_flatMap] at hbody
      exact Python.replaces_programLines_of_body hbody (hne path) (hne' path) classes functions
    | inClasses layer path functions body =>
      exact Python.replaces_programLines_of_entries (hlayer layer path) layer.before
        (layer.after ++ functions) (by simp [fill, fillAll]) (by simp [fill, fillAll]) rfl
    | inFunctions classes layer path body =>
      exact Python.replaces_programLines_of_entries (hlayer layer path) (classes ++ layer.before)
        layer.after (by simp [fill, fillAll]) (by simp [fill, fillAll]) rfl

/-! ## Inserting an unknown statement -/

/-- An unknown statement is written as its placeholder, in a class as elsewhere. -/
theorem Statement.linesAt_unknown (language : Language) (isMember : Bool) (kind : Text)
    (data : Json.Fields) (id : Option Text) :
    linesAt language isMember (.unknown kind data id) = [language.placeholder kind] := by
  cases language <;> cases isMember <;> rfl

/-- Every statement below the top level stands in a list at some place. Wherever an unknown
statement is inserted into such a list, which is not empty, its placeholder comes to stand between
the lines of the statements before and after it, at the level where they start, and all other lines
stay. -/
theorem Program.lines_insert_unknown (language : Language) (blockScoped : Bool) :
    (∀ (p : Program Unit) (t : Statement Unit), t ∈ p.walk → t ∈ p.classes ∨ t ∈ p.functions ∨
      ∃ (place : Place Unit) (before after : List (Statement Unit)),
        p = place.fill (before ++ t :: after)) ∧
    ∀ (place : Place Unit) (before after : List (Statement Unit)), before ++ after ≠ [] →
      ∀ (kind : Text) (data : Json.Fields) (id : Option Text),
        ∃ (levels : Nat) (above below : List Line) (before' after' : List (Statement Form)),
          unmarkAll before' = before ∧ unmarkAll after' = after ∧
          (∀ t ∈ before' ++ after', ∃ first rest,
            t.linesAt language place.holdsMembers = first :: rest ∧ first.level = 0) ∧
          (place.fill (before ++ after)).lines language blockScoped =
            above ++ Line.shift levels (before'.flatMap (linesAt language place.holdsMembers)
              ++ after'.flatMap (linesAt language place.holdsMembers)) ++ below ∧
          (place.fill (before ++ .unknown kind data id :: after)).lines language blockScoped =
            above ++ Line.shift levels (before'.flatMap (linesAt language place.holdsMembers)
              ++ language.placeholder kind
                :: after'.flatMap (linesAt language place.holdsMembers)) ++ below := by
  refine ⟨fun p t h => p.exists_place h, fun place before after hne kind data id => ?_⟩
  obtain ⟨inner, hmarked⟩ := place.exists_marked language.inlinesDefault blockScoped
  obtain ⟨before', after', left, hbefore, hafter, hlist, hinsert⟩ :=
    Statement.exists_markIn_insert language.inlinesDefault place.holdsMembers before after inner
  have hinserted := hinsert kind data id
  obtain ⟨marked, hmembers, hfill⟩ := hmarked left
  have hne' : before' ++ after' ≠ [] := by
    intro hnil
    obtain ⟨rfl, rfl⟩ := List.append_eq_nil_iff.1 hnil
    subst hbefore hafter
    exact hne rfl
  have hnonempty : before' ++ .unknown kind data id :: after' ≠ [] := by simp
  obtain ⟨levels, above, below, hlines, hlines'⟩ :=
    marked.replaces_linesIn language hne' hnonempty
  rw [hmembers] at hlines hlines'
  refine ⟨levels, above, below, before', after', hbefore, hafter,
    fun t _ => t.exists_first_line language place.holdsMembers, ?_, ?_⟩
  · rw [Program.lines, hfill _ (by rw [hlist]), hlist, hlines, List.flatMap_append]
  · rw [Program.lines, hfill _ (by rw [hinserted]), hinserted, hlines', List.flatMap_append,
      List.flatMap_cons, Statement.linesAt_unknown]
    rfl

/-- In Python the default of a switch without cases is written at the level of the switch, and an
unknown statement inside it is too. -/
theorem Program.lines_insert_unknown_in_default :
    ∃ (place : Place Unit) (before after : List (Statement Unit)),
      place = .main [] [] [⟨[], .defaultBody "x" [] none, []⟩] ∧
      before = [.declare () "a" "1" "int" none] ∧ after = [.update "a" "2" none] ∧
      before ++ after ≠ [] ∧ .update "a" "2" none ∈ (place.fill (before ++ after)).walk ∧
      (∃ (place' : Place Unit) (before' after' : List (Statement Unit)),
        place.fill (before ++ after) = place'.fill (before' ++ .update "a" "2" none :: after')) ∧
      ∃ (levels : Nat) (above below xs ys : List Line),
        (place.fill (before ++ after)).lines .python true =
          above ++ Line.shift levels (xs ++ ys) ++ below ∧
        (place.fill (before ++ .unknown "mystery" [] none :: after)).lines .python true =
          above ++ Line.shift levels (xs ++ Language.python.placeholder "mystery" :: ys)
            ++ below := by
  have hmem : .update "a" "2" none ∈ ((Place.main [] [] [⟨[], .defaultBody "x" [] none, []⟩]).fill
      [.declare () "a" "1" "int" none, .update "a" "2" none]).walk := by decide +kernel
  have hplace := (Program.lines_insert_unknown .python true).1 _ _ hmem
  obtain ⟨levels, above, below, before', after', -, -, -, hlines, hlines'⟩ :=
    (Program.lines_insert_unknown .python true).2 (.main [] [] [⟨[], .defaultBody "x" [] none, []⟩])
      [.declare () "a" "1" "int" none] [.update "a" "2" none] (by simp) "mystery" [] none
  refine ⟨_, _, _, rfl, rfl, rfl, by simp, hmem, ?_, levels, above, below, _, _, hlines, hlines'⟩
  simpa [Place.fill] using hplace

end BlockFlow
