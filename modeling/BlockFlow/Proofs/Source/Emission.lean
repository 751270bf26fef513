import BlockFlow.Proofs.Source.Clauses
import BlockFlow.Proofs.Source.Scoping

/-!
# Writing step by step

A statement can be written without being laid out first: its lines go to a writer one after the
other, the writer is taken a level deeper for a block and brought back at its end, and a name is
introduced when its statement is reached. Such a piece of work is an `Emission`, put together from
single lines by a few operations. This module writes every statement so, and shows that the lines
and the names in scope are those of the statement marked and laid out (`Statement.emit_eq_write`).
-/

namespace BlockFlow

/-- What writing a piece of code does to a writer and to the names in scope. -/
def Emission := Writer → Scopes → Writer × Scopes

namespace Emission

/-- Writes nothing. -/
def nothing : Emission :=
  fun w scopes => (w, scopes)

/-- Writes a line of text. -/
def line (text : Text) : Emission :=
  fun w scopes => (w.writeLine text, scopes)

/-- Writes lines of text. -/
def lines (texts : List Text) : Emission :=
  fun w scopes => (w.extend texts, scopes)

/-- Writes a comment. -/
def comment (text : Text) : Emission :=
  fun w scopes => (w.comment text, scopes)

/-- Writes one piece after the other. -/
instance : Append Emission where
  append e f := fun w scopes =>
    let first := e w scopes
    f first.1 first.2

/-- Writes one level deeper. -/
def deeper (e : Emission) : Emission :=
  fun w scopes =>
    let inside := e w.push scopes
    (inside.1.pop, inside.2)

/-- Writes in a scope of its own. -/
def inScope (e : Emission) : Emission :=
  fun w scopes =>
    let inside := e w scopes.enter
    (inside.1, inside.2.leave)

/-- Writes a block: one level deeper and in a scope of its own. -/
def block (e : Emission) : Emission :=
  deeper (inScope e)

/-- Writes with no names in scope. Those that are introduced are forgotten. -/
def anew (blockScoped : Bool) (e : Emission) : Emission :=
  fun w scopes => ((e w (Scopes.new blockScoped)).1, scopes)

/-- Introduces a name, and writes what its form asks for. -/
def introducing (name : Text) (e : Form → Emission) : Emission :=
  fun w scopes =>
    let declared := scopes.declare name
    e (.ofNew declared.1) w declared.2

end Emission

open Emission

/-! ## Brace languages -/

namespace Braces

/-- Writes what stands between a line that opens a brace and the closing brace. -/
def braced (text : Text) (e : Emission) : Emission :=
  line (text ++ " \x7b") ++ e ++ line "\x7d"

/-- Writes a case of a switch. -/
def emitCase (d : Dialect) (label : Text) (e : Emission) : Emission :=
  line (if d.bracesCases then label ++ " \x7b" else label)
    ++ Emission.block (e ++ line "break;")
    ++ (if d.bracesCases then line "\x7d" else nothing)

mutual

/-- Writes a statement. Every function and every other member of a class starts with no names in
scope. -/
def emit (d : Dialect) (blockScoped : Bool) : Statement Unit → Emission
  | .declare _ name value dataType _ =>
    introducing name fun form => line (d.variableLine form name value dataType)
  | .update name value _ => line (name ++ " = " ++ Dialect.formatValue value "" ++ ";")
  | .arrayValues _ name dataType values _ =>
    let values := Dialect.commaList (values.map (Dialect.formatValue · dataType))
    introducing name fun form => line (d.arrayValuesLine form name (d.elementType dataType) values)
  | .arraySize _ name dataType size _ =>
    introducing name fun form => line (d.arraySizeLine form name (d.elementType dataType) size)
  | .print value _ => line (d.printLine value)
  | .ifElse condition body orElse _ =>
    line ("if (" ++ condition ++ ")" ++ " \x7b") ++ Emission.block (emitAll d blockScoped body)
      ++ (if orElse.isEmpty then nothing
        else line ("\x7d else" ++ " \x7b") ++ Emission.block (emitAll d blockScoped orElse))
      ++ line "\x7d"
  | .switch subject cases otherwise _ =>
    braced ("switch (" ++ subject ++ ")") (deeper (emitCases d blockScoped cases
      ++ (if otherwise.isEmpty then nothing
        else emitCase d "default:" (emitAll d blockScoped otherwise))))
  | .forRange var bound body _ =>
    braced ("for (int " ++ var ++ " = 0; " ++ var ++ " < " ++ bound ++ "; " ++ var ++ "++)")
      (Emission.block (emitAll d blockScoped body))
  | .whileLoop condition body _ =>
    braced ("while (" ++ condition ++ ")") (Emission.block (emitAll d blockScoped body))
  | .function name params body _ =>
    braced (d.methodHeader false name params)
      (anew blockScoped (Emission.block (emitAll d blockScoped body)))
  | .call name args _ => line (name ++ "(" ++ Dialect.commaList args ++ ");")
  | .classDef name base members _ =>
    Emission.lines (d.classHeader name base) ++ deeper (emitMembers d blockScoped members)
      ++ line d.classFooter
  | .create var className args _ => line (d.createLine var className args)
  | .unknown kind _ _ =>
    comment ("Unsupported node type for " ++ d.language.displayName ++ ": " ++ kind)

/-- Writes the statements of a list. -/
def emitAll (d : Dialect) (blockScoped : Bool) : List (Statement Unit) → Emission
  | [] => nothing
  | s :: rest => emit d blockScoped s ++ emitAll d blockScoped rest

/-- Writes the cases of a switch. -/
def emitCases (d : Dialect) (blockScoped : Bool) :
    List (Text × List (Statement Unit)) → Emission
  | [] => nothing
  | (value, body) :: rest =>
    emitCase d ("case " ++ value ++ ":") (emitAll d blockScoped body)
      ++ emitCases d blockScoped rest

/-- Writes the members of a class, whose functions are its methods. -/
def emitMembers (d : Dialect) (blockScoped : Bool) : List (Statement Unit) → Emission
  | [] => nothing
  | .function name params body _ :: rest =>
    braced (d.methodHeader true name params)
      (anew blockScoped (Emission.block (emitAll d blockScoped body)))
      ++ emitMembers d blockScoped rest
  | s :: rest => anew blockScoped (emit d blockScoped s) ++ emitMembers d blockScoped rest

end

end Braces

/-! ## Python -/

namespace Python

/-- Writes what stands below a header, or a `pass` if there are no statements. -/
def filled (statements : List (Statement Unit)) (e : Emission) : Emission :=
  (if statements.isEmpty then line "pass" else nothing) ++ e

/-- Writes the branch that is taken when no other is, if there is anything in it. -/
def emitElse (statements : List (Statement Unit)) (e : Emission) : Emission :=
  if statements.isEmpty then nothing else line "else:" ++ Emission.block (filled statements e)

mutual

/-- Writes a statement. Every function and every other member of a class starts with no names in
scope. -/
def emit (blockScoped : Bool) : Statement Unit → Emission
  | .declare _ name value dataType _ =>
    introducing name fun _ => Emission.lines ((assignment name value dataType).map (·.text))
  | .update name value _ => Emission.lines ((assignment name value "").map (·.text))
  | .arrayValues _ name dataType values _ =>
    introducing name fun _ =>
      line (name ++ " = [" ++ commaList (values.map (formatValue · dataType)) ++ "]")
  | .arraySize _ name dataType size _ =>
    introducing name fun _ =>
      line (name ++ " = [" ++ initialValue dataType ++ "] * " ++ spell size)
  | .print value _ => line ("print(" ++ formatValue value "" ++ ")")
  | .ifElse condition body orElse _ =>
    line ("if " ++ spell condition ++ ":")
      ++ Emission.block (filled body (emitAll blockScoped body))
      ++ emitElse orElse (emitAll blockScoped orElse)
  | .switch subject cases otherwise _ =>
    match cases with
    | [] =>
      if otherwise.isEmpty then line "pass  # empty switch" else emitAll blockScoped otherwise
    | (value, body) :: rest =>
      line ("if " ++ caseTest subject value ++ ":")
        ++ Emission.block (filled body (emitAll blockScoped body))
        ++ emitCases blockScoped subject rest
        ++ emitElse otherwise (emitAll blockScoped otherwise)
  | .forRange var bound body _ =>
    line ("for " ++ var ++ " in range(" ++ spell bound ++ "):")
      ++ Emission.block (filled body (emitAll blockScoped body))
  | .whileLoop condition body _ =>
    line ("while " ++ spell condition ++ ":")
      ++ Emission.block (filled body (emitAll blockScoped body))
  | .function name params body _ =>
    line (methodHeader false name params).text
      ++ anew blockScoped (Emission.block (filled body (emitAll blockScoped body)))
  | .call name args _ => line (name ++ "(" ++ commaList args ++ ")")
  | .classDef name base members _ =>
    line ("class " ++ name ++ baseClause base ++ ":")
      ++ deeper (filled members (emitMembers blockScoped members))
  | .create var className args _ => line (var ++ " = " ++ className ++ "(" ++ commaList args ++ ")")
  | .unknown kind _ _ => line (placeholder kind).text

/-- Writes the statements of a list. -/
def emitAll (blockScoped : Bool) : List (Statement Unit) → Emission
  | [] => nothing
  | s :: rest => emit blockScoped s ++ emitAll blockScoped rest

/-- Writes the cases of a switch after the first. -/
def emitCases (blockScoped : Bool) (subject : Text) :
    List (Text × List (Statement Unit)) → Emission
  | [] => nothing
  | (value, body) :: rest =>
    line ("elif " ++ caseTest subject value ++ ":")
      ++ Emission.block (filled body (emitAll blockScoped body))
      ++ emitCases blockScoped subject rest

/-- Writes the members of a class, whose functions are its methods. -/
def emitMembers (blockScoped : Bool) : List (Statement Unit) → Emission
  | [] => nothing
  | .function name params body _ :: rest =>
    line (methodHeader true name params).text
      ++ anew blockScoped (Emission.block (filled body (emitAll blockScoped body)))
      ++ emitMembers blockScoped rest
  | s :: rest => anew blockScoped (emit blockScoped s) ++ emitMembers blockScoped rest

end

end Python

/-- Writes a statement in a language. The flag says how names are scoped where none are in scope
yet. -/
def Statement.emit (language : Language) (blockScoped : Bool) (s : Statement Unit) : Emission :=
  match language.dialect? with
  | some dialect => Braces.emit dialect blockScoped s
  | none => Python.emit blockScoped s

/-! ## What an emission lays out -/

namespace Scopes

/-- The same scopes, but for names that were added to the innermost one. -/
structure Grows (s t : Scopes) : Prop where
  blockScoped : t.blockScoped = s.blockScoped
  enclosing : t.enclosing = s.enclosing
  current : s.current <:+ t.current

namespace Grows

variable {s t u : Scopes}

theorem refl (s : Scopes) : s.Grows s :=
  ⟨rfl, rfl, List.suffix_refl _⟩

/-- Scopes that grow twice grow. -/
theorem trans (hst : s.Grows t) (htu : t.Grows u) : s.Grows u :=
  ⟨htu.blockScoped.trans hst.blockScoped, htu.enclosing.trans hst.enclosing,
    hst.current.trans htu.current⟩

/-- A name is added to the innermost scope, if at all. -/
theorem declare (s : Scopes) (name : Text) : s.Grows (s.declare name).2 := by
  refine ⟨blockScoped_declare s name, enclosing_declare s name, ?_⟩
  unfold Scopes.declare
  split
  · exact List.suffix_refl _
  · exact List.suffix_cons _ _

/-- What a block adds to its own scope is gone at its end. -/
theorem leave (h : s.enter.Grows t) : s.Grows t.leave := by
  -- With one scope for a unit a block has none of its own, and its names stay.
  cases hs : s.blockScoped with
  | true =>
    have ht : t.blockScoped = true := by simpa [hs] using h.blockScoped
    rw [leave_eq hs ht h.enclosing]
    exact refl s
  | false =>
    rw [enter_eq_self hs] at h
    rw [leave_eq_self (h.blockScoped.trans hs)]
    exact h

end Grows

end Scopes

/-- Plain lines have the texts that they are made of. -/
theorem Line.map_text_plain (texts : List Text) : (texts.map plain).map (·.text) = texts := by
  rw [List.map_map]
  exact List.map_id texts

namespace Writer

/-- Writing lines does not change the mark of comments. -/
@[simp]
theorem commentMark_putAll (w : Writer) (ls : List Line) :
    (w.putAll ls).commentMark = w.commentMark := by
  induction ls generalizing w with
  | nil => rfl
  | cons line rest ih => exact ih (w.put line)

/-- A writer one level deeper writes a line as one that is one level deeper itself. -/
theorem push_put (w : Writer) (line : Line) : w.push.put line = (w.put (line.deeper 1)).push := by
  have hlevel : w.indent + 1 + line.level = w.indent + (line.level + 1 : Nat) := by omega
  exact congrArg (fun level : Int =>
    { { w with indent := level }.writeLine line.text with indent := w.indent + 1 }) hlevel

/-- Lines one level deeper can also be written by a writer one level deeper. -/
theorem push_putAll (w : Writer) (ls : List Line) :
    w.push.putAll ls = (w.putAll (Line.indent ls)).push := by
  induction ls generalizing w with
  | nil => rfl
  | cons line rest ih =>
    have hrest := ih (w.put (line.deeper 1))
    rw [← push_put] at hrest
    exact hrest

/-- A writer below level zero would not come back to its level. -/
theorem pop_push {w : Writer} (h : 0 ≤ w.indent) : w.push.pop = w := by
  have hindent : max 0 (w.indent + 1 - 1) = w.indent := by omega
  simp only [push, pop, hindent]

/-- Texts are written as plain lines. -/
theorem extend_eq_putAll (w : Writer) (texts : List Text) :
    w.extend texts = w.putAll (texts.map Line.plain) := by
  induction texts generalizing w with
  | nil => rfl
  | cons text rest ih =>
    rw [List.map_cons, putAll, List.foldl_cons, w.put_eq_writeLine rfl]
    exact ih (w.writeLine text)

end Writer

namespace Emission

/-- On every writer that starts comments with a mark and is not below level zero, an emission writes
these lines of code, and turns the names in scope into others. -/
structure Lays (mark : Text) (scopes : Scopes) (e : Emission) (ls : List Line) (after : Scopes) :
    Prop where
  run : ∀ w : Writer, w.commentMark = mark → 0 ≤ w.indent → e w scopes = (w.putAll ls, after)
  grows : scopes.Grows after

namespace Lays

variable {mark : Text} {scopes middle after : Scopes} {e f : Emission} {xs ys : List Line}

theorem nothing : Lays mark scopes nothing [] scopes :=
  ⟨fun _ _ _ => rfl, .refl scopes⟩

/-- A line at the level of the writer. -/
theorem line {l : Line} (h : l.level = 0) : Lays mark scopes (line l.text) [l] scopes :=
  ⟨fun w _ _ => congrArg (·, scopes) (w.put_eq_writeLine h).symm, .refl scopes⟩

/-- A comment, whose text starts with the mark of the writer. -/
theorem comment {l : Line} {text : Text} (h : l.level = 0) (htext : l.text = mark ++ " " ++ text) :
    Lays mark scopes (comment text) [l] scopes := by
  refine ⟨fun w hmark _ => congrArg (·, scopes) ?_, .refl scopes⟩
  rw [Writer.comment, hmark, ← htext]
  exact (w.put_eq_writeLine h).symm

/-- Lines of text. -/
theorem lines (texts : List Text) :
    Lays mark scopes (lines texts) (texts.map Line.plain) scopes :=
  ⟨fun w _ _ => congrArg (·, scopes) (w.extend_eq_putAll texts), .refl scopes⟩

theorem append (he : Lays mark scopes e xs middle) (hf : Lays mark middle f ys after) :
    Lays mark scopes (e ++ f) (xs ++ ys) after := by
  refine ⟨fun w hmark hw => ?_, he.grows.trans hf.grows⟩
  have hsecond := hf.run (w.putAll xs) (by simpa using hmark) (by simpa using hw)
  rw [← Writer.putAll_append] at hsecond
  show f (e w scopes).1 (e w scopes).2 = _
  rw [he.run w hmark hw]
  exact hsecond

/-- What is written only if there are statements. -/
theorem unlessEmpty (he : Lays mark scopes e xs after) (ss : List (Statement Unit))
    (hempty : ss = [] → after = scopes) :
    Lays mark scopes (if ss.isEmpty then .nothing else e) (if ss.isEmpty then [] else xs)
      after := by
  -- Without statements nothing is written, so the scopes have to be the same.
  cases ss with
  | nil =>
    rw [hempty rfl]
    exact .nothing
  | cons s rest => exact he

/-- A piece one level deeper lays out indented lines. -/
theorem deeper (he : Lays mark scopes e xs after) :
    Lays mark scopes (deeper e) (Line.indent xs) after := by
  refine ⟨fun w hmark hw => ?_, he.grows⟩
  have hpush : 0 ≤ w.push.indent := Int.add_nonneg hw (by decide)
  have hpop : (w.push.putAll xs).pop = w.putAll (Line.indent xs) := by
    rw [Writer.push_putAll]
    exact Writer.pop_push (by simpa using hw)
  rw [Emission.deeper, he.run w.push hmark hpush, hpop]

/-- A piece in a scope of its own, which is closed at its end. -/
theorem inScope (he : Lays mark scopes.enter e xs after) :
    Lays mark scopes (inScope e) xs after.leave := by
  refine ⟨fun w hmark hw => ?_, he.grows.leave⟩
  rw [Emission.inScope, he.run w hmark hw]

/-- A block, that is both. -/
theorem block (he : Lays mark scopes.enter e xs after) :
    Lays mark scopes (block e) (Line.indent xs) after.leave :=
  he.inScope.deeper

/-- A piece that starts without names leaves those at hand alone. -/
theorem anew {blockScoped : Bool} (he : Lays mark (Scopes.new blockScoped) e xs after)
    (scopes : Scopes) :
    Lays mark scopes (anew blockScoped e) xs scopes := by
  refine ⟨fun w hmark hw => ?_, .refl scopes⟩
  rw [Emission.anew, he.run w hmark hw]

/-- A name that is introduced is in scope from then on. -/
theorem introducing {name : Text} {e : Form → Emission}
    (he : Lays mark (scopes.declare name).2 (e (.ofNew (scopes.declare name).1)) xs after) :
    Lays mark scopes (introducing name e) xs after :=
  ⟨he.run, (Scopes.Grows.declare scopes name).trans he.grows⟩

end Lays

end Emission

/-! ## Agreement with the layout -/

namespace Braces

open Line (plain indent)
open Statement (mark markAll markCases markEach isEmpty_markAll)

section

variable {commentMark : Text} {scopes after : Scopes} {e : Emission} {body : List Line}

/-- A piece between braces is a block. -/
theorem lays_braced (he : Lays commentMark scopes e (indent body) after) (text : Text) :
    Lays commentMark scopes (braced text e) (block text body) after :=
  (Lays.append (.line (l := opened text) rfl) he).append (.line (l := closed) rfl)

/-- A case of a switch, with or without braces. -/
theorem lays_emitCase (he : Lays commentMark scopes.enter e body after) (d : Dialect)
    (label : Text) :
    Lays commentMark scopes (emitCase d label e) (caseBlock d label body) after.leave := by
  have hblock := (he.append (.line (l := plain "break;") rfl)).block
  unfold emitCase caseBlock
  -- Only with braces there is a line to close.
  cases d.bracesCases with
  | true => exact lays_braced hblock label
  | false =>
    have hcase := (Lays.append (.line (l := plain label) rfl) hblock).append .nothing
    rw [List.append_nil] at hcase
    exact hcase

end

/-- A placeholder is a comment. -/
theorem text_placeholder (d : Dialect) (kind : Text) : (d.placeholder kind).text =
    "//" ++ " " ++ ("Unsupported node type for " ++ d.language.displayName ++ ": " ++ kind) := by
  have hstart : Text.ofString "// Unsupported node type for " =
      "//" ++ " " ++ "Unsupported node type for " := by decide
  simp [Dialect.placeholder, hstart]

mutual

/-- A statement that is written step by step is laid out as it is marked. -/
theorem lays_emit (d : Dialect) (blockScoped : Bool) : ∀ (s : Statement Unit) (scopes : Scopes),
    scopes.blockScoped = blockScoped →
      Lays "//" scopes (emit d blockScoped s) (lines d (mark false s scopes).1)
        (mark false s scopes).2
  | .declare .., _, _ => by
    rw [emit, mark, lines]
    exact .introducing (.line (l := plain _) rfl)
  | .update .., _, _ => .line (l := plain _) rfl
  | .arrayValues .., _, _ => by
    rw [emit, mark, lines]
    exact .introducing (.line (l := plain _) rfl)
  | .arraySize .., _, _ => by
    rw [emit, mark, lines]
    exact .introducing (.line (l := plain _) rfl)
  | .print .., _, _ => .line (l := plain _) rfl
  | .ifElse condition body orElse id, scopes, h => by
    have hbody := (lays_emitAll d blockScoped body scopes.enter (by simpa using h)).block
    have hthen := Lays.append (.line (l := opened ("if (" ++ condition ++ ")")) rfl) hbody
    have horElse := (lays_emitAll d blockScoped orElse
      (markAll false body scopes.enter).2.leave.enter
      (by simpa [h] using hbody.grows.blockScoped)).block
    have helse := (Lays.append (.line (l := opened "\x7d else") rfl) horElse).unlessEmpty orElse
      (by rintro rfl; exact Scopes.leave_enter _)
    rw [emit, mark, lines, isEmpty_markAll]
    exact (hthen.append helse).append (.line (l := closed) rfl)
  | .switch subject cases otherwise id, scopes, h => by
    have hcases := lays_emitCases d blockScoped cases scopes h
    have hotherwise := lays_emitAll d blockScoped otherwise (markCases false cases scopes).2.enter
      (by simpa [h] using hcases.grows.blockScoped)
    have hdefault := (lays_emitCase hotherwise d "default:").unlessEmpty otherwise
      (by rintro rfl; exact Scopes.leave_enter _)
    simp only [emit, mark, Bool.false_and, Bool.false_eq_true, if_false, lines, isEmpty_markAll]
    exact lays_braced (hcases.append hdefault).deeper _
  | .forRange var bound body id, scopes, h =>
    lays_braced (lays_emitAll d blockScoped body scopes.enter (by simpa using h)).block _
  | .whileLoop condition body id, scopes, h =>
    lays_braced (lays_emitAll d blockScoped body scopes.enter (by simpa using h)).block _
  | .function name params body id, scopes, h => by
    have hbody := (lays_emitAll d blockScoped body (Scopes.new blockScoped).enter (by simp)).block
    rw [mark, h]
    exact lays_braced (hbody.anew scopes) _
  | .call .., _, _ => .line (l := plain _) rfl
  | .classDef name base members id, scopes, h => by
    have hmembers := (lays_emitMembers d blockScoped scopes members).deeper
    rw [emit, mark, lines, h]
    exact ((Lays.lines (d.classHeader name base)).append hmembers).append (.line (l := plain _) rfl)
  | .create .., _, _ => .line (l := plain _) rfl
  | .unknown kind data id, scopes, _ =>
    .comment (l := d.placeholder kind) rfl (text_placeholder d kind)

/-- So are the statements of a list. -/
theorem lays_emitAll (d : Dialect) (blockScoped : Bool) :
    ∀ (ss : List (Statement Unit)) (scopes : Scopes), scopes.blockScoped = blockScoped →
      Lays "//" scopes (emitAll d blockScoped ss) (linesAll d (markAll false ss scopes).1)
        (markAll false ss scopes).2
  | [], _, _ => .nothing
  | s :: rest, scopes, h => by
    have hfirst := lays_emit d blockScoped s scopes h
    exact hfirst.append (lays_emitAll d blockScoped rest _ (hfirst.grows.blockScoped.trans h))

/-- So are the cases of a switch. -/
theorem lays_emitCases (d : Dialect) (blockScoped : Bool) :
    ∀ (cases : List (Text × List (Statement Unit))) (scopes : Scopes),
      scopes.blockScoped = blockScoped →
      Lays "//" scopes (emitCases d blockScoped cases)
        (linesCases d (markCases false cases scopes).1) (markCases false cases scopes).2
  | [], _, _ => .nothing
  | (value, body) :: rest, scopes, h => by
    have hbody := lays_emitAll d blockScoped body scopes.enter (by simpa using h)
    have hcase := lays_emitCase hbody d ("case " ++ value ++ ":")
    exact hcase.append (lays_emitCases d blockScoped rest _ (hcase.grows.blockScoped.trans h))

/-- So are the members of a class, each with no names in scope. -/
theorem lays_emitMembers (d : Dialect) (blockScoped : Bool) (scopes : Scopes) :
    ∀ ss : List (Statement Unit),
      Lays "//" scopes (emitMembers d blockScoped ss)
        (linesMembers d (markEach false blockScoped ss)) scopes
  | [] => .nothing
  | s :: rest => by
    have hrest := lays_emitMembers d blockScoped scopes rest
    -- A method has a header of its own, and any other member is written as a statement.
    cases s with
    | function name params body id =>
      have hbody := (lays_emitAll d blockScoped body (Scopes.new blockScoped).enter (by simp)).block
      exact (lays_braced (hbody.anew scopes) _).append hrest
    | _ => exact ((lays_emit d blockScoped _ (Scopes.new blockScoped) rfl).anew scopes).append hrest

end

end Braces

namespace Python

open Line (plain header branch indent)
open Statement (mark markAll markCases markEach isEmpty_markAll isEmpty_markEach isFunction_mark)

section

variable {commentMark : Text} {scopes after : Scopes} {e : Emission} {body : List Line}

/-- What stands below a header, or a `pass`. -/
theorem lays_filled {ss : List (Statement Unit)} {ts : List (Statement Form)}
    (he : Lays commentMark scopes e body after) (hts : ts.isEmpty = ss.isEmpty)
    (hempty : ss = [] → body = []) :
    Lays commentMark scopes (filled ss e) (if ts.isEmpty then [plain "pass"] else body) after := by
  rw [hts]
  -- A `pass` is written where there are no statements.
  cases ss with
  | nil =>
    rw [hempty rfl] at he
    exact Lays.append (.line (l := plain "pass") rfl) he
  | cons s rest => exact Lays.nothing.append he

variable {ss : List (Statement Unit)} {blockScoped : Bool}

/-- A block below a header. -/
theorem lays_suite (scopes : Scopes) (hss : Lays commentMark scopes.enter (emitAll blockScoped ss)
      (linesAll (markAll true ss scopes.enter).1) (markAll true ss scopes.enter).2) :
    Lays commentMark scopes (Emission.block (filled ss (emitAll blockScoped ss)))
      (suite (markAll true ss scopes.enter).1 (linesAll (markAll true ss scopes.enter).1))
      (markAll true ss scopes.enter).2.leave :=
  (lays_filled hss (isEmpty_markAll true ss _) (by rintro rfl; rfl)).block

/-- The branch that is taken when no other is. -/
theorem lays_emitElse (hss : Lays commentMark scopes.enter (emitAll blockScoped ss)
      (linesAll (markAll true ss scopes.enter).1) (markAll true ss scopes.enter).2) :
    Lays commentMark scopes (emitElse ss (emitAll blockScoped ss))
      (elseLines (markAll true ss scopes.enter).1 (linesAll (markAll true ss scopes.enter).1))
      (markAll true ss scopes.enter).2.leave := by
  have helse := Lays.append (.line (l := branch "else:") rfl) (lays_suite scopes hss)
  rw [elseLines, isEmpty_markAll]
  exact helse.unlessEmpty ss (by rintro rfl; exact Scopes.leave_enter _)

end

/-- An assignment with the increments below it. -/
theorem lays_assignment (commentMark : Text) (scopes : Scopes) (name value tag : Text) :
    Lays commentMark scopes (Emission.lines ((assignment name value tag).map (·.text)))
      (assignment name value tag) scopes := by
  obtain ⟨text, more, hlines, -⟩ := exists_assignment name value tag
  rw [hlines, Line.map_text_plain]
  exact .lines (text :: more)

mutual

/-- A statement that is written step by step is laid out as it is marked. -/
theorem lays_emit (commentMark : Text) (blockScoped : Bool) :
    ∀ (s : Statement Unit) (scopes : Scopes), scopes.blockScoped = blockScoped →
      Lays commentMark scopes (emit blockScoped s) (lines (mark true s scopes).1)
        (mark true s scopes).2
  | .declare _ name value dataType _, scopes, _ => by
    rw [emit, mark, lines]
    exact .introducing (lays_assignment commentMark _ name value dataType)
  | .update name value _, scopes, _ => lays_assignment commentMark scopes name value ""
  | .arrayValues .., _, _ => by
    rw [emit, mark, lines]
    exact .introducing (.line (l := plain _) rfl)
  | .arraySize .., _, _ => by
    rw [emit, mark, lines]
    exact .introducing (.line (l := plain _) rfl)
  | .print .., _, _ => .line (l := plain _) rfl
  | .ifElse condition body orElse id, scopes, h => by
    have hbody := lays_suite scopes (lays_emitAll commentMark blockScoped body _ (by simpa using h))
    have hthen := Lays.append (.line (l := header ("if " ++ spell condition ++ ":")) rfl) hbody
    exact hthen.append (lays_emitElse (lays_emitAll commentMark blockScoped orElse _
      (by simpa [h] using hbody.grows.blockScoped)))
  | .switch subject [] [] id, scopes, _ => .line (l := plain "pass  # empty switch") rfl
  | .switch subject [] (s :: rest) id, scopes, h =>
    lays_emitAll commentMark blockScoped (s :: rest) scopes h
  | .switch subject ((value, body) :: rest) otherwise id, scopes, h => by
    have hbody := lays_suite scopes (lays_emitAll commentMark blockScoped body _ (by simpa using h))
    have hfirst := Lays.append
      (.line (l := header ("if " ++ caseTest subject value ++ ":")) rfl) hbody
    have hcases := hfirst.append (lays_emitCases commentMark blockScoped subject rest _
      (hbody.grows.blockScoped.trans h))
    exact hcases.append (lays_emitElse (lays_emitAll commentMark blockScoped otherwise _
      (by simpa [h] using hcases.grows.blockScoped)))
  | .forRange var bound body id, scopes, h =>
    Lays.append (.line (l := header _) rfl)
      (lays_suite scopes (lays_emitAll commentMark blockScoped body _ (by simpa using h)))
  | .whileLoop condition body id, scopes, h =>
    Lays.append (.line (l := header _) rfl)
      (lays_suite scopes (lays_emitAll commentMark blockScoped body _ (by simpa using h)))
  | .function name params body id, scopes, h => by
    have hbody := lays_suite (Scopes.new blockScoped)
      (lays_emitAll commentMark blockScoped body _ (by simp))
    rw [mark, h]
    exact Lays.append (.line (l := methodHeader false name params) rfl) (hbody.anew scopes)
  | .call .., _, _ => .line (l := plain _) rfl
  | .classDef name base members id, scopes, h => by
    have hmembers := (lays_filled (lays_emitMembers commentMark blockScoped scopes members)
      (isEmpty_markEach true blockScoped members) (by rintro rfl; rfl)).deeper
    rw [mark, h]
    exact Lays.append (.line (l := header _) rfl) hmembers
  | .create .., _, _ => .line (l := plain _) rfl
  | .unknown kind data id, scopes, _ => .line (l := placeholder kind) rfl

/-- So are the statements of a list. -/
theorem lays_emitAll (commentMark : Text) (blockScoped : Bool) :
    ∀ (ss : List (Statement Unit)) (scopes : Scopes), scopes.blockScoped = blockScoped →
      Lays commentMark scopes (emitAll blockScoped ss) (linesAll (markAll true ss scopes).1)
        (markAll true ss scopes).2
  | [], _, _ => .nothing
  | s :: rest, scopes, h => by
    have hfirst := lays_emit commentMark blockScoped s scopes h
    exact hfirst.append
      (lays_emitAll commentMark blockScoped rest _ (hfirst.grows.blockScoped.trans h))

/-- So are the cases of a switch after the first. -/
theorem lays_emitCases (commentMark : Text) (blockScoped : Bool) (subject : Text) :
    ∀ (cases : List (Text × List (Statement Unit))) (scopes : Scopes),
      scopes.blockScoped = blockScoped →
      Lays commentMark scopes (emitCases blockScoped subject cases)
        (linesCases subject (markCases true cases scopes).1) (markCases true cases scopes).2
  | [], _, _ => .nothing
  | (value, body) :: rest, scopes, h => by
    have hbody := lays_suite scopes (lays_emitAll commentMark blockScoped body _ (by simpa using h))
    have hcase := Lays.append
      (.line (l := branch ("elif " ++ caseTest subject value ++ ":")) rfl) hbody
    exact hcase.append (lays_emitCases commentMark blockScoped subject rest _
      (hcase.grows.blockScoped.trans h))

/-- So are the members of a class, each with no names in scope. -/
theorem lays_emitMembers (commentMark : Text) (blockScoped : Bool) (scopes : Scopes) :
    ∀ ss : List (Statement Unit),
      Lays commentMark scopes (emitMembers blockScoped ss)
        (linesMembers (markEach true blockScoped ss)) scopes
  | [] => .nothing
  | s :: rest => by
    have hrest := lays_emitMembers commentMark blockScoped scopes rest
    cases s with
    | function name params body id =>
      have hbody := lays_suite (Scopes.new blockScoped)
        (lays_emitAll commentMark blockScoped body _ (by simp))
      have hmethod := Lays.append (.line (l := methodHeader true name params) rfl)
        (hbody.anew scopes)
      exact hmethod.append hrest
    | _ =>
      rw [markEach, linesMembers_cons_of_isFunction (isFunction_mark true _ _)]
      exact Lays.append ((lays_emit commentMark blockScoped _ (Scopes.new blockScoped) rfl).anew _)
        hrest

end

end Python

/-- Where names are scoped as in the scopes at hand, writing a statement step by step is writing the
lines it is laid out in, with its declarations marked. -/
theorem Statement.emit_eq_write (language : Language) (s : Statement Unit) {w : Writer}
    (scopes : Scopes) (hmark : w.commentMark = language.commentMark) (hw : 0 ≤ w.indent) :
    s.emit language scopes.blockScoped w scopes = s.write language w scopes := by
  cases language with
  | python => exact (Python.lays_emit _ _ s scopes rfl).run w hmark hw
  | _ => exact (Braces.lays_emit _ _ s scopes rfl).run w hmark hw

end BlockFlow
