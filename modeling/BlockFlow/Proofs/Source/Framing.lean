import BlockFlow.Proofs.Source.Emission
import BlockFlow.Proofs.Source.Indentation

/-!
# What writing a statement leaves alone

Writing a statement step by step moves the writer from level to level and the scopes from block to
block, but all of this is undone at its end: lines are added and nothing else is done to the writer,
names are added to the innermost scope and nothing else is done to the scopes (`Framed`). The lines
do not depend on the level of the writer but for the margin in front of each, so a statement can be
written on its own and moved into its place.
-/

namespace BlockFlow

/-! ## Margins -/

namespace Writer

/-- The margin of two levels together. -/
theorem margin_add {level more : Int} (h : 0 ≤ level) (hmore : 0 ≤ more) :
    margin (level + more) = margin level ++ margin more := by
  have hspaces : (4 * (level + more)).toNat = (4 * level).toNat + (4 * more).toNat := by omega
  rw [margin, hspaces, List.replicate_add]
  rfl

/-- Writing lines adds them behind the margin of the writer and does nothing else. -/
theorem putAll_eq (w : Writer) (ls : List Line) :
    w.putAll ls = { w with lines := w.lines ++ (ls.map (·.writtenAt w.indent)).toArray } := by
  have hlines : (w.putAll ls).lines = w.lines ++ (ls.map (·.writtenAt w.indent)).toArray := by
    apply Array.toList_inj.mp
    rw [lines_putAll, Array.toList_append]
  have hindent := w.indent_putAll ls
  have hmark := w.commentMark_putAll ls
  generalize w.putAll ls = written at hlines hindent hmark
  obtain ⟨indent, commentMark, lines⟩ := written
  subst hindent hmark hlines
  rfl

end Writer

/-- A line that is not empty is moved by the margin of the writer. -/
theorem Line.writtenAt_eq {line : Line} (hline : line.text ≠ []) {indent : Int} (h : 0 ≤ indent) :
    line.writtenAt indent = Writer.margin indent ++ line.writtenAt 0 := by
  rw [writtenAt_of_ne_nil hline, writtenAt_of_ne_nil hline,
    Writer.margin_add h (Int.natCast_nonneg line.level), Int.zero_add, List.append_assoc]

/-- A line that is not empty is not empty once it is written. -/
theorem Line.writtenAt_ne_nil {line : Line} (hline : line.text ≠ []) (indent : Int) :
    line.writtenAt indent ≠ [] := by
  rw [writtenAt_of_ne_nil hline]
  exact List.append_ne_nil_of_right_ne_nil _ hline

/-! ## Emissions -/

namespace Emission

/-- Whatever names are in scope, an emission adds lines that are not empty, at least so many, and
names in the innermost scope. -/
def Framed (least : Nat) (e : Emission) : Prop :=
  ∀ (mark : Text) (scopes : Scopes), ∃ ls after,
    Lays mark scopes e ls after ∧ (∀ l ∈ ls, l.text ≠ []) ∧ least ≤ ls.length

namespace Framed

variable {least : Nat} {e f : Emission}

/-- With fewer lines to ask for an emission is still framed. -/
theorem any (h : Framed least e) : Framed 0 e := by
  intro mark scopes
  obtain ⟨ls, after, hlays, hfilled, -⟩ := h mark scopes
  exact ⟨ls, after, hlays, hfilled, Nat.zero_le _⟩

theorem nothing : Framed 0 nothing :=
  fun _ scopes => ⟨[], scopes, .nothing, nofun, Nat.le_refl 0⟩

/-- A line that is not empty. -/
theorem line {text : Text} (h : text ≠ []) : Framed 1 (line text) :=
  fun _ scopes => ⟨_, scopes, .line (l := Line.plain text) rfl, by simpa [Line.plain] using h,
    Nat.le_refl 1⟩

/-- Lines that are not empty, one at least. -/
theorem lines {texts : List Text} (hne : texts ≠ []) (h : ∀ t ∈ texts, t ≠ []) :
    Framed 1 (lines texts) := by
  intro mark scopes
  refine ⟨texts.map Line.plain, scopes, .lines texts, by simpa [Line.plain] using h, ?_⟩
  rw [List.length_map]
  exact List.length_pos_of_ne_nil hne

/-- A comment is never empty, since it has a mark. -/
theorem comment (text : Text) : Framed 1 (comment text) :=
  fun mark scopes => ⟨_, scopes, .comment (l := Line.plain (mark ++ " " ++ text)) rfl rfl,
    by simp [Line.plain], Nat.le_refl 1⟩

theorem append (he : Framed least e) (hf : Framed 0 f) : Framed least (e ++ f) := by
  intro mark scopes
  obtain ⟨xs, middle, hxs, hxsfilled, hle⟩ := he mark scopes
  obtain ⟨ys, after, hys, hysfilled, -⟩ := hf mark middle
  refine ⟨xs ++ ys, after, hxs.append hys, List.forall_mem_append.mpr ⟨hxsfilled, hysfilled⟩, ?_⟩
  rw [List.length_append]
  exact Nat.le_add_right_of_le hle

/-- A piece one level deeper. -/
theorem deeper (he : Framed least e) : Framed least (deeper e) := by
  intro mark scopes
  obtain ⟨ls, after, hlays, hfilled, hle⟩ := he mark scopes
  refine ⟨Line.indent ls, after, hlays.deeper, ?_, ?_⟩
  · simpa [Line.indent] using hfilled
  · simpa [Line.indent] using hle

/-- A piece in a scope of its own. -/
theorem inScope (he : Framed least e) : Framed least (inScope e) := by
  intro mark scopes
  obtain ⟨ls, after, hlays, hrest⟩ := he mark scopes.enter
  exact ⟨ls, after.leave, hlays.inScope, hrest⟩

/-- A block, that is both. -/
theorem block (he : Framed least e) : Framed least (block e) :=
  he.inScope.deeper

/-- A piece that starts without names. -/
theorem anew (he : Framed least e) (blockScoped : Bool) : Framed least (anew blockScoped e) := by
  intro mark scopes
  obtain ⟨ls, after, hlays, hrest⟩ := he mark (Scopes.new blockScoped)
  exact ⟨ls, scopes, hlays.anew scopes, hrest⟩

/-- A piece that introduces a name, if it is framed in either form. -/
theorem introducing {e : Form → Emission} (he : ∀ form, Framed least (e form)) (name : Text) :
    Framed least (introducing name e) := by
  intro mark scopes
  obtain ⟨ls, after, hlays, hrest⟩ :=
    he (.ofNew (scopes.declare name).1) mark (scopes.declare name).2
  exact ⟨ls, after, hlays.introducing, hrest⟩

/-- A piece that is left out if there are no statements. -/
theorem unlessEmpty (he : Framed least e) (ss : List (Statement Unit)) :
    Framed 0 (if ss.isEmpty then Emission.nothing else e) := by
  split
  · exact .nothing
  · exact he.any

end Framed

end Emission

open Emission

/-! ## Statements -/

namespace Braces

/-- A piece between braces has the line that opens them. -/
theorem framed_braced {e : Emission} (he : Framed 0 e) (text : Text) : Framed 1 (braced text e) :=
  (Framed.append (.line (by simp)) he).append (Framed.any (.line (by simp)))

/-- A case of a switch has the line of its label. -/
theorem framed_emitCase {e : Emission} (he : Framed 0 e) (d : Dialect) {label : Text}
    (hlabel : label ≠ []) : Framed 1 (emitCase d label e) := by
  have hbreak : Framed 0 (line "break;") := Framed.any (.line (by simp))
  have hblock := (he.append hbreak).block
  unfold emitCase
  -- Only with braces there is a line to close.
  cases d.bracesCases with
  | true => exact framed_braced hblock label
  | false => exact (Framed.append (.line hlabel) hblock).append .nothing

namespace Dialect

/-- The line of a variable is not empty. -/
theorem variableLine_ne_nil (d : Dialect) (form : Form) (name value tag : Text) :
    d.variableLine form name value tag ≠ [] := by
  unfold variableLine
  cases form with
  | declaring => dsimp only; split <;> simp
  | assigning => simp

/-- Nor is that of an array with values. -/
theorem arrayValuesLine_ne_nil (d : Dialect) (form : Form) (name element values : Text) :
    d.arrayValuesLine form name element values ≠ [] := by
  cases d <;> cases form <;> simp [arrayValuesLine]

/-- Nor is that of an array of a given size. -/
theorem arraySizeLine_ne_nil (d : Dialect) (form : Form) (name element size : Text) :
    d.arraySizeLine form name element size ≠ [] := by
  cases d <;> cases form <;> simp [arraySizeLine]

/-- Nor is one that prints a value. -/
theorem printLine_ne_nil (d : Dialect) (value : Text) : d.printLine value ≠ [] := by
  cases d <;> simp [printLine]

/-- Nor is one that makes an object. -/
theorem createLine_ne_nil (d : Dialect) (var className : Text) (args : List Text) :
    d.createLine var className args ≠ [] := by
  cases d <;> cases args <;> simp [createLine]

/-- A class has a header. -/
theorem classHeader_ne_nil (d : Dialect) (name base : Text) : d.classHeader name base ≠ [] := by
  cases d <;> simp [classHeader]

/-- No line of the header is empty. -/
theorem ne_nil_of_mem_classHeader {d : Dialect} {name base text : Text}
    (h : text ∈ d.classHeader name base) : text ≠ [] := by
  rintro rfl
  cases d <;> simp [classHeader] at h

/-- Nor is the footer. -/
theorem classFooter_ne_nil (d : Dialect) : Text.ofString d.classFooter ≠ [] := by
  cases d <;> simp [classFooter]

end Dialect

mutual

/-- A statement adds at least a line, whatever it is. -/
theorem framed_emit (d : Dialect) (blockScoped : Bool) :
    ∀ s : Statement Unit, Framed 1 (emit d blockScoped s)
  | .declare _ name value dataType _ =>
    .introducing (fun form => .line (d.variableLine_ne_nil form name value dataType)) name
  | .update .. => .line (by simp)
  | .arrayValues _ name dataType values _ =>
    .introducing (fun form => .line (d.arrayValuesLine_ne_nil form name _ _)) name
  | .arraySize _ name dataType size _ =>
    .introducing (fun form => .line (d.arraySizeLine_ne_nil form name _ size)) name
  | .print value _ => .line (d.printLine_ne_nil value)
  | .ifElse condition body orElse id => by
    have hbody := (framed_emitAll d blockScoped body).block
    have horElse := (framed_emitAll d blockScoped orElse).block
    have hline : Framed 1 (line ("\x7d else" ++ " \x7b")) := .line (by simp)
    have helse := (hline.append horElse).unlessEmpty orElse
    have hclosing : Framed 0 (line "\x7d") := Framed.any (.line (by simp))
    exact ((Framed.append (.line (by simp)) hbody).append helse).append hclosing
  | .switch subject cases otherwise id => by
    have hcases := framed_emitCases d blockScoped cases
    have hotherwise := framed_emitAll d blockScoped otherwise
    have hlabel : Text.ofString "default:" ≠ [] := by simp
    have hdefault := (framed_emitCase hotherwise d hlabel).unlessEmpty otherwise
    exact framed_braced (hcases.append hdefault).deeper _
  | .forRange var bound body id => framed_braced (framed_emitAll d blockScoped body).block _
  | .whileLoop condition body id => framed_braced (framed_emitAll d blockScoped body).block _
  | .function name params body id =>
    framed_braced ((framed_emitAll d blockScoped body).block.anew blockScoped) _
  | .call .. => .line (by simp)
  | .classDef name base members id => by
    have hheader : Framed 1 (Emission.lines (d.classHeader name base)) :=
      .lines (d.classHeader_ne_nil name base) fun _ => Dialect.ne_nil_of_mem_classHeader
    have hmembers := (framed_emitMembers d blockScoped members).deeper
    exact (hheader.append hmembers).append (Framed.any (.line d.classFooter_ne_nil))
  | .create var className args _ => .line (d.createLine_ne_nil var className args)
  | .unknown .. => .comment _

/-- The statements of a list add lines. -/
theorem framed_emitAll (d : Dialect) (blockScoped : Bool) :
    ∀ ss : List (Statement Unit), Framed 0 (emitAll d blockScoped ss)
  | [] => .nothing
  | s :: rest => (framed_emit d blockScoped s).any.append (framed_emitAll d blockScoped rest)

/-- So do the cases of a switch. -/
theorem framed_emitCases (d : Dialect) (blockScoped : Bool) :
    ∀ cases : List (Text × List (Statement Unit)), Framed 0 (emitCases d blockScoped cases)
  | [] => .nothing
  | (value, body) :: rest =>
    (framed_emitCase (framed_emitAll d blockScoped body) d (by simp)).any.append
      (framed_emitCases d blockScoped rest)

/-- So do the members of a class. -/
theorem framed_emitMembers (d : Dialect) (blockScoped : Bool) :
    ∀ ss : List (Statement Unit), Framed 0 (emitMembers d blockScoped ss)
  | [] => .nothing
  | s :: rest => by
    have hrest := framed_emitMembers d blockScoped rest
    -- A method has a header of its own.
    cases s with
    | function name params body id =>
      have hbody := (framed_emitAll d blockScoped body).block.anew blockScoped
      exact (framed_braced hbody _).any.append hrest
    | _ => exact ((framed_emit d blockScoped _).any.anew blockScoped).append hrest

end

end Braces

namespace Python

/-- What stands below a header. -/
theorem framed_filled {e : Emission} (he : Framed 0 e) (ss : List (Statement Unit)) :
    Framed 0 (filled ss e) := by
  have hpass : Framed 0 (if ss.isEmpty then line "pass" else nothing) := by
    split
    · exact Framed.any (.line (by simp))
    · exact .nothing
  exact hpass.append he

/-- A header with what stands below it. -/
theorem framed_clause {text : Text} (htext : text ≠ []) {e : Emission} (he : Framed 0 e)
    (ss : List (Statement Unit)) : Framed 1 (line text ++ Emission.block (filled ss e)) :=
  Framed.append (.line htext) (framed_filled he ss).block

/-- The branch that is taken when no other is. -/
theorem framed_emitElse {e : Emission} (he : Framed 0 e) (ss : List (Statement Unit)) :
    Framed 0 (emitElse ss e) :=
  (framed_clause (by simp) he ss).unlessEmpty ss

/-- An assignment has a line of its own above the increments. -/
theorem framed_assignment (name value tag : Text) :
    Framed 1 (Emission.lines ((assignment name value tag).map (·.text))) := by
  obtain ⟨text, more, hlines, hfilled⟩ := exists_assignment name value tag
  rw [hlines, Line.map_text_plain]
  exact .lines (List.cons_ne_nil text more) hfilled

mutual

/-- A statement adds at least a line, whatever it is. -/
theorem framed_emit (blockScoped : Bool) : ∀ s : Statement Unit, Framed 1 (emit blockScoped s)
  | .declare _ name value dataType _ =>
    .introducing (fun _ => framed_assignment name value dataType) name
  | .update name value _ => framed_assignment name value ""
  | .arrayValues _ name dataType values _ => .introducing (fun _ => .line (by simp)) name
  | .arraySize _ name dataType size _ => .introducing (fun _ => .line (by simp)) name
  | .print .. => .line (by simp)
  | .ifElse condition body orElse id =>
    (framed_clause (by simp) (framed_emitAll blockScoped body) body).append
      (framed_emitElse (framed_emitAll blockScoped orElse) orElse)
  | .switch subject [] [] id => .line (by simp)
  | .switch subject [] (s :: rest) id =>
    (framed_emit blockScoped s).append (framed_emitAll blockScoped rest)
  | .switch subject ((value, body) :: rest) otherwise id =>
    ((framed_clause (by simp) (framed_emitAll blockScoped body) body).append
      (framed_emitCases blockScoped subject rest)).append
      (framed_emitElse (framed_emitAll blockScoped otherwise) otherwise)
  | .forRange var bound body id => framed_clause (by simp) (framed_emitAll blockScoped body) body
  | .whileLoop condition body id => framed_clause (by simp) (framed_emitAll blockScoped body) body
  | .function name params body id =>
    Framed.append (.line (text_methodHeader_ne_nil false name params))
      ((framed_filled (framed_emitAll blockScoped body) body).block.anew blockScoped)
  | .call .. => .line (by simp)
  | .classDef name base members id =>
    Framed.append (.line (by simp))
      (framed_filled (framed_emitMembers blockScoped members) members).deeper
  | .create .. => .line (by simp)
  | .unknown .. => .line (by simp [placeholder])

/-- The statements of a list add lines. -/
theorem framed_emitAll (blockScoped : Bool) :
    ∀ ss : List (Statement Unit), Framed 0 (emitAll blockScoped ss)
  | [] => .nothing
  | s :: rest => (framed_emit blockScoped s).any.append (framed_emitAll blockScoped rest)

/-- So do the cases of a switch after the first. -/
theorem framed_emitCases (blockScoped : Bool) (subject : Text) :
    ∀ cases : List (Text × List (Statement Unit)), Framed 0 (emitCases blockScoped subject cases)
  | [] => .nothing
  | (value, body) :: rest =>
    (framed_clause (by simp) (framed_emitAll blockScoped body) body).any.append
      (framed_emitCases blockScoped subject rest)

/-- So do the members of a class. -/
theorem framed_emitMembers (blockScoped : Bool) :
    ∀ ss : List (Statement Unit), Framed 0 (emitMembers blockScoped ss)
  | [] => .nothing
  | s :: rest => by
    have hrest := framed_emitMembers blockScoped rest
    -- A method has a header of its own.
    cases s with
    | function name params body id =>
      have hbody := (framed_filled (framed_emitAll blockScoped body) body).block.anew blockScoped
      have hmethod := Framed.append (.line (text_methodHeader_ne_nil true name params)) hbody
      exact hmethod.any.append hrest
    | _ => exact ((framed_emit blockScoped _).any.anew blockScoped).append hrest

end

end Python

namespace Statement

/-- A statement adds at least a line, in every language. -/
theorem framed_emit (language : Language) (blockScoped : Bool) (s : Statement Unit) :
    Framed 1 (s.emit language blockScoped) := by
  cases language with
  | python => exact Python.framed_emit blockScoped s
  | _ => exact Braces.framed_emit _ blockScoped s

/-- Writing a statement of any kind, on any writer that is not below level zero and whatever is in
scope, only adds lines to the writer, one at least and none of them empty, and only adds names to
the innermost scope. The lines are those that are written at the outermost level, with the margin of
the writer in front of each. They are the lines the statement is laid out in, if the writer has the
comments of the language and all names are scoped alike. -/
theorem emit_framed_and_shifted (language : Language) (blockScoped : Bool) (s : Statement Unit)
    (w : Writer) (scopes : Scopes) (hw : 0 ≤ w.indent) :
    let outermost := s.emit language blockScoped { w with indent := 0, lines := #[] } scopes
    s.emit language blockScoped w scopes =
        ({ w with lines := w.lines ++ outermost.1.lines.map (Writer.margin w.indent ++ ·) },
          outermost.2) ∧
      0 < outermost.1.lines.size ∧ (∀ text ∈ outermost.1.lines, text ≠ []) ∧
      scopes.Grows outermost.2 ∧
      (scopes.blockScoped = blockScoped → w.commentMark = language.commentMark →
        s.emit language blockScoped w scopes = s.write language w scopes) := by
  obtain ⟨ls, after, hlays, hfilled, hle⟩ := s.framed_emit language blockScoped w.commentMark scopes
  have houtermost : s.emit language blockScoped { w with indent := 0, lines := #[] } scopes =
      ({ w with indent := 0, lines := (ls.map (·.writtenAt 0)).toArray }, after) := by
    rw [hlays.run { w with indent := 0, lines := #[] } rfl (Int.le_refl 0), Writer.putAll_eq,
      Array.empty_append]
  rw [houtermost]
  refine ⟨?_, ?_, ?_, hlays.grows, ?_⟩
  · rw [hlays.run w rfl hw, Writer.putAll_eq, List.map_toArray, List.map_map]
    have hshift := List.map_congr_left fun l hl => Line.writtenAt_eq (hfilled l hl) hw
    rw [hshift]
    rfl
  · rw [List.size_toArray, List.length_map]
    exact hle
  · intro text htext
    obtain ⟨l, hl, rfl⟩ := List.mem_map.mp (List.mem_toArray.mp htext)
    exact Line.writtenAt_ne_nil (hfilled l hl) 0
  · rintro rfl hmark
    exact s.emit_eq_write language scopes hmark hw

/-- A branch with a declaration and an unknown statement. -/
def guarded : Statement Unit :=
  .ifElse "a" [.declare () "x" "1" "" none, .unknown "wait" [] none] [] none

/-- What it is in Java, if its variable is new. -/
def guardedLines : Array Text :=
  #["if (a) \x7b", "    var x = 1;", "    // Unsupported node type for Java: wait", "\x7d"]

/-- A writer that has come to level two. -/
def halfway : Writer :=
  ⟨2, "//", #["begin"]⟩

/-- A scope inside another. -/
def oneInside : Scopes :=
  ⟨false, ["y"], [["z"]]⟩

/-- At level two the branch is moved by two margins, and its variable is new. -/
theorem emit_framed_and_shifted_guarded :
    0 ≤ halfway.indent ∧ oneInside.blockScoped = false ∧
    halfway.commentMark = Language.java.commentMark ∧
    guarded.emit .java false halfway oneInside =
      ({ halfway with lines := halfway.lines ++ guardedLines.map (Writer.margin 2 ++ ·) },
        ⟨false, ["x", "y"], [["z"]]⟩) ∧
    oneInside.Grows ⟨false, ["x", "y"], [["z"]]⟩ ∧
    guarded.emit .java false halfway oneInside = guarded.write .java halfway oneInside := by
  have hindent : 0 ≤ halfway.indent := by decide
  obtain ⟨hrun, -, -, hgrows, hwrite⟩ :=
    emit_framed_and_shifted .java false guarded halfway oneInside hindent
  exact ⟨hindent, rfl, rfl, hrun, hgrows, hwrite rfl rfl⟩

end Statement

end BlockFlow
