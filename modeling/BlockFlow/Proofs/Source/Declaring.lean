import BlockFlow.Proofs.Source.Occurrence
import BlockFlow.Proofs.Source.Unmarking
import BlockFlow.Source.Rendering

/-!
# Which statements declare their variable

Marking goes through a program with the names in scope at hand. This module says which marks it
leaves, without those names. With one scope for a whole unit a statement declares its variable when
no earlier statement of the unit introduces the name (`Tracks`). With a scope for every block it
does so when none of those does that stand directly in its block or in a block around it
(`Point.exists_scopes`). Either way a unit starts with no names in scope
(`markedUnit_of_mem_units`).
-/

namespace BlockFlow

/-! ## Scopes -/

namespace Scopes

@[simp]
theorem blockScoped_new (blockScoped : Bool) : (new blockScoped).blockScoped = blockScoped :=
  rfl

/-- Entering a block keeps the way of scoping. -/
@[simp]
theorem blockScoped_enter (s : Scopes) : s.enter.blockScoped = s.blockScoped := by
  unfold enter
  split <;> rfl

/-- So does leaving one. -/
@[simp]
theorem blockScoped_leave (s : Scopes) : s.leave.blockScoped = s.blockScoped := by
  rcases s with ⟨_ | _, current, _ | ⟨outer, rest⟩⟩ <;> rfl

/-- So does declaring a name. -/
@[simp]
theorem blockScoped_declare (s : Scopes) (name : Text) :
    (s.declare name).2.blockScoped = s.blockScoped := by
  unfold declare
  split <;> rfl

/-- A name is new if it is not in scope. -/
@[simp]
theorem fst_declare (s : Scopes) (name : Text) : (s.declare name).1 = !s.isDeclared name := by
  unfold declare
  split <;> simp_all

/-- A name is declared in the innermost scope. -/
@[simp]
theorem enclosing_declare (s : Scopes) (name : Text) :
    (s.declare name).2.enclosing = s.enclosing := by
  unfold declare
  split <;> rfl

@[simp]
theorem isDeclared_new (blockScoped : Bool) (name : Text) :
    (new blockScoped).isDeclared name = false :=
  rfl

/-- In a new block the same names are in scope. -/
@[simp]
theorem isDeclared_enter (s : Scopes) (name : Text) :
    s.enter.isDeclared name = s.isDeclared name := by
  rcases s with ⟨_ | _, current, enclosing⟩ <;> rfl

/-- With one scope for a unit nothing happens at the start of a block. -/
theorem enter_eq_self {s : Scopes} (h : s.blockScoped = false) : s.enter = s := by
  simp [enter, h]

/-- Nor does anything at its end. -/
theorem leave_eq_self {s : Scopes} (h : s.blockScoped = false) : s.leave = s := by
  simp [leave, h]

/-- Closing the scope of a block brings back what was in scope before it, provided that the block
left the scopes around it alone. -/
theorem leave_eq {s t : Scopes} (hs : s.blockScoped = true) (ht : t.blockScoped = true)
    (h : t.enclosing = s.enter.enclosing) : t.leave = s := by
  rcases s with ⟨_, current, enclosing⟩
  rcases t with ⟨_, current', enclosing'⟩
  subst hs ht h
  rfl

/-- The scopes after the name that a statement introduces, if any. -/
def introduce {δ : Type} (scopes : Scopes) (s : Statement δ) : Scopes :=
  match s.introduction? with
  | some (name, _) => (scopes.declare name).2
  | none => scopes

/-- A statement brings names into the innermost scope only. -/
theorem enclosing_introduce {δ : Type} (scopes : Scopes) (s : Statement δ) :
    (scopes.introduce s).enclosing = scopes.enclosing := by
  unfold introduce
  split
  · exact enclosing_declare scopes _
  · rfl

/-- After a statement its own name is in scope, and what was before. -/
theorem isDeclared_introduce {δ : Type} (scopes : Scopes) (s : Statement δ) (name : Text) :
    (scopes.introduce s).isDeclared name = true ↔
      scopes.isDeclared name = true ∨ s.Introduces name := by
  unfold introduce
  split
  · rename_i other mark hs
    have hintroduces : s.Introduces name ↔ name = other := by
      simp [Statement.Introduces, hs, eq_comm]
    simp [isDeclared_declare, hintroduces]
  · rename_i hs
    simp [Statement.Introduces, hs]

end Scopes

namespace Statement

/-! ## The mark of a statement -/

/-- A marked statement introduces the same name, in a form that depends on the scopes. -/
theorem introduction?_mark (s : Statement Unit) (scopes : Scopes) :
    (mark false s scopes).1.introduction? =
      s.introduction?.map fun found => (found.1, .ofNew !scopes.isDeclared found.1) := by
  cases s <;> simp [mark, introduction?]

/-- Marking does not change which names are introduced. -/
theorem introduces_mark (s : Statement Unit) (scopes : Scopes) (name : Text) :
    (mark false s scopes).1.Introduces name ↔ s.Introduces name := by
  unfold Introduces
  rw [introduction?_mark]
  cases s.introduction? <;> simp

/-- A statement declares its variable if the name is not in scope yet. -/
theorem eq_declaring_iff {s : Statement Unit} {scopes : Scopes} {name : Text} {form : Form}
    (h : (mark false s scopes).1.introduction? = some (name, form)) :
    form = .declaring ↔ scopes.isDeclared name = false := by
  rw [introduction?_mark] at h
  obtain ⟨found, -, heq⟩ := Option.map_eq_some_iff.mp h
  obtain ⟨rfl, rfl⟩ := Prod.mk.inj heq
  cases scopes.isDeclared found.1 <;> simp [Form.ofNew]

mutual

/-- Marking a statement keeps the way of scoping. -/
theorem blockScoped_mark : ∀ (s : Statement Unit) (scopes : Scopes),
    (mark false s scopes).2.blockScoped = scopes.blockScoped
  | .declare .., _ => by simp [mark]
  | .update .., _ => by simp [mark]
  | .arrayValues .., _ => by simp [mark]
  | .arraySize .., _ => by simp [mark]
  | .print .., _ => by simp [mark]
  | .ifElse _ body orElse _, _ => by
    simp [mark, blockScoped_markAll body, blockScoped_markAll orElse]
  | .switch _ cases otherwise _, _ => by
    simp [mark, blockScoped_markCases cases, blockScoped_markAll otherwise]
  | .forRange _ _ body _, _ => by simp [mark, blockScoped_markAll body]
  | .whileLoop _ body _, _ => by simp [mark, blockScoped_markAll body]
  | .function .., _ => by simp [mark]
  | .call .., _ => by simp [mark]
  | .classDef .., _ => by simp [mark]
  | .create .., _ => by simp [mark]
  | .unknown .., _ => by simp [mark]

/-- So does marking statements. -/
theorem blockScoped_markAll : ∀ (ss : List (Statement Unit)) (scopes : Scopes),
    (markAll false ss scopes).2.blockScoped = scopes.blockScoped
  | [], _ => by simp [markAll]
  | s :: rest, _ => by simp [markAll, blockScoped_mark s, blockScoped_markAll rest]

/-- So does marking the cases of a switch. -/
theorem blockScoped_markCases : ∀ (cases : List (Text × List (Statement Unit)))
    (scopes : Scopes), (markCases false cases scopes).2.blockScoped = scopes.blockScoped
  | [], _ => by simp [markCases]
  | (_, body) :: rest, _ => by
    simp [markCases, blockScoped_markAll body, blockScoped_markCases rest]

end

/-! ## One scope for a unit -/

/-- Statements that are marked one after the other with a single scope: those declare their variable
that are the first to introduce its name, and every name that is introduced stays in scope. -/
structure Tracks (scopes : Scopes) (ss : List (Statement Form)) (scopes' : Scopes) : Prop where
  known : ∀ name, scopes'.isDeclared name = true ↔
    scopes.isDeclared name = true ∨ ∃ s ∈ ss, s.Introduces name
  first : ∀ earlier s later name form, ss = earlier ++ s :: later →
    s.introduction? = some (name, form) →
      (form = .declaring ↔ scopes.isDeclared name = false ∧ ∀ t ∈ earlier, ¬ t.Introduces name)

namespace Tracks

variable {scopes scopes' scopes'' : Scopes} {ss ts : List (Statement Form)}

theorem nil : Tracks scopes [] scopes :=
  ⟨by simp, by simp⟩

/-- A statement that introduces nothing leaves the names in scope alone. -/
theorem silent {s : Statement Form} (h : s.introduction? = none) : Tracks scopes [s] scopes := by
  have hsilent : ∀ name, ¬ s.Introduces name := by simp [Introduces, h]
  refine ⟨by simp [hsilent], ?_⟩
  intro earlier t later name form hsplit ht
  have hmem : t ∈ [s] := by simp [hsplit]
  rw [List.mem_singleton.mp hmem, h] at ht
  cases ht

/-- A statement that introduces a name is marked by what is in scope, and brings the name into
scope. -/
theorem single (s : Statement Unit) (scopes : Scopes) :
    Tracks scopes [(mark false s scopes).1] (scopes.introduce s) := by
  constructor
  · intro name
    simp [Scopes.isDeclared_introduce, introduces_mark]
  · intro earlier t later name form hsplit ht
    obtain ⟨rfl, rfl⟩ : earlier = [] ∧ (mark false s scopes).1 = t := by
      cases earlier <;> simp_all
    simpa using eq_declaring_iff ht

theorem append (h : Tracks scopes ss scopes') (h' : Tracks scopes' ts scopes'') :
    Tracks scopes (ss ++ ts) scopes'' := by
  constructor
  · intro name
    rw [h'.known, h.known, or_assoc]
    simp only [List.mem_append, or_and_right, exists_or]
  · intro earlier s later name form hsplit hs
    -- The statement stands in the first list or in the second one.
    rcases append_eq_append_cons hsplit with ⟨mid, hss, -⟩ | ⟨mid, rfl, hts⟩
    · exact h.first earlier s mid name form hss hs
    · -- The statement stands in the second list, with the whole first list before it.
      rw [h'.first mid s later name form hts hs, ← Bool.not_eq_true, h.known]
      simp only [List.mem_append]
      grind

end Tracks

mutual

/-- With one scope a statement and all that is nested in it are marked in depth-first order. -/
theorem tracks_mark : ∀ (s : Statement Unit) (scopes : Scopes), scopes.blockScoped = false →
    Tracks scopes ((mark false s scopes).1 :: unitNested (mark false s scopes).1)
      (mark false s scopes).2
  | .declare m name value dataType id, scopes, _ =>
    Tracks.single (.declare m name value dataType id) scopes
  | .update .., _, _ => .silent rfl
  | .arrayValues m name dataType values id, scopes, _ =>
    Tracks.single (.arrayValues m name dataType values id) scopes
  | .arraySize m name dataType size id, scopes, _ =>
    Tracks.single (.arraySize m name dataType size id) scopes
  | .print .., _, _ => .silent rfl
  | .ifElse _ body orElse _, scopes, h => by
    have hbody := tracks_markAll body scopes h
    have hmid := (blockScoped_markAll body scopes).trans h
    have horElse := tracks_markAll orElse _ hmid
    have hend := (blockScoped_markAll orElse _).trans hmid
    simp only [mark, Scopes.enter_eq_self h, Scopes.leave_eq_self hmid, Scopes.enter_eq_self hmid,
      Scopes.leave_eq_self hend, unitNested]
    exact (Tracks.silent rfl).append (hbody.append horElse)
  | .switch _ cases otherwise _, scopes, h => by
    have hcases := tracks_markCases cases scopes h
    have hmid := (blockScoped_markCases cases scopes).trans h
    have hotherwise := tracks_markAll otherwise _ hmid
    have hend := (blockScoped_markAll otherwise _).trans hmid
    simp only [mark, Bool.false_and, Bool.false_eq_true, if_false, Scopes.enter_eq_self hmid,
      Scopes.leave_eq_self hend, unitNested]
    exact (Tracks.silent rfl).append (hcases.append hotherwise)
  | .forRange _ _ body _, scopes, h => by
    have hbody := tracks_markAll body scopes h
    have hend := (blockScoped_markAll body scopes).trans h
    simp only [mark, Scopes.enter_eq_self h, Scopes.leave_eq_self hend, unitNested]
    exact (Tracks.silent rfl).append hbody
  | .whileLoop _ body _, scopes, h => by
    have hbody := tracks_markAll body scopes h
    have hend := (blockScoped_markAll body scopes).trans h
    simp only [mark, Scopes.enter_eq_self h, Scopes.leave_eq_self hend, unitNested]
    exact (Tracks.silent rfl).append hbody
  | .function .., _, _ => .silent rfl
  | .call .., _, _ => .silent rfl
  | .classDef .., _, _ => .silent rfl
  | .create .., _, _ => .silent rfl
  | .unknown .., _, _ => .silent rfl

/-- So are the statements of a list. -/
theorem tracks_markAll : ∀ (ss : List (Statement Unit)) (scopes : Scopes),
    scopes.blockScoped = false →
      Tracks scopes (unitWalk (markAll false ss scopes).1) (markAll false ss scopes).2
  | [], _, _ => .nil
  | s :: rest, scopes, h =>
    (tracks_mark s scopes h).append
      (tracks_markAll rest _ ((blockScoped_mark s scopes).trans h))

/-- So are the cases of a switch. -/
theorem tracks_markCases : ∀ (cases : List (Text × List (Statement Unit))) (scopes : Scopes),
    scopes.blockScoped = false →
      Tracks scopes (unitWalkCases (markCases false cases scopes).1)
        (markCases false cases scopes).2
  | [], _, _ => .nil
  | (_, body) :: rest, scopes, h => by
    have hbody := tracks_markAll body scopes h
    have hmid := (blockScoped_markAll body scopes).trans h
    have hrest := tracks_markCases rest _ hmid
    simp only [markCases, Scopes.enter_eq_self h, Scopes.leave_eq_self hmid, unitWalkCases]
    exact hbody.append hrest

end

/-! ## A scope for every block -/

mutual

/-- With a scope for every block a statement leaves nothing in scope but the name that it introduces
itself. -/
theorem snd_mark : ∀ (s : Statement Unit) (scopes : Scopes), scopes.blockScoped = true →
    (mark false s scopes).2 = scopes.introduce s
  | .declare .., _, _ => rfl
  | .update .., _, _ => rfl
  | .arrayValues .., _, _ => rfl
  | .arraySize .., _, _ => rfl
  | .print .., _, _ => rfl
  | .ifElse _ body orElse _, scopes, h => by
    simp only [mark, leave_markAll body scopes h, leave_markAll orElse scopes h]
    rfl
  | .switch _ cases otherwise _, scopes, h => by
    simp only [mark, Bool.false_and, Bool.false_eq_true, if_false, snd_markCases cases scopes h,
      leave_markAll otherwise scopes h]
    rfl
  | .forRange _ _ body _, scopes, h => leave_markAll body scopes h
  | .whileLoop _ body _, scopes, h => leave_markAll body scopes h
  | .function .., _, _ => rfl
  | .call .., _, _ => rfl
  | .classDef .., _, _ => rfl
  | .create .., _, _ => rfl
  | .unknown .., _, _ => rfl

/-- The statements of a block leave the scopes around it alone. -/
theorem enclosing_markAll : ∀ (ss : List (Statement Unit)) (scopes : Scopes),
    scopes.blockScoped = true → (markAll false ss scopes).2.enclosing = scopes.enclosing
  | [], _, _ => rfl
  | s :: rest, scopes, h => by
    have hrest := enclosing_markAll rest _ ((blockScoped_mark s scopes).trans h)
    rw [markAll, hrest, snd_mark s scopes h, Scopes.enclosing_introduce]

/-- After a block the same names are in scope as before it. -/
theorem leave_markAll : ∀ (ss : List (Statement Unit)) (scopes : Scopes),
    scopes.blockScoped = true → (markAll false ss scopes.enter).2.leave = scopes
  | ss, scopes, h => by
    have henter : scopes.enter.blockScoped = true := by simpa using h
    exact Scopes.leave_eq h ((blockScoped_markAll ss _).trans henter)
      (enclosing_markAll ss _ henter)

/-- After the cases of a switch, too. -/
theorem snd_markCases : ∀ (cases : List (Text × List (Statement Unit))) (scopes : Scopes),
    scopes.blockScoped = true → (markCases false cases scopes).2 = scopes
  | [], _, _ => rfl
  | (_, body) :: rest, scopes, h => by
    simp only [markCases, leave_markAll body scopes h]
    exact snd_markCases rest scopes h

end

/-- With a scope for every block the bodies of all cases are marked with the same names in scope. -/
theorem exists_of_mem_markCases {scopes : Scopes} (h : scopes.blockScoped = true)
    {cases : List (Text × List (Statement Unit))} {body : List (Statement Form)}
    (hbody : body ∈ (markCases false cases scopes).1.map (·.2)) :
    ∃ ss, body = (markAll false ss scopes.enter).1 := by
  induction cases with
  | nil => simp [markCases] at hbody
  | cons case rest ih =>
    simp only [markCases, leave_markAll case.2 scopes h, List.map_cons, List.mem_cons] at hbody
    rcases hbody with rfl | hbody
    · exact ⟨case.2, rfl⟩
    · exact ih hbody

/-- With a scope for every block all blocks of a statement are marked with the same names in
scope. -/
theorem exists_of_mem_blocks_mark {s : Statement Unit} {scopes : Scopes}
    (h : scopes.blockScoped = true) {body : List (Statement Form)}
    (hbody : body ∈ (mark false s scopes).1.blocks) :
    ∃ ss, body = (markAll false ss scopes.enter).1 := by
  -- Every block is marked after the ones before it were left, so from the same scopes.
  cases s with
  | ifElse condition whenTrue orElse id =>
    simp only [mark, blocks, leave_markAll whenTrue scopes h, List.mem_cons, List.not_mem_nil,
      or_false] at hbody
    rcases hbody with rfl | rfl
    · exact ⟨whenTrue, rfl⟩
    · exact ⟨orElse, rfl⟩
  | switch subject cases otherwise id =>
    simp only [mark, Bool.false_and, Bool.false_eq_true, if_false, blocks,
      snd_markCases cases scopes h, List.mem_append, List.mem_singleton] at hbody
    rcases hbody with hbody | rfl
    · exact exists_of_mem_markCases h hbody
    · exact ⟨otherwise, rfl⟩
  | forRange var bound loop id => exact ⟨loop, List.mem_singleton.mp hbody⟩
  | whileLoop condition loop id => exact ⟨loop, List.mem_singleton.mp hbody⟩
  | _ => simp [mark, blocks] at hbody

/-- At a point of a unit exactly the names are in scope that are introduced by the statements seen
from there. -/
theorem Point.exists_scopes {ss : List (Statement Unit)} {start : Scopes}
    (hscoped : start.blockScoped = true) (hnew : ∀ name, start.isDeclared name = false)
    {earlier seen rest : List (Statement Form)}
    (h : Point (markAll false ss start).1 earlier seen rest) :
    ∃ ts scopes, rest = (markAll false ts scopes).1 ∧ scopes.blockScoped = true ∧
      ∀ name, scopes.isDeclared name = true ↔ ∃ t ∈ seen, t.Introduces name := by
  induction h with
  | start => exact ⟨ss, start, rfl, hscoped, by simp [hnew]⟩
  | next _ ih =>
    obtain ⟨ts, scopes, hrest, hscopes, hknown⟩ := ih
    -- The rest of a list that goes on has a first statement, and its name is now in scope.
    cases ts with
    | nil => simp [markAll] at hrest
    | cons t ts =>
      obtain ⟨rfl, rfl⟩ := List.cons.inj hrest
      refine ⟨ts, _, rfl, (blockScoped_mark t scopes).trans hscopes, ?_⟩
      intro name
      rw [snd_mark t scopes hscopes, Scopes.isDeclared_introduce, hknown,
        ← introduces_mark t scopes]
      simp [or_comm]
  | @enter _ _ _ body s _ _ _ hblocks ih =>
    obtain ⟨ts, scopes, hrest, hscopes, hknown⟩ := ih
    have hbody : body ∈ s.blocks := by rw [hblocks]; simp
    -- The list at the point starts with the statement whose block is entered.
    cases ts with
    | nil => simp [markAll] at hrest
    | cons t ts =>
      obtain ⟨rfl, rfl⟩ := List.cons.inj hrest
      obtain ⟨inner, rfl⟩ := exists_of_mem_blocks_mark hscopes hbody
      exact ⟨inner, scopes.enter, rfl, by simpa using hscopes, by simpa using hknown⟩

/-! ## Units of a marked program -/

/-- A unit that was marked with nothing in scope at its start. -/
def MarkedUnit (blockScoped : Bool) (unit : List (Statement Form)) : Prop :=
  ∃ ss scopes, unit = (markAll false ss scopes).1 ∧ scopes.blockScoped = blockScoped ∧
    ∀ name, scopes.isDeclared name = false

/-- An entry of a program or a class that is no function is a unit of its own. -/
theorem markedUnit_of_mem_entryUnits {blockScoped : Bool} {ss : List (Statement Unit)}
    {unit : List (Statement Form)} (h : unit ∈ entryUnits (markEach false blockScoped ss)) :
    MarkedUnit blockScoped unit := by
  obtain ⟨t, ht, rfl⟩ := List.mem_map.mp h
  have hmem := List.mem_of_mem_filter ht
  rw [markEach_eq_map] at hmem
  obtain ⟨s, -, rfl⟩ := List.mem_map.mp hmem
  exact ⟨[s], Scopes.new blockScoped, rfl, rfl, by simp⟩

/-- The units that a marked definition opens start with nothing in scope. -/
theorem markedUnit_of_mem_units_mark {s : Statement Unit} {scopes : Scopes}
    {unit : List (Statement Form)} (h : unit ∈ (mark false s scopes).1.units) :
    MarkedUnit scopes.blockScoped unit := by
  cases s with
  | function name params body id =>
    obtain rfl := List.mem_singleton.mp h
    exact ⟨body, _, rfl, by simp, by simp⟩
  | classDef name base members id => exact markedUnit_of_mem_entryUnits h
  | _ => simp [mark, units] at h

/-- All units opened by some statements start with nothing in scope. -/
def OpensMarked (blockScoped : Bool) (ss : List (Statement Form)) : Prop :=
  ∀ s ∈ ss, ∀ unit ∈ s.units, MarkedUnit blockScoped unit

/-- Two lists of statements whose units start with nothing in scope. -/
theorem OpensMarked.append {blockScoped : Bool} {ss ts : List (Statement Form)}
    (h : OpensMarked blockScoped ss) (h' : OpensMarked blockScoped ts) :
    OpensMarked blockScoped (ss ++ ts) := by
  intro s hs
  rcases List.mem_append.mp hs with hs | hs
  · exact h s hs
  · exact h' s hs

/-- Nothing is in scope in the units of a statement, if this is true of what is nested in it. -/
theorem opensMarked_walk (s : Statement Unit) (scopes : Scopes)
    (h : OpensMarked scopes.blockScoped (nested (mark false s scopes).1)) :
    OpensMarked scopes.blockScoped (mark false s scopes).1.walk := by
  intro t ht
  rcases List.mem_cons.mp ht with rfl | ht
  · exact fun unit hunit => markedUnit_of_mem_units_mark hunit
  · exact h t ht

mutual

/-- Nothing is in scope at the start of the units that are nested in a statement. -/
theorem opensMarked_nested : ∀ (s : Statement Unit) (scopes : Scopes),
    OpensMarked scopes.blockScoped (nested (mark false s scopes).1)
  | .ifElse _ body orElse _, scopes => by
    have hbody := opensMarked_markAll body scopes.enter
    have horElse := opensMarked_markAll orElse (markAll false body scopes.enter).2.leave.enter
    simp only [Scopes.blockScoped_enter, Scopes.blockScoped_leave, blockScoped_markAll] at *
    exact hbody.append horElse
  | .switch _ cases otherwise _, scopes => by
    have hcases := opensMarked_markCases cases scopes
    have hotherwise := opensMarked_markAll otherwise (markCases false cases scopes).2.enter
    simp only [Scopes.blockScoped_enter, blockScoped_markCases] at *
    exact hcases.append hotherwise
  | .forRange _ _ body _, scopes => by
    simpa [mark, nested] using opensMarked_markAll body scopes.enter
  | .whileLoop _ body _, scopes => by
    simpa [mark, nested] using opensMarked_markAll body scopes.enter
  | .function _ _ body _, scopes => by
    simpa [mark, nested] using opensMarked_markAll body (Scopes.new scopes.blockScoped).enter
  | .classDef _ _ members _, scopes => opensMarked_markEach members scopes.blockScoped
  | .declare .., _ => by simp [OpensMarked, mark, nested]
  | .update .., _ => by simp [OpensMarked, mark, nested]
  | .arrayValues .., _ => by simp [OpensMarked, mark, nested]
  | .arraySize .., _ => by simp [OpensMarked, mark, nested]
  | .print .., _ => by simp [OpensMarked, mark, nested]
  | .call .., _ => by simp [OpensMarked, mark, nested]
  | .create .., _ => by simp [OpensMarked, mark, nested]
  | .unknown .., _ => by simp [OpensMarked, mark, nested]

/-- The same holds for the units in a list of statements. -/
theorem opensMarked_markAll : ∀ (ss : List (Statement Unit)) (scopes : Scopes),
    OpensMarked scopes.blockScoped (walkAll (markAll false ss scopes).1)
  | [], _ => by simp [OpensMarked, markAll, walkAll]
  | s :: rest, scopes => by
    have hrest := opensMarked_markAll rest (mark false s scopes).2
    rw [blockScoped_mark] at hrest
    exact (opensMarked_walk s scopes (opensMarked_nested s scopes)).append hrest

/-- It holds for the units in the cases of a switch. -/
theorem opensMarked_markCases : ∀ (cases : List (Text × List (Statement Unit)))
    (scopes : Scopes), OpensMarked scopes.blockScoped (walkCases (markCases false cases scopes).1)
  | [], _ => by simp [OpensMarked, markCases, walkCases]
  | (_, body) :: rest, scopes => by
    have hbody := opensMarked_markAll body scopes.enter
    have hrest := opensMarked_markCases rest (markAll false body scopes.enter).2.leave
    simp only [Scopes.blockScoped_enter, Scopes.blockScoped_leave, blockScoped_markAll] at *
    exact hbody.append hrest

/-- And it holds for those in statements that are marked in scopes of their own. -/
theorem opensMarked_markEach : ∀ (ss : List (Statement Unit)) (blockScoped : Bool),
    OpensMarked blockScoped (walkAll (markEach false blockScoped ss))
  | [], _ => by simp [OpensMarked, markEach, walkAll]
  | s :: rest, blockScoped =>
    have hs := opensMarked_walk s (Scopes.new blockScoped)
      (opensMarked_nested s (Scopes.new blockScoped))
    hs.append (opensMarked_markEach rest blockScoped)

end

end Statement

/-- Every unit of a marked program starts with nothing in scope. -/
theorem Program.markedUnit_of_mem_units {blockScoped : Bool} {p : Program Unit}
    {unit : List (Statement Form)} (h : unit ∈ (p.mark false blockScoped).units) :
    Statement.MarkedUnit blockScoped unit := by
  have hbody : (Scopes.new blockScoped).enter.blockScoped = blockScoped := by simp
  have hwalk : Statement.OpensMarked blockScoped (p.mark false blockScoped).walk := by
    have hmain := Statement.opensMarked_markAll p.body (Scopes.new blockScoped).enter
    rw [hbody] at hmain
    simp only [Program.walk, Program.mark, Statement.walkAll_append]
    exact ((Statement.opensMarked_markEach p.classes blockScoped).append
      (Statement.opensMarked_markEach p.functions blockScoped)).append hmain
  -- The unit is the main body, an entry of its own, or opened by a statement.
  rcases List.mem_append.mp h with h | h
  · rcases List.mem_cons.mp h with rfl | h
    · exact ⟨p.body, _, rfl, hbody, by simp⟩
    · rw [Program.mark, Statement.entryUnits, List.filter_append, List.map_append] at h
      rcases List.mem_append.mp h with h | h
      · exact Statement.markedUnit_of_mem_entryUnits h
      · exact Statement.markedUnit_of_mem_entryUnits h
  · obtain ⟨s, hs, hunit⟩ := List.mem_flatMap.mp h
    exact hwalk s hs unit hunit

/-! ## Declaring and assigning lines -/

namespace Statement

/-- The mark of a statement that stands in a unit at a point. -/
theorem MarkedUnit.eq_declaring_iff {blockScoped : Bool}
    {unit earlier seen rest : List (Statement Form)} {s : Statement Form} {name : Text}
    {form : Form} (hunit : MarkedUnit blockScoped unit)
    (hpoint : Point unit earlier seen (s :: rest)) (hs : s.introduction? = some (name, form)) :
    form = .declaring ↔ ∀ t ∈ (if blockScoped then seen else earlier), ¬ t.Introduces name := by
  obtain ⟨ss, start, rfl, hscoped, hnew⟩ := hunit
  -- One scope asks for all statements before, and a scope per block for those that are seen.
  cases blockScoped with
  | false =>
    obtain ⟨later, hwalk⟩ := hpoint.unitWalk_eq
    have hfirst := (tracks_markAll ss start hscoped).first earlier s
      (unitNested s ++ unitWalk rest ++ later) name form (by simpa [unitWalk] using hwalk) hs
    simpa [hnew] using hfirst
  | true =>
    obtain ⟨ts, scopes, hrest, hscopes, hknown⟩ := hpoint.exists_scopes hscoped hnew
    cases ts with
    | nil => simp [markAll] at hrest
    | cons t ts =>
      obtain ⟨rfl, rfl⟩ := List.cons.inj hrest
      rw [Statement.eq_declaring_iff hs, ← Bool.not_eq_true, hknown]
      simp

end Statement

end BlockFlow
