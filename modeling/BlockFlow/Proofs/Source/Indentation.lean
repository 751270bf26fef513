import Mathlib.Data.List.Chain
import BlockFlow.Proofs.Source.Clauses
import BlockFlow.Proofs.Source.Unmarking
import BlockFlow.Source.Rendering

/-!
# Indentation in Python

In Python the indentation of the lines is all that tells where a block ends. Lines are well nested
when each one that opens a block has a deeper line right below it, and no other has
(`Line.WellNested`). Together with the order of clauses this makes up the layout of statements
(`Laid`), which is shown of all lines but the blank ones between definitions.
-/

namespace BlockFlow

namespace Line

/-! ## Nesting -/

/-- The lines that are not blank. -/
def nonblank (ls : List Line) : List Line :=
  ls.filter (!·.text.isEmpty)

theorem nonblank_append (xs ys : List Line) : nonblank (xs ++ ys) = nonblank xs ++ nonblank ys :=
  List.filter_append xs ys

/-- Whether the levels of two lines fit together when the second stands right below the first. -/
def Fits (upper lower : Line) : Prop :=
  if upper.opens then lower.level = upper.level + 1 else lower.level ≤ upper.level

/-- Moving two lines by the same number of levels makes no difference. -/
theorem fits_deeper {upper lower : Line} (levels : Nat) :
    Fits (upper.deeper levels) (lower.deeper levels) ↔ Fits upper lower := by
  have hopens : (upper.deeper levels).opens = upper.opens := rfl
  have hupper : (upper.deeper levels).level = upper.level + levels := rfl
  have hlower : (lower.deeper levels).level = lower.level + levels := rfl
  unfold Fits
  rw [hopens, hupper, hlower]
  split <;> omega

/-- Lines without blanks that form complete blocks at the outermost level. -/
structure WellNested (ls : List Line) : Prop where
  starts : ∀ line ∈ ls.head?, line.level = 0
  ends : ∀ line ∈ ls.getLast?, line.opens = false
  chain : ls.IsChain Fits
  filled : ∀ line ∈ ls, line.text ≠ []

namespace WellNested

theorem nil : WellNested [] where
  starts := by simp
  ends := by simp
  chain := .nil
  filled := by simp

theorem append {xs ys : List Line} (hx : WellNested xs) (hy : WellNested ys) :
    WellNested (xs ++ ys) where
  starts line h := by
    rw [List.head?_append, Option.mem_def, Option.or_eq_some_iff] at h
    rcases h with h | ⟨-, h⟩
    · exact hx.starts line h
    · exact hy.starts line h
  ends line h := by
    rw [List.getLast?_append, Option.mem_def, Option.or_eq_some_iff] at h
    rcases h with h | ⟨-, h⟩
    · exact hy.ends line h
    · exact hx.ends line h
  chain := by
    refine List.isChain_append.mpr ⟨hx.chain, hy.chain, fun upper hupper lower hlower => ?_⟩
    simp [Fits, hx.ends upper hupper, hy.starts lower hlower]
  filled line h := (List.mem_append.mp h).elim (hx.filled line) (hy.filled line)

/-- Lines that open no block, next to each other. -/
theorem of_flat {ls : List Line}
    (h : ∀ line ∈ ls, line.level = 0 ∧ line.opens = false ∧ line.text ≠ []) : WellNested ls where
  starts line hline := (h line (List.mem_of_mem_head? hline)).1
  ends line hline := (h line (List.mem_of_getLast? hline)).2.1
  chain := by
    apply List.Pairwise.isChain
    refine List.pairwise_of_forall_mem_list fun upper hupper lower hlower => ?_
    simp [Fits, h upper hupper, h lower hlower]
  filled line hline := (h line hline).2.2

/-- A line that opens a block, and the block. -/
theorem clause {head : Line} {body : List Line} (hbody : WellNested body) (hne : body ≠ [])
    (hlevel : head.level = 0) (hopens : head.opens = true) (htext : head.text ≠ []) :
    WellNested (head :: indent body) where
  starts line h := by
    obtain rfl : head = line := by simpa using h
    exact hlevel
  ends line h := by
    obtain ⟨last, hlast⟩ := Option.ne_none_iff_exists'.mp (List.getLast?_eq_none_iff.not.mpr hne)
    obtain rfl : last.deeper 1 = line := by
      simpa [indent_eq_shift, shift, List.getLast?_cons, List.getLast?_map, hlast] using h
    exact hbody.ends last hlast
  chain := by
    rw [indent_eq_shift, shift, List.isChain_cons, List.isChain_map, List.head?_map]
    constructor
    · intro line h
      obtain ⟨first, hfirst, rfl⟩ := Option.map_eq_some_iff.mp h
      have hfirst := hbody.starts first hfirst
      simp [Fits, deeper, hopens, hlevel, hfirst]
    · exact hbody.chain.imp fun _ _ h => (fits_deeper 1).mpr h
  filled line h := by
    -- The line opens the block or stands in it.
    rcases List.mem_cons.mp h with rfl | h
    · exact htext
    · obtain ⟨inner, hinner, rfl⟩ := List.mem_map.mp h
      exact hbody.filled inner hinner

/-- Well nested lines have no blank ones among them. -/
theorem nonblank_eq {ls : List Line} (h : WellNested ls) : nonblank ls = ls := by
  apply List.filter_eq_self.mpr
  intro line hline
  simpa using h.filled line hline

end WellNested

end Line

namespace Python

open Line (plain header blank indent opens nonblank nonblank_append WellNested)
open Statement (nested walkAll walkCases)

/-! ## Laying out statements -/

/-- Lines with the nesting and the clauses of some statements. -/
structure Laid (ss : List (Statement Form)) (ls : List Line) : Prop extends WellNested ls where
  continued : Continued ss ls

namespace Laid

variable {ss ts : List (Statement Form)} {xs ys : List Line}

/-- The layout of statements is one of more statements as well. -/
theorem mono (h : Laid ss xs) (hsub : ss ⊆ ts) : Laid ts xs :=
  ⟨h.toWellNested, h.continued.mono hsub⟩

theorem append (hx : Laid ss xs) (hy : Laid ss ys) : Laid ss (xs ++ ys) :=
  ⟨hx.toWellNested.append hy.toWellNested, hx.continued.append hy.continued⟩

/-- Lines that open no block are laid out, whatever the statements. -/
theorem of_flat (h : ∀ line ∈ xs, line.level = 0 ∧ line.opens = false ∧ line.text ≠ []) :
    Laid ss xs := by
  refine ⟨.of_flat h, .of_forall fun line hline hrole => ?_⟩
  have hopens := (h line hline).2.1
  simp [opens, hrole] at hopens

/-- In particular, a plain line is. -/
theorem plain {text : Text} (h : text ≠ []) : Laid ss [plain text] :=
  of_flat (by simpa [Line.plain, opens] using h)

/-- So is an assignment with the increments below it. -/
theorem assignment (name value tag : Text) : Laid ss (assignment name value tag) := by
  obtain ⟨text, more, hlines, hfilled⟩ := exists_assignment name value tag
  apply of_flat
  rw [hlines]
  intro line hline
  obtain ⟨t, ht, rfl⟩ := List.mem_map.mp hline
  exact ⟨rfl, rfl, hfilled t ht⟩

end Laid

/-- What a clause needs to be laid out. -/
structure Clause.Laid (ss : List (Statement Form)) (c : Clause) : Prop where
  filled : c.text ≠ []
  nonempty : c.body ≠ []
  body : Python.Laid ss c.body

namespace Clause.Laid

variable {ss : List (Statement Form)}

/-- A block without statements is not empty either. -/
theorem of {continues : Bool} {text : Text} {body : List (Statement Form)} {ls : List Line}
    (htext : text ≠ []) (hls : Python.Laid ss ls) (hne : body ≠ [] → ls ≠ []) :
    Clause.Laid ss (.of continues text body ls) := by
  -- A block without statements holds a line that does nothing.
  cases body with
  | nil => exact ⟨htext, by simp [Clause.of], .plain (by simp)⟩
  | cons s rest => exact ⟨htext, hne (by simp), hls⟩

/-- The lines of a clause are a complete block. -/
theorem wellNested {c : Clause} (h : c.Laid ss) : WellNested c.lines :=
  h.body.toWellNested.clause h.nonempty c.level_head c.opens_head (by simpa using h.filled)

/-- A single clause that continues nothing. -/
theorem laid {c : Clause} (h : c.Laid ss) (hfirst : c.continues = false) :
    Python.Laid ss c.lines := by
  refine ⟨h.wellNested, ?_⟩
  have hhead : Continued ss [c.head] := .of_forall (by simp [role_head hfirst])
  exact hhead.append h.body.continued.indent

/-- The clause that is taken when no other is. -/
theorem of_mem_elseClauses {body : List (Statement Form)} {c : Clause}
    (hbody : Python.Laid ss (linesAll body)) (hc : c ∈ elseClauses body) : c.Laid ss := by
  unfold elseClauses at hc
  split at hc
  · simp at hc
  · obtain rfl := List.mem_singleton.mp hc
    exact .of (by simp) hbody (linesAll_ne_nil body)

end Clause.Laid

/-- A compound statement is laid out if its clauses are. -/
theorem laid_of_clauses {s : Statement Form} (hne : clauses s ≠ [])
    (hfirst : ∀ c ∈ (clauses s).head?, c.continues = false)
    (hclauses : ∀ c ∈ clauses s, c.Laid (nested s)) : Laid s.walk (lines s) := by
  rw [lines_eq_flatMap hne]
  constructor
  · generalize clauses s = cs at hclauses
    induction cs with
    | nil => exact .nil
    | cons c cs ih =>
      rw [List.flatMap_cons]
      exact (hclauses c List.mem_cons_self).wellNested.append
        (ih fun c hc => hclauses c (List.mem_cons_of_mem _ hc))
  · apply Continued.clauses List.mem_cons_self hfirst
    exact fun c hc => (hclauses c hc).body.continued.mono (List.subset_cons_self s (nested s))

/-- A statement with a single clause is laid out if the clause is. -/
theorem laid_of_clause {s : Statement Form} {c : Clause} (h : clauses s = [c])
    (hfirst : c.continues = false) (hc : c.Laid (nested s)) : Laid s.walk (lines s) := by
  apply laid_of_clauses
  · simp [h]
  · simpa [h] using hfirst
  · simpa [h] using hc

/-- The header of a function or method is not empty. -/
theorem text_methodHeader_ne_nil (isMember : Bool) (name : Text) (params : List Param) :
    (methodHeader isMember name params).text ≠ [] := by
  simp [methodHeader, header]

mutual

/-- The lines of a statement are laid out. -/
theorem laid_lines : ∀ s : Statement Form, Laid s.walk (lines s)
  | .declare _ name value dataType _ => .assignment name value dataType
  | .update name value _ => .assignment name value ""
  | .arrayValues .. => .plain (by simp)
  | .arraySize .. => .plain (by simp)
  | .print .. => .plain (by simp)
  | .call .. => .plain (by simp)
  | .create .. => .plain (by simp)
  | .unknown .. => .of_flat (by simp [lines, placeholder, opens])
  | .ifElse condition body orElse id => by
    have hbody := (laid_linesAll body).mono (List.subset_append_left _ (walkAll orElse))
    have horElse := (laid_linesAll orElse).mono (List.subset_append_right (walkAll body) _)
    apply laid_of_clauses
    · simp [clauses]
    · simp [clauses, Clause.of]
    · intro c hc
      -- The clause is the first one or the one for all other cases.
      rcases List.mem_cons.mp hc with rfl | hc
      · exact .of (by simp) hbody (linesAll_ne_nil body)
      · exact .of_mem_elseClauses horElse hc
  | .switch _ [] [] _ => .plain (by simp)
  | .switch _ [] (s :: rest) _ => (laid_linesAll (s :: rest)).mono (List.subset_cons_self _ _)
  | .switch subject ((value, body) :: rest) otherwise id => by
    have hcases := fun case hcase => (laid_cases ((value, body) :: rest) case hcase).mono
      (List.subset_append_left _ (walkAll otherwise))
    have hotherwise := (laid_linesAll otherwise).mono
      (List.subset_append_right (walkCases ((value, body) :: rest)) _)
    apply laid_of_clauses
    · simp [clauses]
    · simp [clauses, Clause.of]
    · intro c hc
      -- The clause is that of a case, the first or a later one, or the default.
      rcases List.mem_append.mp hc with hc | hc
      · rcases List.mem_cons.mp hc with rfl | hc
        · exact .of (by simp) (hcases _ List.mem_cons_self) (linesAll_ne_nil body)
        · obtain ⟨case, hcase, rfl⟩ := List.mem_map.mp hc
          exact .of (by simp) (hcases case (List.mem_cons_of_mem _ hcase)) (linesAll_ne_nil case.2)
      · exact .of_mem_elseClauses hotherwise hc
  | .forRange _ _ body _ =>
    laid_of_clause rfl rfl (.of (by simp) (laid_linesAll body) (linesAll_ne_nil body))
  | .whileLoop _ body _ =>
    laid_of_clause rfl rfl (.of (by simp) (laid_linesAll body) (linesAll_ne_nil body))
  | .function name params body _ =>
    laid_of_clause rfl rfl (.of (text_methodHeader_ne_nil false name params) (laid_linesAll body)
      (linesAll_ne_nil body))
  | .classDef _ _ members _ =>
    laid_of_clause rfl rfl (.of (by simp) (laid_linesMembers members) linesMembers_ne_nil)

/-- The lines of a list of statements are laid out. -/
theorem laid_linesAll : ∀ ss : List (Statement Form), Laid (walkAll ss) (linesAll ss)
  | [] => .of_flat (by simp [linesAll])
  | s :: rest => by
    have hfirst := (laid_lines s).mono (List.subset_append_left s.walk (walkAll rest))
    have hrest := (laid_linesAll rest).mono (List.subset_append_right s.walk (walkAll rest))
    exact hfirst.append hrest

/-- So are the lines of each case of a switch. -/
theorem laid_cases : ∀ cases : List (Text × List (Statement Form)), ∀ case ∈ cases,
    Laid (walkCases cases) (linesAll case.2)
  | (value, body) :: rest, case, h => by
    rcases List.mem_cons.mp h with rfl | h
    · exact (laid_linesAll body).mono (List.subset_append_left _ _)
    · exact (laid_cases rest case h).mono (List.subset_append_right _ _)

/-- So are the lines of the members of a class. -/
theorem laid_linesMembers : ∀ ss : List (Statement Form), Laid (walkAll ss) (linesMembers ss)
  | [] => .of_flat (by simp [linesMembers])
  | s :: rest => by
    have hsub : s.walk ++ walkAll rest ⊆ walkAll (s :: rest) := by simp [walkAll, Statement.walk]
    obtain ⟨hfirst, hrest⟩ := List.append_subset.mp hsub
    have hmembers := (laid_linesMembers rest).mono hrest
    -- A method has a header of its own.
    cases s with
    | function name params body id =>
      have hbody := (laid_linesAll body).mono (List.Subset.trans (List.subset_cons_self _ _) hfirst)
      have hmethod : Clause.Laid _ (.of false (methodHeader true name params).text body _) :=
        .of (text_methodHeader_ne_nil true name params) hbody (linesAll_ne_nil body)
      exact (hmethod.laid rfl).append hmembers
    | _ => exact ((laid_lines _).mono hfirst).append hmembers

end

/-! ## Programs -/

/-- The clause of the main function. -/
def mainClause (body : List (Statement Form)) : Clause :=
  .of false "def main():" body (linesAll body)

/-- The clause that calls the main function. -/
def guardClause : Clause :=
  ⟨false, "if __name__ == \"__main__\":", [plain "main()"]⟩

/-- The main function is laid out. -/
theorem laid_mainClause (body : List (Statement Form)) : (mainClause body).Laid (walkAll body) :=
  .of (by simp) (laid_linesAll body) (linesAll_ne_nil body)

/-- So is the block that calls it. -/
theorem laid_guardClause (ss : List (Statement Form)) : guardClause.Laid ss :=
  ⟨by simp [guardClause], by simp [guardClause], .plain (by simp)⟩

/-- The lines of a program that are not blank. -/
theorem nonblank_programLines (q : Program Form) :
    nonblank (programLines q) =
      linesAll (q.classes ++ q.functions) ++ (mainClause q.body).lines ++ guardClause.lines := by
  have hblank : nonblank [blank, blank] = [] := rfl
  have hentries : nonblank ((q.classes ++ q.functions).flatMap fun s => lines s ++ [blank, blank]) =
      linesAll (q.classes ++ q.functions) := by
    rw [linesAll_eq_flatMap]
    generalize q.classes ++ q.functions = ss
    induction ss with
    | nil => rfl
    | cons s rest ih =>
      rw [List.flatMap_cons, List.flatMap_cons, nonblank_append, nonblank_append, ih, hblank,
        (laid_lines s).nonblank_eq, List.append_nil]
  have hmain := (laid_mainClause q.body).wellNested.nonblank_eq
  have hlines : header "def main():" :: suite q.body (linesAll q.body) =
      (mainClause q.body).lines := rfl
  rw [programLines, nonblank_append, nonblank_append, nonblank_append, hentries, hlines, hmain,
    hblank, List.append_nil]
  rfl

/-- The lines of a program that are not blank are laid out. -/
theorem laid_programLines (q : Program Form) : Laid q.walk (nonblank (programLines q)) := by
  have hentries : Laid q.walk (linesAll (q.classes ++ q.functions)) :=
    (laid_linesAll _).mono (by simp [Program.walk])
  have hmain : Laid q.walk (mainClause q.body).lines :=
    ((laid_mainClause q.body).laid rfl).mono (by simp [Program.walk])
  rw [nonblank_programLines]
  exact (hentries.append hmain).append ((laid_guardClause q.walk).laid rfl)

/-- A program opens one block for each clause of its statements, one for the main function and one
to call it. -/
theorem countP_programLines (continues : Bool) (q : Program Form) :
    (nonblank (programLines q)).countP (opensAs continues) =
      clauseCount continues q.walk + if continues then 0 else 2 := by
  have hmain : (mainClause q.body).lines.countP (opensAs continues) =
      (linesAll q.body).countP (opensAs continues) + if continues then 0 else 1 := by
    rw [Clause.lines, List.countP_cons, countP_indent, mainClause, countP_body_of_linesAll]
    cases continues <;> rfl
  have hguard : guardClause.lines.countP (opensAs continues) = if continues then 0 else 1 := by
    cases continues <;> rfl
  rw [nonblank_programLines, List.countP_append, List.countP_append, hmain, hguard, countP_linesAll,
    countP_linesAll, Program.walk, Statement.walkAll_append _ q.body, clauseCount_append]
  split <;> omega

/-- Lines whose indentation tells the blocks of some statements. -/
structure WellIndented (ss : List (Statement Form)) (ls : List Line) : Prop where
  /-- The first line stands at the outermost level. -/
  starts : ∀ line ∈ ls.head?, line.level = 0
  /-- A line that opens a block has a line of the block right below it. -/
  opened : ∀ before line after, ls = before ++ line :: after → line.opens = true →
    ∃ next rest, after = next :: rest ∧ next.level = line.level + 1
  /-- The level rises below a line that opens a block only, and by one. -/
  rises : ∀ before upper lower after, ls = before ++ upper :: lower :: after →
    upper.level < lower.level → upper.opens = true ∧ lower.level = upper.level + 1
  /-- A line that continues a statement stands below the clause before it, which has a condition. -/
  continued : ∀ before line after, ls = before ++ line :: after → line.role = .branch →
    ∃ s ∈ ss, ∃ above opener block, before = above ++ opener :: block ∧
      Adjoins s above opener block line after ∧ IsTest opener ∧ opener.level = line.level ∧
      ∀ inner ∈ block, line.level < inner.level

/-- Lines that are laid out are well indented. -/
theorem Laid.wellIndented {ss : List (Statement Form)} {ls : List Line} (h : Laid ss ls) :
    WellIndented ss ls where
  starts := h.starts
  opened before line after hls hopens := by
    -- The last line opens no block, so there is a line below.
    cases after with
    | nil =>
      have hends := h.ends line (by simp [hls])
      simp [hends] at hopens
    | cons next rest =>
      have hchain := h.chain
      rw [hls, List.isChain_append_cons_cons] at hchain
      exact ⟨next, rest, rfl, by simpa [Line.Fits, hopens] using hchain.2.1⟩
  rises before upper lower after hls hlt := by
    have hchain := h.chain
    rw [hls, List.isChain_append_cons_cons] at hchain
    have hfits := hchain.2.1
    unfold Line.Fits at hfits
    split at hfits
    · exact ⟨by assumption, hfits⟩
    · omega
  continued before line after hls hrole := by
    obtain ⟨s, hs, above, opener, block, hbefore, hadjoins⟩ :=
      h.continued before line after hls hrole
    exact ⟨s, hs, above, opener, block, hbefore, hadjoins, hadjoins.isTest, hadjoins.level_eq,
      hadjoins.level_lt⟩

end Python

/-- In Python every program is written from its marked form in lines that are well indented, with a
block for each clause, for the main function and for the line that calls it. -/
theorem Program.wellIndented_lines (blockScoped : Bool) (p : Program Unit) :
    (p.mark true blockScoped).unmark = p ∧
      Python.WellIndented (p.mark true blockScoped).walk
        (Line.nonblank (p.lines .python blockScoped)) ∧
      ∀ continues, (Line.nonblank (p.lines .python blockScoped)).countP (Python.opensAs continues) =
        Python.clauseCount continues (p.mark true blockScoped).walk + if continues then 0 else 2 :=
  ⟨p.unmark_mark true blockScoped, (Python.laid_programLines _).wellIndented,
    fun continues => Python.countP_programLines continues _⟩

end BlockFlow
