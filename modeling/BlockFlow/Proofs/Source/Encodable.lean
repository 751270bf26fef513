import BlockFlow.Proofs.Source.Balance
import BlockFlow.Proofs.Text.Encodable

/-!
# Source code that can be encoded

The source code of a program is made of fixed words and of the texts of its statements, which are
cut, quoted, put in lower case or spelled anew on the way. None of this brings in a surrogate, so
source code can be written to a file if the texts of its statements can
(`Program.encodable_source`).
-/

namespace BlockFlow

open Text (Encodable encodable_joined encodable_flatMap)

/-! ## Values in brace languages -/

namespace Braces.Dialect

variable (d : Dialect) {name value tag : Text}

/-- The type for a tag holds no surrogates if the tag does not. -/
theorem encodable_typeOf (h : tag.Encodable) : (d.typeOf tag).Encodable := by
  simp only [typeOf]
  -- A type is inferred, built in, or taken over as it stands.
  split
  · exact Text.encodable_ofString _
  · split
    · exact Text.encodable_ofString _
    · exact h.trim

/-- Nor does the type of the elements of an array. -/
theorem encodable_elementType (h : tag.Encodable) : (d.elementType tag).Encodable := by
  unfold elementType
  split
  · exact Text.encodable_ofString _
  · exact d.encodable_typeOf h

/-- A value is written without surrogates if it holds none itself. -/
theorem encodable_formatValue (h : value.Encodable) (tag : Text) :
    (formatValue value tag).Encodable := by
  simp only [formatValue]
  split_ifs
  · exact h.literal (Text.encodable_ofString _)
  · exact h.trim.lower
  · simp [h]
  · exact h

/-- Nor does a list hold any if its texts do not. -/
theorem encodable_commaList {texts : List Text} (h : ∀ t ∈ texts, t.Encodable) :
    (commaList texts).Encodable :=
  encodable_joined (Text.encodable_ofString _) h

/-- A variable is declared or assigned without surrogates. -/
theorem encodable_variableLine (form : Form) (hname : name.Encodable) (hvalue : value.Encodable)
    (htag : tag.Encodable) : (d.variableLine form name value tag).Encodable := by
  have hformat := encodable_formatValue hvalue tag
  have htype := d.encodable_typeOf htag
  cases form with
  | declaring =>
    simp only [variableLine]
    split <;> simp [htype, hname, hformat]
  | assigning => simp [variableLine, hname, hformat]

/-- So is an array with values. -/
theorem encodable_arrayValuesLine (form : Form) {element values : Text} (hname : name.Encodable)
    (helement : element.Encodable) (hvalues : values.Encodable) :
    (d.arrayValuesLine form name element values).Encodable := by
  cases d <;> cases form <;> simp [arrayValuesLine, hname, helement, hvalues]

/-- So is an array of a given size. -/
theorem encodable_arraySizeLine (form : Form) {element size : Text} (hname : name.Encodable)
    (helement : element.Encodable) (hsize : size.Encodable) :
    (d.arraySizeLine form name element size).Encodable := by
  cases d <;> cases form <;> simp [arraySizeLine, hname, helement, hsize]

/-- An object is made without surrogates. -/
theorem encodable_createLine {var className : Text} {args : List Text} (hvar : var.Encodable)
    (hclass : className.Encodable) (hargs : ∀ t ∈ args, t.Encodable) :
    (d.createLine var className args).Encodable := by
  have hlist := encodable_commaList hargs
  cases d <;> simp only [createLine]
  case cpp => split <;> simp [hvar, hclass, hlist]
  all_goals simp [hvar, hclass, hlist]

/-- The header of a function or method holds no surrogates. -/
theorem encodable_methodHeader (isMember : Bool) {params : List Param} (hname : name.Encodable)
    (hparams : ∀ p ∈ params, p.typeName.Encodable ∧ p.name.Encodable) :
    (d.methodHeader isMember name params).Encodable := by
  have hlist : (d.paramList params).Encodable := by
    apply encodable_commaList
    intro t ht
    obtain ⟨p, hp, rfl⟩ := List.mem_map.1 ht
    simp [d.encodable_typeOf (hparams p hp).1, (hparams p hp).2]
  cases d <;> cases isMember <;> simp [methodHeader, hname, hlist]

/-- Nor does the header of a class. -/
theorem encodable_classHeader {base : Text} (hname : name.Encodable) (hbase : base.Encodable) :
    ∀ t ∈ d.classHeader name base, t.Encodable := by
  have hclause (introduction : String) : (baseClause introduction base).Encodable := by
    unfold baseClause
    split <;> simp [hbase]
  cases d <;> simp [classHeader, hname, hclause]

end Braces.Dialect

/-! ## Expressions in Python -/

namespace Python

variable {t : Text}

/-- Doubling slashes brings in no surrogates. -/
theorem encodable_doubleSlashes (h : t.Encodable) (afterSlash : Bool) :
    (doubleSlashes afterSlash t).Encodable := by
  induction t generalizing afterSlash with
  | nil => exact Text.encodable_nil
  | cons c rest ih =>
    rw [Text.encodable_cons] at h
    rw [doubleSlashes]
    split <;> simp [h.1, ih h.2]

/-- The blanks that are held back are part of the text. -/
theorem encodable_spellOperator {operator : CodePoint} {word : Text} (hword : word.Encodable)
    {held : Option Text} (hheld : (held.getD []).Encodable) (h : t.Encodable) :
    (spellOperator operator word held t).Encodable := by
  fun_induction spellOperator operator word held t with
  | case1 held => simpa using hheld
  -- Blanks are held back until it is known whether an operator follows them.
  | case2 held c hblank => cases held <;> simp_all
  | case3 held c hblank => simp_all
  | case4 held c d rest hblank ih =>
    rw [Text.encodable_cons] at h
    apply ih _ h.2
    cases held <;> simp_all
  | case5 held c d rest hblank hoperator ih => simp_all
  | case6 held c d rest hblank hoperator ih => simp_all

/-- Nor does spelling negations. -/
theorem encodable_spellNegations (h : t.Encodable) (dropping : Bool) :
    (spellNegations dropping t).Encodable := by
  induction t generalizing dropping with
  | nil => exact Text.encodable_nil
  | cons c rest ih =>
    rw [Text.encodable_cons] at h
    rw [spellNegations]
    split
    · exact ih h.2 true
    · split <;> simp [h.1, ih h.2]

/-- Words may be changed one by one, as long as none gets a surrogate. -/
theorem encodable_mapWords {f : Text → Text} (hf : ∀ u : Text, u.Encodable → (f u).Encodable)
    {word : Text} (hword : word.Encodable) (h : t.Encodable) : (mapWords f word t).Encodable := by
  induction t generalizing word with
  | nil => exact hf _ (Text.encodable_reverse.2 hword)
  | cons c rest ih =>
    rw [Text.encodable_cons] at h
    rw [mapWords]
    split
    · exact ih (Text.encodable_cons.2 ⟨h.1, hword⟩) h.2
    · simp [hf _ (Text.encodable_reverse.2 hword), h.1, ih Text.encodable_nil h.2]

/-- In particular, a word may be replaced by another one. -/
theorem encodable_replaceWord {old new : Text} (hnew : new.Encodable) (h : t.Encodable) :
    (replaceWord old new t).Encodable := by
  refine encodable_mapWords ?_ Text.encodable_nil h
  intro u hu
  split
  · exact hnew
  · exact hu

/-- An expression is spelled without surrogates. -/
theorem encodable_spell (h : t.Encodable) : (spell t).Encodable := by
  unfold spell
  split
  · exact h
  · unfold spellSteps
    apply encodable_replaceWord (Text.encodable_ofString _)
    apply encodable_replaceWord (Text.encodable_ofString _)
    apply encodable_spellNegations
    apply encodable_spellOperator (Text.encodable_ofString _) (by simp)
    apply encodable_spellOperator (Text.encodable_ofString _) (by simp)
    exact encodable_doubleSlashes h false

/-- So are the lengths in it. -/
theorem encodable_spellLengths (h : t.Encodable) {word : Text} (hword : word.Encodable)
    (skip : Nat) : (spellLengths skip word t).Encodable := by
  fun_induction spellLengths skip word t with
  | case1 => simpa using hword
  | case2 skip word c rest ih => exact ih (Text.encodable_cons.1 h).2 hword
  | case3 word c rest hchar ih => simp_all
  | case4 word c rest hchar hlength ih => simp_all
  | case5 word c rest hchar hlength ih => simp_all

/-- Splitting off steps leaves text and names without surrogates. -/
theorem encodable_splitSteps (h : t.Encodable) {name : Text} (hname : name.Encodable) :
    (splitSteps name t).1.Encodable ∧ ∀ step ∈ (splitSteps name t).2, step.name.Encodable := by
  fun_induction splitSteps name t with
  | case1 name => simpa using hname
  | case2 name c hchar => simp_all
  | case3 name c hchar => simp_all
  | case4 name c d rest hchar ih => simp_all
  | case5 name c d rest hchar hstep split ih =>
    simp only [Text.encodable_cons] at h
    obtain ⟨hrest, hsteps⟩ := ih h.2.2 Text.encodable_nil
    refine ⟨by simp [hname, split, hrest], ?_⟩
    exact List.forall_mem_cons.2 ⟨by simp [hname], hsteps⟩
  | case6 name c d rest hchar hstep split ih =>
    rw [Text.encodable_cons] at h
    obtain ⟨hrest, hsteps⟩ := ih h.2 Text.encodable_nil
    exact ⟨by simp [hname, h.1, split, hrest], hsteps⟩

/-- So do the statements that the steps become. -/
theorem encodable_splitIncrements (h : t.Encodable) :
    (splitIncrements t).1.Encodable ∧ ∀ u ∈ (splitIncrements t).2, u.Encodable := by
  obtain ⟨hrest, hsteps⟩ := encodable_splitSteps h Text.encodable_nil
  refine ⟨hrest, ?_⟩
  intro u hu
  obtain ⟨step, hstep, rfl⟩ := List.mem_map.1 hu
  unfold Step.statement
  split <;> simp [hsteps step hstep]

/-- A value is written without surrogates if it holds none itself. -/
theorem encodable_formatValue {value : Text} (h : value.Encodable) (tag : Text) :
    (formatValue value tag).Encodable := by
  have htruth (isTrue : Bool) : (truth isTrue).Encodable := by
    cases isTrue <;> exact Text.encodable_ofString _
  simp only [formatValue]
  -- A value is missing, a text, a truth value, a number, an expression or a name.
  split_ifs
  · exact Text.encodable_ofString _
  · exact h.literal (Text.encodable_ofString _)
  · exact htruth _
  · exact htruth _
  · exact h
  · exact encodable_spell (encodable_spellLengths h Text.encodable_nil 0)
  · exact h
  · exact h.literal (Text.encodable_ofString _)

/-- The value that fills a new array is a fixed word. -/
theorem encodable_initialValue (tag : Text) : (initialValue tag).Encodable := by
  unfold initialValue
  split <;> exact Text.encodable_ofString _

/-- Dropping brackets brings in no surrogates. -/
theorem encodable_dropBrackets (h : t.Encodable) : (dropBrackets t).Encodable := by
  fun_induction dropBrackets t with
  | case1 => exact Text.encodable_nil
  | case2 rest ih => simp_all
  | case3 c rest hbrackets ih => simp_all

/-- A list holds no surrogates if its texts do not. -/
theorem encodable_commaList {texts : List Text} (h : ∀ t ∈ texts, t.Encodable) :
    (commaList texts).Encodable :=
  encodable_joined (Text.encodable_ofString _) h

/-- Nor do the names of parameters. -/
theorem encodable_paramNames (isMember : Bool) {params : List Param}
    (h : ∀ p ∈ params, p.name.Encodable) : ∀ t ∈ paramNames isMember params, t.Encodable := by
  have hnames : ∀ t ∈ params.map fun p => dropBrackets p.name, Encodable t := by
    intro t ht
    obtain ⟨p, hp, rfl⟩ := List.mem_map.1 ht
    exact encodable_dropBrackets (h p hp)
  simp only [paramNames]
  split
  · exact List.forall_mem_cons.2 ⟨Text.encodable_ofString _, hnames⟩
  · exact hnames

end Python

/-! ## Lines -/

namespace Line

/-- Lines whose texts hold no surrogates. -/
def Encodable (ls : List Line) : Prop :=
  ∀ line ∈ ls, line.text.Encodable

@[simp]
theorem encodable_nil : Encodable [] :=
  nofun

@[simp]
theorem encodable_cons {line : Line} {rest : List Line} :
    Encodable (line :: rest) ↔ line.text.Encodable ∧ Encodable rest :=
  List.forall_mem_cons

@[simp]
theorem encodable_append {xs ys : List Line} : Encodable (xs ++ ys) ↔ Encodable xs ∧ Encodable ys :=
  List.forall_mem_append

@[simp]
theorem encodable_indent {ls : List Line} : Encodable (indent ls) ↔ Encodable ls := by
  simp [Encodable, indent]

@[simp]
theorem encodable_map_plain {texts : List Text} :
    Encodable (texts.map plain) ↔ ∀ t ∈ texts, t.Encodable := by
  simp [Encodable]

@[simp]
theorem text_header (text : Text) : (header text).text = text :=
  rfl

@[simp]
theorem text_branch (text : Text) : (branch text).text = text :=
  rfl

@[simp]
theorem text_blank : blank.text = [] :=
  rfl

end Line

/-- A statement whose own texts hold no surrogates. -/
def Statement.Encodable {δ : Type} (s : Statement δ) : Prop :=
  ∀ t ∈ s.texts, t.Encodable

/-- A program in which no text that is written out holds a surrogate. -/
def Program.Encodable {δ : Type} (p : Program δ) : Prop :=
  ∀ s ∈ p.walk, s.Encodable

/-- The parameters of a function belong to its texts. -/
theorem Statement.Encodable.params {δ : Type} {name : Text} {params : List Param}
    {body : List (Statement δ)} {id : Option Text}
    (h : (Statement.function name params body id).Encodable) :
    ∀ p ∈ params, p.typeName.Encodable ∧ p.name.Encodable := by
  intro p hp
  have hmem : ∀ t ∈ [p.typeName, p.name], t.Encodable := by
    intro t ht
    exact h t (List.mem_cons_of_mem _ (List.mem_flatMap.2 ⟨p, hp, ht⟩))
  exact ⟨hmem _ (by simp), hmem _ (by simp)⟩

/-! ## Brace languages -/

namespace Braces

open Line (plain blank indent)
open Statement (walkAll walkCases)

/-- A block holds no surrogates if its body does not. -/
theorem encodable_block {text : Text} (h : text.Encodable) {body : List Line}
    (hbody : Line.Encodable body) : Line.Encodable (block text body) := by
  simp [block, opened, closed, h, hbody]

/-- Nor does a section of a switch. -/
theorem encodable_caseBlock (d : Dialect) {label : Text} (h : label.Encodable) {body : List Line}
    (hbody : Line.Encodable body) : Line.Encodable (caseBlock d label body) := by
  have hbreak : Line.Encodable (body ++ [plain "break;"]) := by simp [hbody]
  unfold caseBlock
  split
  · exact encodable_block h hbreak
  · simp [h, hbody]

mutual

/-- The lines of a statement hold no surrogates if its texts do not. -/
theorem encodable_lines (d : Dialect) :
    ∀ s : Statement Form, (∀ t ∈ s.walk, t.Encodable) → Line.Encodable (lines d s)
  | .declare form name value dataType id, h => by
    obtain ⟨hname, hvalue, htype⟩ : name.Encodable ∧ value.Encodable ∧ dataType.Encodable := by
      simpa [Statement.Encodable, Statement.texts] using h _ List.mem_cons_self
    simp [lines, d.encodable_variableLine form hname hvalue htype]
  | .update name value id, h => by
    obtain ⟨hname, hvalue⟩ : name.Encodable ∧ value.Encodable := by
      simpa [Statement.Encodable, Statement.texts] using h _ List.mem_cons_self
    simp [lines, hname, Dialect.encodable_formatValue hvalue]
  | .arrayValues form name dataType values id, h => by
    obtain ⟨hname, htype, hvalues⟩ :
        name.Encodable ∧ dataType.Encodable ∧ ∀ t ∈ values, t.Encodable := by
      simpa [Statement.Encodable, Statement.texts] using h _ List.mem_cons_self
    have hlist : (Dialect.commaList (values.map (Dialect.formatValue · dataType))).Encodable := by
      apply Dialect.encodable_commaList
      intro t ht
      obtain ⟨value, hvalue, rfl⟩ := List.mem_map.1 ht
      exact Dialect.encodable_formatValue (hvalues value hvalue) dataType
    simp [lines, d.encodable_arrayValuesLine form hname (d.encodable_elementType htype) hlist]
  | .arraySize form name dataType size id, h => by
    obtain ⟨hname, htype, hsize⟩ : name.Encodable ∧ dataType.Encodable ∧ size.Encodable := by
      simpa [Statement.Encodable, Statement.texts] using h _ List.mem_cons_self
    simp [lines, d.encodable_arraySizeLine form hname (d.encodable_elementType htype) hsize]
  | .print value id, h => by
    have hvalue : value.Encodable := by
      simpa [Statement.Encodable, Statement.texts] using h _ List.mem_cons_self
    cases d <;> simp [lines, Dialect.printLine, hvalue]
  | .ifElse condition body orElse id, h => by
    have hcondition : condition.Encodable := by
      simpa [Statement.Encodable, Statement.texts] using h _ List.mem_cons_self
    have hnested := List.forall_mem_append.1 (List.forall_mem_cons.1 h).2
    have hbody := encodable_linesAll d body hnested.1
    have horElse := encodable_linesAll d orElse hnested.2
    rw [lines]
    split <;> simp [opened, closed, hcondition, hbody, horElse]
  | .switch subject cases otherwise id, h => by
    obtain ⟨hsubject, hvalues⟩ := List.forall_mem_cons.1 (h _ List.mem_cons_self)
    have hnested := List.forall_mem_append.1 (List.forall_mem_cons.1 h).2
    have hcases := encodable_linesCases d cases hvalues hnested.1
    have hotherwise := encodable_linesAll d otherwise hnested.2
    refine encodable_block (by simp [hsubject]) (Line.encodable_append.2 ⟨hcases, ?_⟩)
    split
    · exact Line.encodable_nil
    · exact encodable_caseBlock d (Text.encodable_ofString _) hotherwise
  | .forRange var bound body id, h => by
    obtain ⟨hvar, hbound⟩ : var.Encodable ∧ bound.Encodable := by
      simpa [Statement.Encodable, Statement.texts] using h _ List.mem_cons_self
    have hbody := encodable_linesAll d body (List.forall_mem_cons.1 h).2
    exact encodable_block (by simp [hvar, hbound]) hbody
  | .whileLoop condition body id, h => by
    have hcondition : condition.Encodable := by
      simpa [Statement.Encodable, Statement.texts] using h _ List.mem_cons_self
    have hbody := encodable_linesAll d body (List.forall_mem_cons.1 h).2
    exact encodable_block (by simp [hcondition]) hbody
  | .function name params body id, h => by
    have hname : name.Encodable := h _ List.mem_cons_self name List.mem_cons_self
    have hparams := (h _ List.mem_cons_self).params
    have hbody := encodable_linesAll d body (List.forall_mem_cons.1 h).2
    exact encodable_block (d.encodable_methodHeader false hname hparams) hbody
  | .call name args id, h => by
    obtain ⟨hname, hargs⟩ : name.Encodable ∧ ∀ t ∈ args, t.Encodable := by
      simpa [Statement.Encodable, Statement.texts] using h _ List.mem_cons_self
    simp [lines, hname, Dialect.encodable_commaList hargs]
  | .classDef name base members id, h => by
    obtain ⟨hname, hbase⟩ : name.Encodable ∧ base.Encodable := by
      simpa [Statement.Encodable, Statement.texts] using h _ List.mem_cons_self
    have hmembers := encodable_linesMembers d members (List.forall_mem_cons.1 h).2
    have hheader := d.encodable_classHeader hname hbase
    simp only [lines, Line.encodable_append, Line.encodable_map_plain, Line.encodable_indent]
    exact ⟨⟨hheader, hmembers⟩, by simp⟩
  | .create var className args id, h => by
    obtain ⟨hvar, hclass, hargs⟩ :
        var.Encodable ∧ className.Encodable ∧ ∀ t ∈ args, t.Encodable := by
      simpa [Statement.Encodable, Statement.texts] using h _ List.mem_cons_self
    simp [lines, d.encodable_createLine hvar hclass hargs]
  | .unknown kind data id, h => by
    have hkind : kind.Encodable := by
      simpa [Statement.Encodable, Statement.texts] using h _ List.mem_cons_self
    simp [lines, Dialect.placeholder, hkind]

/-- Nor do the lines of a list of statements. -/
theorem encodable_linesAll (d : Dialect) :
    ∀ ss : List (Statement Form), (∀ t ∈ walkAll ss, t.Encodable) → Line.Encodable (linesAll d ss)
  | [], _ => Line.encodable_nil
  | s :: rest, h => by
    obtain ⟨hs, hrest⟩ := List.forall_mem_append.1 h
    exact Line.encodable_append.2 ⟨encodable_lines d s hs, encodable_linesAll d rest hrest⟩

/-- Nor do those of the cases of a switch. -/
theorem encodable_linesCases (d : Dialect) :
    ∀ cases : List (Text × List (Statement Form)), (∀ t ∈ cases.map (·.1), t.Encodable) →
      (∀ t ∈ walkCases cases, t.Encodable) → Line.Encodable (linesCases d cases)
  | [], _, _ => Line.encodable_nil
  | (value, body) :: rest, hvalues, h => by
    obtain ⟨hvalue, hvalues⟩ := List.forall_mem_cons.1 hvalues
    obtain ⟨hbody, hrest⟩ := List.forall_mem_append.1 h
    have hlabel : ("case " ++ value ++ ":" : Text).Encodable := by simp [hvalue]
    exact Line.encodable_append.2
      ⟨encodable_caseBlock d hlabel (encodable_linesAll d body hbody),
        encodable_linesCases d rest hvalues hrest⟩

/-- Nor do those of the members of a class. -/
theorem encodable_linesMembers (d : Dialect) :
    ∀ ss : List (Statement Form), (∀ t ∈ walkAll ss, t.Encodable) →
      Line.Encodable (linesMembers d ss)
  | [], _ => Line.encodable_nil
  | s :: rest, h => by
    obtain ⟨hs, hrest⟩ := List.forall_mem_append.1 h
    have hlines := encodable_lines d s hs
    have hmembers := encodable_linesMembers d rest hrest
    -- A method has a header of its own.
    cases s with
    | function name params body id =>
      have hname : name.Encodable := hs _ List.mem_cons_self name List.mem_cons_self
      have hparams := (hs _ List.mem_cons_self).params
      have hbody := encodable_linesAll d body (List.forall_mem_cons.1 hs).2
      exact Line.encodable_append.2
        ⟨encodable_block (d.encodable_methodHeader true hname hparams) hbody, hmembers⟩
    | _ => exact Line.encodable_append.2 ⟨hlines, hmembers⟩

end

/-- Nor do those of the classes of a program. -/
theorem encodable_classLines (d : Dialect) : ∀ ss : List (Statement Form),
    (∀ t ∈ walkAll ss, t.Encodable) → Line.Encodable (classLines d ss)
  | [], _ => Line.encodable_nil
  | [s], h => encodable_lines d s (List.forall_mem_append.1 h).1
  | s :: next :: rest, h => by
    obtain ⟨hs, hrest⟩ := List.forall_mem_append.1 h
    have hlines := encodable_lines d s hs
    have hclasses := encodable_classLines d (next :: rest) hrest
    simp [classLines, hlines, hclasses]

/-- Nor do those of its functions. -/
theorem encodable_functionLines (d : Dialect) {ss : List (Statement Form)}
    (h : ∀ t ∈ walkAll ss, t.Encodable) : Line.Encodable (functionLines d ss) := by
  induction ss with
  | nil => exact Line.encodable_nil
  | cons s rest ih =>
    obtain ⟨hs, hrest⟩ := List.forall_mem_append.1 h
    have hfunctions := ih hrest
    rw [functionLines] at hfunctions ⊢
    simp [encodable_lines d s hs, hfunctions]

/-- The lines of a program hold no surrogates if its texts do not. -/
theorem encodable_programLines (d : Dialect) {p : Program Form} (h : p.Encodable) :
    Line.Encodable (programLines d p) := by
  obtain ⟨⟨hclasses, hfunctions⟩, hbody⟩ :
      ((∀ s ∈ walkAll p.classes, s.Encodable) ∧ ∀ s ∈ walkAll p.functions, s.Encodable) ∧
        ∀ s ∈ walkAll p.body, s.Encodable := by
    simpa only [Program.Encodable, Program.walk, Statement.walkAll_append, List.forall_mem_append]
      using h
  have hclasses := encodable_classLines d p.classes hclasses
  have hfunctions := encodable_functionLines d hfunctions
  have hbody := encodable_linesAll d p.body hbody
  have hfixed (texts : List String) : Line.Encodable (fixedLines texts) := by
    simp [fixedLines, Line.Encodable]
  have hsection : Line.Encodable (classSection d p.classes) := by
    unfold classSection
    split <;> simp [hclasses]
  -- The dialects put the parts of a program into different frames.
  cases d with
  | csharp =>
    refine Line.encodable_append.2 ⟨hfixed _, encodable_block (Text.encodable_ofString _) ?_⟩
    refine Line.encodable_append.2 ⟨hsection, encodable_block (Text.encodable_ofString _) ?_⟩
    exact Line.encodable_append.2 ⟨encodable_block (Text.encodable_ofString _) hbody, hfunctions⟩
  | java =>
    refine Line.encodable_append.2 ⟨hsection, encodable_block (Text.encodable_ofString _) ?_⟩
    exact Line.encodable_append.2 ⟨encodable_block (Text.encodable_ofString _) hbody, hfunctions⟩
  | cpp =>
    have hmain :
        Line.Encodable (block "int main()" (linesAll .cpp p.body ++ [plain "return 0;"])) :=
      encodable_block (Text.encodable_ofString _) (by simp [hbody])
    simp only [programLines, Line.encodable_append, Line.encodable_cons]
    refine ⟨⟨⟨hfixed _, ?_⟩, hfunctions⟩, Text.encodable_nil, hmain⟩
    split <;> simp [hclasses]

end Braces

/-! ## Python -/

namespace Python

open Line (plain blank indent)
open Statement (walkAll walkCases)

/-- What stands below a header holds no surrogates. -/
theorem encodable_suite {ss : List (Statement Form)} {body : List Line} (h : Line.Encodable body) :
    Line.Encodable (suite ss body) := by
  unfold suite
  split <;> simp [h]

/-- Nor does the branch that is taken when no other is. -/
theorem encodable_elseLines {ss : List (Statement Form)} {body : List Line}
    (h : Line.Encodable body) : Line.Encodable (elseLines ss body) := by
  unfold elseLines
  split <;> simp [encodable_suite h]

/-- Nor does the test of a case. -/
theorem encodable_caseTest {subject value : Text} (hsubject : subject.Encodable)
    (hvalue : value.Encodable) : (caseTest subject value).Encodable := by
  simp [caseTest, hsubject, encodable_formatValue hvalue]

/-- Nor does an assignment with the increments below it. -/
theorem encodable_assignment {name value : Text} (hname : name.Encodable) (hvalue : value.Encodable)
    (tag : Text) : Line.Encodable (assignment name value tag) := by
  have htarget := encodable_splitIncrements hname
  have hsource := encodable_splitIncrements hvalue
  have hsteps : ∀ t ∈ (splitIncrements name).2 ++ (splitIncrements value).2, Encodable t :=
    List.forall_mem_append.2 ⟨htarget.2, hsource.2⟩
  simp only [assignment]
  split
  · simp [hname, encodable_formatValue hvalue]
  · rw [Line.encodable_cons, Line.encodable_map_plain]
    exact ⟨by simp [htarget.1, encodable_formatValue hsource.1], hsteps⟩

/-- Nor does the header of a function or method. -/
theorem encodable_methodHeader (isMember : Bool) {name : Text} {params : List Param}
    (hname : name.Encodable) (hparams : ∀ p ∈ params, p.name.Encodable) :
    (methodHeader isMember name params).text.Encodable := by
  simp [methodHeader, hname, encodable_commaList (encodable_paramNames isMember hparams)]

mutual

/-- The lines of a statement hold no surrogates if its texts do not. -/
theorem encodable_lines :
    ∀ s : Statement Form, (∀ t ∈ s.walk, t.Encodable) → Line.Encodable (lines s)
  | .declare form name value dataType id, h => by
    obtain ⟨hname, hvalue, -⟩ : name.Encodable ∧ value.Encodable ∧ dataType.Encodable := by
      simpa [Statement.Encodable, Statement.texts] using h _ List.mem_cons_self
    exact encodable_assignment hname hvalue dataType
  | .update name value id, h => by
    obtain ⟨hname, hvalue⟩ : name.Encodable ∧ value.Encodable := by
      simpa [Statement.Encodable, Statement.texts] using h _ List.mem_cons_self
    exact encodable_assignment hname hvalue ""
  | .arrayValues form name dataType values id, h => by
    obtain ⟨hname, -, hvalues⟩ :
        name.Encodable ∧ dataType.Encodable ∧ ∀ t ∈ values, t.Encodable := by
      simpa [Statement.Encodable, Statement.texts] using h _ List.mem_cons_self
    have hlist : (commaList (values.map (formatValue · dataType))).Encodable := by
      apply encodable_commaList
      intro t ht
      obtain ⟨value, hvalue, rfl⟩ := List.mem_map.1 ht
      exact encodable_formatValue (hvalues value hvalue) dataType
    simp [lines, hname, hlist]
  | .arraySize form name dataType size id, h => by
    obtain ⟨hname, -, hsize⟩ : name.Encodable ∧ dataType.Encodable ∧ size.Encodable := by
      simpa [Statement.Encodable, Statement.texts] using h _ List.mem_cons_self
    simp [lines, hname, encodable_initialValue, encodable_spell hsize]
  | .print value id, h => by
    have hvalue : value.Encodable := by
      simpa [Statement.Encodable, Statement.texts] using h _ List.mem_cons_self
    simp [lines, encodable_formatValue hvalue]
  | .ifElse condition body orElse id, h => by
    have hcondition : condition.Encodable := by
      simpa [Statement.Encodable, Statement.texts] using h _ List.mem_cons_self
    have hnested := List.forall_mem_append.1 (List.forall_mem_cons.1 h).2
    have hbody := encodable_linesAll body hnested.1
    have horElse := encodable_linesAll orElse hnested.2
    simp [lines, encodable_spell hcondition, encodable_suite hbody, encodable_elseLines horElse]
  | .switch subject [] otherwise id, h => by
    have hnested := List.forall_mem_append.1 (List.forall_mem_cons.1 h).2
    have hotherwise := encodable_linesAll otherwise hnested.2
    rw [lines]
    split <;> simp [hotherwise]
  | .switch subject ((value, body) :: rest) otherwise id, h => by
    have htexts := List.forall_mem_cons.1 (h _ List.mem_cons_self)
    have hvalues := List.forall_mem_cons.1 htexts.2
    have hnested := List.forall_mem_append.1 (List.forall_mem_cons.1 h).2
    have hcases := List.forall_mem_append.1 hnested.1
    have hbody := encodable_linesAll body hcases.1
    have hrest := encodable_linesCases subject htexts.1 rest hvalues.2 hcases.2
    have hotherwise := encodable_linesAll otherwise hnested.2
    simp [lines, encodable_caseTest htexts.1 hvalues.1, encodable_suite hbody, hrest,
      encodable_elseLines hotherwise]
  | .forRange var bound body id, h => by
    obtain ⟨hvar, hbound⟩ : var.Encodable ∧ bound.Encodable := by
      simpa [Statement.Encodable, Statement.texts] using h _ List.mem_cons_self
    have hbody := encodable_linesAll body (List.forall_mem_cons.1 h).2
    simp [lines, hvar, encodable_spell hbound, encodable_suite hbody]
  | .whileLoop condition body id, h => by
    have hcondition : condition.Encodable := by
      simpa [Statement.Encodable, Statement.texts] using h _ List.mem_cons_self
    have hbody := encodable_linesAll body (List.forall_mem_cons.1 h).2
    simp [lines, encodable_spell hcondition, encodable_suite hbody]
  | .function name params body id, h => by
    have hname : name.Encodable := h _ List.mem_cons_self name List.mem_cons_self
    have hparams := (h _ List.mem_cons_self).params
    have hheader := encodable_methodHeader false hname fun p hp => (hparams p hp).2
    have hbody := encodable_linesAll body (List.forall_mem_cons.1 h).2
    exact Line.encodable_cons.2 ⟨hheader, encodable_suite hbody⟩
  | .call name args id, h => by
    obtain ⟨hname, hargs⟩ : name.Encodable ∧ ∀ t ∈ args, t.Encodable := by
      simpa [Statement.Encodable, Statement.texts] using h _ List.mem_cons_self
    simp [lines, hname, encodable_commaList hargs]
  | .classDef name base members id, h => by
    obtain ⟨hname, hbase⟩ : name.Encodable ∧ base.Encodable := by
      simpa [Statement.Encodable, Statement.texts] using h _ List.mem_cons_self
    have hclause : (baseClause base).Encodable := by
      unfold baseClause
      split <;> simp [hbase]
    have hmembers := encodable_linesMembers members (List.forall_mem_cons.1 h).2
    simp [lines, hname, hclause, encodable_suite hmembers]
  | .create var className args id, h => by
    obtain ⟨hvar, hclass, hargs⟩ :
        var.Encodable ∧ className.Encodable ∧ ∀ t ∈ args, t.Encodable := by
      simpa [Statement.Encodable, Statement.texts] using h _ List.mem_cons_self
    simp [lines, hvar, hclass, encodable_commaList hargs]
  | .unknown kind data id, h => by
    have hkind : kind.Encodable := by
      simpa [Statement.Encodable, Statement.texts] using h _ List.mem_cons_self
    simp [lines, placeholder, hkind]

/-- Nor do the lines of a list of statements. -/
theorem encodable_linesAll :
    ∀ ss : List (Statement Form), (∀ t ∈ walkAll ss, t.Encodable) → Line.Encodable (linesAll ss)
  | [], _ => Line.encodable_nil
  | s :: rest, h => by
    obtain ⟨hs, hrest⟩ := List.forall_mem_append.1 h
    exact Line.encodable_append.2 ⟨encodable_lines s hs, encodable_linesAll rest hrest⟩

/-- Nor do those of the cases of a switch after the first. -/
theorem encodable_linesCases (subject : Text) (hsubject : subject.Encodable) :
    ∀ cases : List (Text × List (Statement Form)), (∀ t ∈ cases.map (·.1), t.Encodable) →
      (∀ t ∈ walkCases cases, t.Encodable) → Line.Encodable (linesCases subject cases)
  | [], _, _ => Line.encodable_nil
  | (value, body) :: rest, hvalues, h => by
    obtain ⟨hvalue, hvalues⟩ := List.forall_mem_cons.1 hvalues
    obtain ⟨hbody, hrest⟩ := List.forall_mem_append.1 h
    have hbody := encodable_linesAll body hbody
    have hrest := encodable_linesCases subject hsubject rest hvalues hrest
    simp [linesCases, encodable_caseTest hsubject hvalue, encodable_suite hbody, hrest]

/-- Nor do those of the members of a class. -/
theorem encodable_linesMembers :
    ∀ ss : List (Statement Form), (∀ t ∈ walkAll ss, t.Encodable) → Line.Encodable (linesMembers ss)
  | [], _ => Line.encodable_nil
  | s :: rest, h => by
    obtain ⟨hs, hrest⟩ := List.forall_mem_append.1 h
    have hlines := encodable_lines s hs
    have hmembers := encodable_linesMembers rest hrest
    -- A method has a header of its own.
    cases s with
    | function name params body id =>
      have hname : name.Encodable := hs _ List.mem_cons_self name List.mem_cons_self
      have hparams := (hs _ List.mem_cons_self).params
      have hheader := encodable_methodHeader true hname fun p hp => (hparams p hp).2
      have hbody := encodable_linesAll body (List.forall_mem_cons.1 hs).2
      exact Line.encodable_append.2
        ⟨Line.encodable_cons.2 ⟨hheader, encodable_suite hbody⟩, hmembers⟩
    | _ => exact Line.encodable_append.2 ⟨hlines, hmembers⟩

end

/-- The lines of a program hold no surrogates if its texts do not. -/
theorem encodable_programLines {p : Program Form} (h : p.Encodable) :
    Line.Encodable (programLines p) := by
  obtain ⟨hentries, hbody⟩ :
      (∀ s ∈ walkAll (p.classes ++ p.functions), s.Encodable) ∧
        ∀ s ∈ walkAll p.body, s.Encodable := by
    rw [Program.Encodable, Program.walk, Statement.walkAll_append] at h
    exact List.forall_mem_append.1 h
  have hdefinitions : Line.Encodable
      ((p.classes ++ p.functions).flatMap fun s => lines s ++ [blank, blank]) := by
    intro line hline
    obtain ⟨s, hs, hmem⟩ := List.mem_flatMap.1 hline
    have hlines := encodable_lines s fun t ht =>
      hentries t (Statement.walkAll_eq_flatMap _ ▸ List.mem_flatMap.2 ⟨s, hs, ht⟩)
    have hspaced : Line.Encodable (lines s ++ [blank, blank]) := by simp [hlines]
    exact hspaced line hmem
  simpa [programLines, encodable_suite (encodable_linesAll p.body hbody)] using hdefinitions

end Python

/-! ## Programs -/

namespace Program

/-- Marking a program brings no surrogates into its texts. -/
theorem Encodable.mark {p : Program Unit} (h : p.Encodable) (inlineDefault blockScoped : Bool) :
    (p.mark inlineDefault blockScoped).Encodable := by
  intro s hs u hu
  obtain ⟨t, ht, htexts⟩ := exists_texts_of_mem_walk_mark hs
  exact h t ht u (htexts ▸ hu)

/-- A margin is made of blanks, so a line that is written holds no surrogates either. -/
theorem encodable_writtenAt {line : Line} (h : line.text.Encodable) (indent : Int) :
    (line.writtenAt indent).Encodable := by
  have hmargin (level : Int) : (Writer.margin level).Encodable := by
    simp [Writer.margin, Text.Encodable, List.mem_replicate]
  unfold Line.writtenAt
  split
  · exact Text.encodable_ofString _
  · simp [hmargin, h]

/-- The source code of a program holds no surrogates if the texts of its statements do not. -/
theorem encodable_source {p : Program Unit} (h : p.Encodable) (language : Language)
    (blockScoped : Bool) : (p.source language blockScoped).Encodable := by
  have hlines : Line.Encodable (p.lines language blockScoped) := by
    have hmarked := h.mark language.inlinesDefault blockScoped
    unfold lines linesIn
    split
    · exact Braces.encodable_programLines _ hmarked
    · exact Python.encodable_programLines hmarked
  have hwritten : ∀ t ∈ p.writtenLines language blockScoped, t.Encodable := by
    intro t ht
    obtain ⟨line, hline, rfl⟩ := List.mem_map.1 ht
    exact encodable_writtenAt (hlines line hline) 0
  rw [source_eq]
  simp [encodable_joined (Text.encodable_ofString _) hwritten]

end Program

end BlockFlow
