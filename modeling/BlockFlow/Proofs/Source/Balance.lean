import BlockFlow.Proofs.Source.Unmarking
import BlockFlow.Proofs.Source.Written
import Mathlib.Combinatorics.Enumerative.DyckWord

/-!
# Balanced braces

The braces of a text are read as the steps of a path: up at an opening brace, down at a closing one.
A statement whose texts hold no braces of their own is written in lines whose braces form a Dyck
word, in every dialect: braces are opened and closed around whole blocks, and a block between them
is a Dyck word again. Margins and line breaks hold no braces, so the same is true of the source code
of a whole program.
-/

namespace BlockFlow

/-! ## The braces of a text -/

/-- The step that a brace stands for. -/
def CodePoint.brace? (c : CodePoint) : Option DyckStep :=
  if c = .char '\x7b' then some .U else if c = .char '\x7d' then some .D else none

namespace Text

/-- The braces of a text, in order. -/
def braces (t : Text) : List DyckStep :=
  t.filterMap CodePoint.brace?

/-- A text without braces. -/
def BraceFree (t : Text) : Prop :=
  .char '\x7b' ∉ t ∧ .char '\x7d' ∉ t

instance (t : Text) : Decidable t.BraceFree :=
  inferInstanceAs (Decidable (_ ∧ _))

/-- A text whose beginnings never close more braces than they open, and which closes them all. -/
structure Balanced (t : Text) : Prop where
  beginnings : ∀ u : Text, u <+: t → u.count (.char '\x7d') ≤ u.count (.char '\x7b')
  whole : t.count (.char '\x7b') = t.count (.char '\x7d')

@[simp]
theorem braces_nil : braces [] = [] :=
  rfl

@[simp]
theorem braces_append (s t : Text) : braces (s ++ t) = braces s ++ braces t :=
  List.filterMap_append

/-- The braces of a text whose characters are given, such as a literal. -/
theorem braces_ofString (cs : List Char) :
    braces (String.ofList cs) = cs.filterMap fun c => (CodePoint.char c).brace? := by
  rw [braces, ofString, String.toList_ofList, ofChars, List.filterMap_map]
  rfl

/-- Only the two braces stand for steps. -/
theorem brace?_eq_none_iff (c : CodePoint) :
    c.brace? = none ↔ c ≠ .char '\x7b' ∧ c ≠ .char '\x7d' := by
  unfold CodePoint.brace?
  split_ifs <;> simp_all

/-- A text has no steps exactly if it holds no braces. -/
theorem braces_eq_nil_iff (t : Text) : braces t = [] ↔ t.BraceFree := by
  simp only [braces, List.filterMap_eq_nil_iff, brace?_eq_none_iff, BraceFree]
  constructor
  · intro h
    exact ⟨fun hmem => (h _ hmem).1 rfl, fun hmem => (h _ hmem).2 rfl⟩
  · rintro ⟨hopen, hclose⟩ c hc
    exact ⟨fun h => hopen (h ▸ hc), fun h => hclose (h ▸ hc)⟩

/-- The opening braces are the steps up and the closing ones the steps down. -/
theorem count_braces (t : Text) :
    (braces t).count .U = t.count (.char '\x7b') ∧
      (braces t).count .D = t.count (.char '\x7d') := by
  induction t with
  | nil => simp
  | cons c rest ih =>
    have hcons : braces (c :: rest) = braces [c] ++ braces rest := braces_append [c] rest
    rw [hcons, List.count_append, List.count_append, ih.1, ih.2, List.count_cons, List.count_cons]
    -- The first character is an opening brace, a closing one or neither.
    by_cases hopen : c = .char '\x7b'
    · subst hopen
      exact ⟨Nat.add_comm _ _, Nat.zero_add _⟩
    by_cases hclose : c = .char '\x7d'
    · subst hclose
      exact ⟨Nat.zero_add _, Nat.add_comm _ _⟩
    have hnone : braces [c] = [] := by
      simp [braces, (brace?_eq_none_iff c).mpr ⟨hopen, hclose⟩]
    simp [hnone, hopen, hclose]

end Text

/-- Steps that form a Dyck word. -/
def IsDyck (steps : List DyckStep) : Prop :=
  ∃ w : DyckWord, w.toList = steps

namespace IsDyck

variable {steps steps' : List DyckStep}

theorem nil : IsDyck [] :=
  ⟨0, rfl⟩

theorem append (h : IsDyck steps) (h' : IsDyck steps') : IsDyck (steps ++ steps') := by
  obtain ⟨w, rfl⟩ := h
  obtain ⟨w', rfl⟩ := h'
  exact ⟨w + w', rfl⟩

/-- A Dyck word in braces is one. -/
theorem nest (h : IsDyck steps) : IsDyck (.U :: steps ++ [.D]) := by
  obtain ⟨w, rfl⟩ := h
  exact ⟨w.nest, rfl⟩

/-- A text whose braces form a Dyck word is balanced. -/
theorem balanced {t : Text} (h : IsDyck t.braces) : t.Balanced := by
  obtain ⟨w, hw⟩ := h
  constructor
  · intro u hu
    -- The braces of a beginning are a beginning of the braces.
    have hbeginning : u.braces <+: w.toList := hw ▸ hu.filterMap CodePoint.brace?
    have hle := w.count_D_le_count_U u.braces.length
    rw [← List.prefix_iff_eq_take.mp hbeginning] at hle
    rwa [(Text.count_braces u).1, (Text.count_braces u).2] at hle
  · have heq := w.count_U_eq_count_D
    rwa [hw, (Text.count_braces t).1, (Text.count_braces t).2] at heq

end IsDyck

/-! ## The braces of lines -/

namespace Line

/-- The braces of lines, in order. -/
def braces (lines : List Line) : List DyckStep :=
  lines.flatMap (·.text.braces)

@[simp]
theorem braces_nil : braces [] = [] :=
  rfl

@[simp]
theorem braces_cons (line : Line) (rest : List Line) :
    braces (line :: rest) = line.text.braces ++ braces rest :=
  rfl

@[simp]
theorem braces_append (xs ys : List Line) : braces (xs ++ ys) = braces xs ++ braces ys :=
  List.flatMap_append

@[simp]
theorem braces_indent (lines : List Line) : braces (indent lines) = braces lines := by
  simp [braces, indent, List.flatMap_map]

@[simp]
theorem text_plain (text : Text) : (plain text).text = text :=
  rfl

end Line

namespace Writer

/-- A margin holds no braces. -/
theorem braces_margin (level : Int) : (margin level).braces = [] := by
  rw [Text.braces_eq_nil_iff]
  simp [Text.BraceFree, margin]

/-- Nor do line breaks. -/
theorem braces_joined_newline (texts : List Text) :
    (Text.joined "\n" texts).braces = texts.flatMap Text.braces := by
  have hbreak : Text.braces "\n" = [] := rfl
  induction texts with
  | nil => rfl
  | cons t rest ih =>
    cases rest with
    | nil => simp [Text.joined]
    | cons u rest =>
      simp only [Text.joined, List.intercalate_cons_cons, List.flatMap_cons] at ih ⊢
      simp [ih, hbreak]

end Writer

/-- Writing a line adds no braces. -/
theorem Line.braces_writtenAt (indent : Int) (line : Line) :
    (line.writtenAt indent).braces = line.text.braces := by
  unfold Line.writtenAt
  split
  case isTrue hempty => rw [hempty]
  case isFalse => rw [Text.braces_append, Writer.braces_margin, List.nil_append]

/-- The braces of the source code of a program are those of its lines. -/
theorem Program.braces_source (language : Language) (blockScoped : Bool) (p : Program Unit) :
    (p.source language blockScoped).braces = Line.braces (p.lines language blockScoped) := by
  have hend : Text.braces "\n" = [] := rfl
  rw [source_eq, Text.braces_append, hend, List.append_nil, Writer.braces_joined_newline,
    writtenLines, List.flatMap_map]
  simp only [Line.braces_writtenAt, Line.braces]

/-! ## Texts that are written -/

/-- The texts of a statement that are written out, without those of nested statements. An id is
never written, and of an unknown statement only the kind. -/
def Statement.texts {δ : Type} : Statement δ → List Text
  | .declare _ name value dataType _ => [name, value, dataType]
  | .update name value _ => [name, value]
  | .arrayValues _ name dataType values _ => name :: dataType :: values
  | .arraySize _ name dataType size _ => [name, dataType, size]
  | .print value _ => [value]
  | .ifElse condition _ _ _ => [condition]
  | .switch subject cases _ _ => subject :: cases.map (·.1)
  | .forRange var bound _ _ => [var, bound]
  | .whileLoop condition _ _ => [condition]
  | .function name params _ _ => name :: params.flatMap fun p => [p.typeName, p.name]
  | .call name args _ => name :: args
  | .classDef name base _ _ => [name, base]
  | .create var className args _ => var :: className :: args
  | .unknown kind _ _ => [kind]

/-- Marks are no texts. -/
theorem Statement.texts_unmark {δ : Type} (s : Statement δ) : s.unmark.texts = s.texts := by
  cases s with
  | switch subject cases otherwise id => simp [unmark, texts, map_fst_unmarkCases]
  | _ => simp [unmark, texts]

/-- A statement whose own texts hold no braces. -/
def Statement.BraceFree {δ : Type} (s : Statement δ) : Prop :=
  ∀ t ∈ s.texts, t.BraceFree

/-- A program in which no text that is written out holds a brace. -/
def Program.BraceFree {δ : Type} (p : Program δ) : Prop :=
  ∀ s ∈ p.walk, s.BraceFree

instance {δ : Type} (s : Statement δ) : Decidable s.BraceFree :=
  inferInstanceAs (Decidable (∀ t ∈ s.texts, t.BraceFree))

instance {δ : Type} (p : Program δ) : Decidable p.BraceFree :=
  inferInstanceAs (Decidable (∀ s ∈ p.walk, s.BraceFree))

/-- The own texts of a statement without braces have no steps. -/
theorem Statement.BraceFree.braces {δ : Type} {s : Statement δ} (h : s.BraceFree) :
    ∀ t ∈ s.texts, t.braces = [] := by
  intro t ht
  exact (Text.braces_eq_nil_iff t).mpr (h t ht)

namespace Text

variable {t : Text}

/-- Trimming a text adds no braces. -/
theorem braces_trim (h : t.braces = []) : (trim t).braces = [] := by
  rw [braces_eq_nil_iff] at h ⊢
  have hsub : trim t ⊆ t := by
    intro c hc
    rw [trim, trimWhere, List.mem_reverse] at hc
    have hkept := List.mem_reverse.mp ((List.dropWhile_sublist _).subset hc)
    exact (List.dropWhile_sublist _).subset hkept
  exact ⟨fun hmem => h.1 (hsub hmem), fun hmem => h.2 (hsub hmem)⟩

/-- Nor does putting it into marks without braces. -/
theorem braces_literal {mark : Text} (hmark : mark.braces = []) (h : t.braces = []) :
    (literal mark t).braces = [] := by
  unfold literal
  split
  · exact h
  · simp [hmark, h]

/-- Nor does joining texts by a text without braces. -/
theorem braces_joined {separator : Text} {texts : List Text} (hseparator : separator.braces = [])
    (h : ∀ t ∈ texts, t.braces = []) : (joined separator texts).braces = [] := by
  induction texts with
  | nil => rfl
  | cons t rest ih =>
    have ht : t.braces = [] := h t List.mem_cons_self
    have hrest := ih fun u hu => h u (List.mem_cons_of_mem _ hu)
    cases rest with
    | nil => simpa [joined] using ht
    | cons u rest =>
      rw [joined] at hrest ⊢
      rw [List.intercalate_cons_cons]
      simp [ht, hseparator, hrest]

end Text

namespace Braces

namespace Dialect

variable (d : Dialect) {name value tag : Text}

/-- The names of built-in types hold no braces. -/
theorem braces_builtinType? {tag builtin : String} (h : d.builtinType? tag = some builtin) :
    Text.braces builtin = [] := by
  unfold builtinType? at h
  split at h <;> simp only [Option.some.injEq, reduceCtorEq] at h <;> subst h <;> rfl

/-- A type is written without braces if its tag holds none. -/
theorem braces_typeOf (h : tag.braces = []) : (d.typeOf tag).braces = [] := by
  have hinferred : Text.braces d.inferredType = [] := by cases d <;> rfl
  simp only [typeOf]
  -- A type is inferred, built in, or taken over as it stands.
  split
  · exact hinferred
  · split
    · rename_i builtin hbuiltin
      obtain ⟨name, -, hname⟩ := Option.bind_eq_some_iff.mp hbuiltin
      exact d.braces_builtinType? hname
    · exact Text.braces_trim h

/-- So is the type of the elements of an array. -/
theorem braces_elementType (h : tag.braces = []) : (d.elementType tag).braces = [] := by
  have hfallback : Text.braces d.arrayFallback = [] := by cases d <;> rfl
  unfold elementType
  split
  · exact hfallback
  · exact d.braces_typeOf h

/-- A value is written without braces if it holds none itself. -/
theorem braces_formatValue (h : value.braces = []) : (formatValue value tag).braces = [] := by
  simp only [formatValue]
  split
  · exact Text.braces_literal rfl h
  · split
    · -- Only a truth value is put in lower case.
      rename_i hword
      simp only [Bool.and_eq_true, Bool.or_eq_true, decide_eq_true_eq] at hword
      rcases hword.2 with hword | hword
      · rw [hword]
        rfl
      · rw [hword]
        rfl
    · split
      · simp only [Text.braces_append, h, List.append_nil]
        rfl
      · exact h

/-- A list without braces in its texts has none. -/
theorem braces_commaList {texts : List Text} (h : ∀ t ∈ texts, t.braces = []) :
    (commaList texts).braces = [] :=
  Text.braces_joined rfl h

/-- A variable is declared or assigned without braces. -/
theorem braces_variableLine (form : Form) (hname : name.braces = []) (hvalue : value.braces = [])
    (htag : tag.braces = []) : (d.variableLine form name value tag).braces = [] := by
  have hformat : (formatValue value tag).braces = [] := braces_formatValue hvalue
  have htype : (d.typeOf tag).braces = [] := d.braces_typeOf htag
  cases form with
  | declaring =>
    simp only [variableLine]
    split
    · simp only [Text.braces_append, htype, hname, List.nil_append, List.append_nil]
      rfl
    · simp only [Text.braces_append, htype, hname, hformat, List.nil_append, List.append_nil]
      rfl
  | assigning =>
    simp only [variableLine, Text.braces_append, hname, hformat, List.nil_append]
    rfl

/-- The values of an array stand in one pair of braces, if they are written at all. -/
theorem isDyck_arrayValuesLine (form : Form) {element values : Text} (hname : name.braces = [])
    (helement : element.braces = []) (hvalues : values.braces = []) :
    IsDyck (d.arrayValuesLine form name element values).braces := by
  have hpair : IsDyck [.U, .D] := IsDyck.nil.nest
  -- Where C++ cannot assign an array, a comment without the values stands in its place.
  cases d <;> cases form <;>
    simp only [arrayValuesLine, Text.braces_append, hname, helement, hvalues, List.nil_append,
      List.append_nil] <;> repeat rw [Text.braces_ofString]
  case cpp.assigning => exact .nil
  all_goals exact hpair

/-- An array of a given size has at most a pair of braces. -/
theorem isDyck_arraySizeLine (form : Form) {element size : Text} (hname : name.braces = [])
    (helement : element.braces = []) (hsize : size.braces = []) :
    IsDyck (d.arraySizeLine form name element size).braces := by
  have hpair : IsDyck [.U, .D] := IsDyck.nil.nest
  -- Only C++ clears a new array with an empty pair of braces.
  cases d <;> cases form <;>
    simp only [arraySizeLine, Text.braces_append, hname, helement, hsize, List.nil_append,
      List.append_nil] <;> repeat rw [Text.braces_ofString]
  case cpp.declaring => exact hpair
  all_goals exact .nil

/-- A value is printed without braces. -/
theorem braces_printLine (h : value.braces = []) : (d.printLine value).braces = [] := by
  cases d <;> simp only [printLine, Text.braces_append, h, List.append_nil] <;> rfl

/-- An object is made without braces. -/
theorem braces_createLine {var className : Text} {args : List Text} (hvar : var.braces = [])
    (hclass : className.braces = []) (hargs : ∀ t ∈ args, t.braces = []) :
    (d.createLine var className args).braces = [] := by
  have hlist : (commaList args).braces = [] := braces_commaList hargs
  cases d <;> simp only [createLine]
  -- Without arguments there are no parentheses either.
  case cpp =>
    split <;> simp only [Text.braces_append, hvar, hclass, hlist, List.nil_append, List.append_nil]
      <;> rfl
  all_goals
    simp only [Text.braces_append, hvar, hclass, hlist, List.nil_append, List.append_nil]
    rfl

/-- The header of a function or method holds no braces. -/
theorem braces_methodHeader (isMember : Bool) {params : List Param} (hname : name.braces = [])
    (hparams : ∀ p ∈ params, p.typeName.braces = [] ∧ p.name.braces = []) :
    (d.methodHeader isMember name params).braces = [] := by
  have hlist : (d.paramList params).braces = [] := by
    apply braces_commaList
    intro t ht
    obtain ⟨p, hp, rfl⟩ := List.mem_map.mp ht
    simp only [Text.braces_append, d.braces_typeOf (hparams p hp).1, (hparams p hp).2]
    rfl
  simp only [methodHeader, Text.braces_append, hname, hlist, List.append_nil]
  cases d <;> cases isMember <;> rfl

end Dialect

/-! ## Blocks -/

open Line (plain blank indent)

theorem isDyck_append {xs ys : List Line} (hx : IsDyck (Line.braces xs))
    (hy : IsDyck (Line.braces ys)) : IsDyck (Line.braces (xs ++ ys)) := by
  rw [Line.braces_append]
  exact hx.append hy

/-- A line without braces is balanced. -/
theorem isDyck_plain {text : Text} (h : text.braces = []) : IsDyck (Line.braces [plain text]) := by
  simpa [h] using IsDyck.nil

/-- The first line of a block opens a brace. -/
theorem braces_opened {text : Text} (h : text.braces = []) : (opened text).text.braces = [.U] := by
  simp only [opened, Line.text_plain, Text.braces_append, h, List.nil_append]
  rfl

theorem braces_closed : closed.text.braces = [.D] :=
  rfl

/-- The braces of a block stand around those of its body. -/
theorem braces_block {text : Text} (h : text.braces = []) (body : List Line) :
    Line.braces (block text body) = .U :: Line.braces body ++ [.D] := by
  simp [block, braces_opened h, braces_closed]

/-- A block with a balanced body is balanced. -/
theorem isDyck_block {text : Text} (h : text.braces = []) {body : List Line}
    (hbody : IsDyck (Line.braces body)) : IsDyck (Line.braces (block text body)) := by
  rw [braces_block h]
  exact hbody.nest

/-- So is a section of a switch, with or without braces around it. -/
theorem isDyck_caseBlock (d : Dialect) {label : Text} (h : label.braces = []) {body : List Line}
    (hbody : IsDyck (Line.braces body)) : IsDyck (Line.braces (caseBlock d label body)) := by
  have hbreak : IsDyck (Line.braces (body ++ [plain "break;"])) :=
    isDyck_append hbody (isDyck_plain rfl)
  unfold caseBlock
  -- In some dialects a section has braces of its own.
  split
  · exact isDyck_block h hbreak
  · rw [Line.braces_cons, Line.text_plain, h, Line.braces_indent]
    exact hbreak

/-- A class opens one brace in its header and closes it in its footer. -/
theorem isDyck_class (d : Dialect) {name base : Text} (hname : name.braces = [])
    (hbase : base.braces = []) {members : List Line} (hmembers : IsDyck (Line.braces members)) :
    IsDyck (Line.braces ((d.classHeader name base).map plain ++ indent members
      ++ [plain d.classFooter])) := by
  have hclause : ∀ introduction : String, Text.braces introduction = [] →
      (Dialect.baseClause introduction base).braces = [] := by
    intro introduction hintroduction
    unfold Dialect.baseClause
    split
    · rfl
    · simp [hintroduction, hbase]
  have hheader : Line.braces ((d.classHeader name base).map plain) = [.U] := by
    cases d <;>
      simp only [Dialect.classHeader, List.map_cons, List.map_nil, Line.braces_cons,
        Line.braces_nil, Line.text_plain, Text.braces_append, hname, List.append_nil]
    · rw [hclause " : " rfl]
      rfl
    · rw [hclause " : public " rfl]
      rfl
    · rw [hclause " extends " rfl]
      rfl
  have hfooter : Text.braces d.classFooter = [.D] := by cases d <;> rfl
  have hnest := hmembers.nest
  simpa [hheader, hfooter] using hnest

/-- The line between the two bodies of a branch closes one block and opens the other. -/
theorem isDyck_ifElse {text : Text} (h : text.braces = []) {body orElse : List Line}
    (hbody : IsDyck (Line.braces body)) (horElse : IsDyck (Line.braces orElse)) (isShort : Bool) :
    IsDyck (Line.braces (opened text :: indent body
      ++ (if isShort then [] else opened "\x7d else" :: indent orElse) ++ [closed])) := by
  have hbetween : (opened "\x7d else").text.braces = [.D, .U] := rfl
  cases isShort with
  -- Without a second body there is one block, and else there are two in a row.
  | true => simpa [braces_opened h, braces_closed] using hbody.nest
  | false => simpa [braces_opened h, hbetween, braces_closed] using hbody.nest.append horElse.nest

/-! ## Statements -/

/-- The name and the parameters of a function without braces. -/
theorem braces_of_braceFree_function {name : Text} {params : List Param}
    {body : List (Statement Form)} {id : Option Text}
    (h : (Statement.function name params body id).BraceFree) :
    name.braces = [] ∧ ∀ p ∈ params, p.typeName.braces = [] ∧ p.name.braces = [] := by
  refine ⟨h.braces name List.mem_cons_self, fun p hp => ?_⟩
  have hmem : ∀ t ∈ [p.typeName, p.name], t.braces = [] := by
    intro t ht
    exact h.braces t (List.mem_cons_of_mem _ (List.mem_flatMap.mpr ⟨p, hp, ht⟩))
  exact ⟨hmem _ (by simp), hmem _ (by simp)⟩

/-- As far as braces go, the members of a class are like the statements of a list. -/
theorem braces_linesMembers (d : Dialect) {ss : List (Statement Form)}
    (h : ∀ s ∈ ss, s.BraceFree) :
    Line.braces (linesMembers d ss) = Line.braces (linesAll d ss) := by
  induction ss with
  | nil => rfl
  | cons s rest ih =>
    have hrest := ih fun t ht => h t (List.mem_cons_of_mem _ ht)
    -- A method differs from the function in its header only.
    cases s with
    | function name params body id =>
      obtain ⟨hname, hparams⟩ := braces_of_braceFree_function (h _ List.mem_cons_self)
      rw [linesMembers, linesAll, lines, Line.braces_append, Line.braces_append, hrest,
        braces_block (d.braces_methodHeader true hname hparams),
        braces_block (d.braces_methodHeader false hname hparams)]
    | _ => simp [linesMembers, linesAll, hrest]

mutual

/-- The lines of a statement are balanced if its texts hold no braces. -/
theorem isDyck_lines (d : Dialect) :
    ∀ s : Statement Form, (∀ t ∈ s.walk, t.BraceFree) → IsDyck (Line.braces (lines d s))
  | .declare form name value dataType id, h => by
    obtain ⟨hname, hvalue, htype⟩ :
        name.braces = [] ∧ value.braces = [] ∧ dataType.braces = [] := by
      simpa [Statement.texts] using (h _ List.mem_cons_self).braces
    exact isDyck_plain (d.braces_variableLine form hname hvalue htype)
  | .update name value id, h => by
    obtain ⟨hname, hvalue⟩ : name.braces = [] ∧ value.braces = [] := by
      simpa [Statement.texts] using (h _ List.mem_cons_self).braces
    apply isDyck_plain
    simp only [Text.braces_append, hname, Dialect.braces_formatValue hvalue, List.nil_append]
    rfl
  | .arrayValues form name dataType values id, h => by
    obtain ⟨hname, htype, hvalues⟩ :
        name.braces = [] ∧ dataType.braces = [] ∧ ∀ t ∈ values, t.braces = [] := by
      simpa [Statement.texts] using (h _ List.mem_cons_self).braces
    have hlist : (Dialect.commaList (values.map (Dialect.formatValue · dataType))).braces = [] := by
      apply Dialect.braces_commaList
      intro t ht
      obtain ⟨value, hvalue, rfl⟩ := List.mem_map.mp ht
      exact Dialect.braces_formatValue (hvalues value hvalue)
    have hline := d.isDyck_arrayValuesLine form hname (d.braces_elementType htype) hlist
    simpa [lines] using hline
  | .arraySize form name dataType size id, h => by
    obtain ⟨hname, htype, hsize⟩ :
        name.braces = [] ∧ dataType.braces = [] ∧ size.braces = [] := by
      simpa [Statement.texts] using (h _ List.mem_cons_self).braces
    have hline := d.isDyck_arraySizeLine form hname (d.braces_elementType htype) hsize
    simpa [lines] using hline
  | .print value id, h => by
    have hvalue : value.braces = [] := by
      simpa [Statement.texts] using (h _ List.mem_cons_self).braces
    exact isDyck_plain (d.braces_printLine hvalue)
  | .ifElse condition body orElse id, h => by
    have hcondition : condition.braces = [] := by
      simpa [Statement.texts] using (h _ List.mem_cons_self).braces
    have hnested : ∀ t ∈ Statement.walkAll body ++ Statement.walkAll orElse, t.BraceFree :=
      fun t ht => h t (List.mem_cons_of_mem _ ht)
    have hbody := isDyck_linesAll d body fun t ht => hnested t (List.mem_append_left _ ht)
    have horElse := isDyck_linesAll d orElse fun t ht => hnested t (List.mem_append_right _ ht)
    refine isDyck_ifElse ?_ hbody horElse orElse.isEmpty
    simp only [Text.braces_append, hcondition, List.append_nil]
    rfl
  | .switch subject cases otherwise id, h => by
    obtain ⟨hsubject, hvalues⟩ :
        subject.braces = [] ∧ ∀ t ∈ cases.map (·.1), t.braces = [] := by
      have hfree := (h _ List.mem_cons_self).braces
      exact ⟨hfree _ List.mem_cons_self, fun t ht => hfree t (List.mem_cons_of_mem _ ht)⟩
    have hnested : ∀ t ∈ Statement.walkCases cases ++ Statement.walkAll otherwise, t.BraceFree :=
      fun t ht => h t (List.mem_cons_of_mem _ ht)
    have hcases := isDyck_linesCases d cases hvalues
      fun t ht => hnested t (List.mem_append_left _ ht)
    have hotherwise := isDyck_linesAll d otherwise
      fun t ht => hnested t (List.mem_append_right _ ht)
    rw [lines]
    apply isDyck_block
    · simp only [Text.braces_append, hsubject, List.append_nil]
      rfl
    · apply isDyck_append hcases
      split
      · exact .nil
      · exact isDyck_caseBlock d rfl hotherwise
  | .forRange var bound body id, h => by
    obtain ⟨hvar, hbound⟩ : var.braces = [] ∧ bound.braces = [] := by
      simpa [Statement.texts] using (h _ List.mem_cons_self).braces
    refine isDyck_block ?_ (isDyck_linesAll d body fun t ht => h t (List.mem_cons_of_mem _ ht))
    simp only [Text.braces_append, hvar, hbound, List.append_nil]
    rfl
  | .whileLoop condition body id, h => by
    have hcondition : condition.braces = [] := by
      simpa [Statement.texts] using (h _ List.mem_cons_self).braces
    refine isDyck_block ?_ (isDyck_linesAll d body fun t ht => h t (List.mem_cons_of_mem _ ht))
    simp only [Text.braces_append, hcondition, List.append_nil]
    rfl
  | .function name params body id, h => by
    obtain ⟨hname, hparams⟩ := braces_of_braceFree_function (h _ List.mem_cons_self)
    exact isDyck_block (d.braces_methodHeader false hname hparams)
      (isDyck_linesAll d body fun t ht => h t (List.mem_cons_of_mem _ ht))
  | .call name args id, h => by
    obtain ⟨hname, hargs⟩ : name.braces = [] ∧ ∀ t ∈ args, t.braces = [] := by
      simpa [Statement.texts] using (h _ List.mem_cons_self).braces
    apply isDyck_plain
    simp only [Text.braces_append, hname, Dialect.braces_commaList hargs, List.nil_append,
      List.append_nil]
    rfl
  | .classDef name base members id, h => by
    obtain ⟨hname, hbase⟩ : name.braces = [] ∧ base.braces = [] := by
      simpa [Statement.texts] using (h _ List.mem_cons_self).braces
    have hnested : ∀ t ∈ Statement.walkAll members, t.BraceFree :=
      fun t ht => h t (List.mem_cons_of_mem _ ht)
    have hmembers : ∀ t ∈ members, t.BraceFree := by
      intro t ht
      apply hnested
      rw [Statement.walkAll_eq_flatMap]
      exact List.mem_flatMap.mpr ⟨t, ht, List.mem_cons_self⟩
    apply isDyck_class d hname hbase
    rw [braces_linesMembers d hmembers]
    exact isDyck_linesAll d members hnested
  | .create var className args id, h => by
    obtain ⟨hvar, hclass, hargs⟩ :
        var.braces = [] ∧ className.braces = [] ∧ ∀ t ∈ args, t.braces = [] := by
      simpa [Statement.texts] using (h _ List.mem_cons_self).braces
    exact isDyck_plain (d.braces_createLine hvar hclass hargs)
  | .unknown kind data id, h => by
    have hkind : kind.braces = [] := by
      simpa [Statement.texts] using (h _ List.mem_cons_self).braces
    have hline : (d.placeholder kind).text.braces = [] := by
      simp only [Dialect.placeholder, Text.braces_append, hkind, List.append_nil]
      cases d <;> rfl
    simpa [lines, hline] using IsDyck.nil

/-- The lines of a list of statements are balanced. -/
theorem isDyck_linesAll (d : Dialect) :
    ∀ ss : List (Statement Form), (∀ t ∈ Statement.walkAll ss, t.BraceFree) →
      IsDyck (Line.braces (linesAll d ss))
  | [], _ => .nil
  | s :: rest, h => by
    exact isDyck_append (isDyck_lines d s fun t ht => h t (List.mem_append_left _ ht))
      (isDyck_linesAll d rest fun t ht => h t (List.mem_append_right _ ht))

/-- So are the lines of the cases of a switch. -/
theorem isDyck_linesCases (d : Dialect) :
    ∀ cases : List (Text × List (Statement Form)), (∀ t ∈ cases.map (·.1), t.braces = []) →
      (∀ t ∈ Statement.walkCases cases, t.BraceFree) → IsDyck (Line.braces (linesCases d cases))
  | [], _, _ => .nil
  | (value, body) :: rest, hvalues, h => by
    have hlabel : ("case " ++ value ++ ":" : Text).braces = [] := by
      simp only [Text.braces_append, hvalues value List.mem_cons_self, List.append_nil]
      rfl
    have hbody := isDyck_linesAll d body fun t ht => h t (List.mem_append_left _ ht)
    exact isDyck_append (isDyck_caseBlock d hlabel hbody)
      (isDyck_linesCases d rest (fun t ht => hvalues t (List.mem_cons_of_mem _ ht))
        fun t ht => h t (List.mem_append_right _ ht))

end

/-! ## Programs -/

/-- Empty lines between classes hold no braces. -/
theorem braces_classLines (d : Dialect) (ss : List (Statement Form)) :
    Line.braces (classLines d ss) = Line.braces (linesAll d ss) := by
  induction ss with
  | nil => rfl
  | cons s rest ih =>
    have hblank : blank.text.braces = [] := rfl
    cases rest with
    | nil => simp [classLines, linesAll]
    | cons t rest =>
      rw [classLines, linesAll, Line.braces_append, Line.braces_cons, hblank, ih,
        List.nil_append, Line.braces_append]
      exact fun h => List.cons_ne_nil t rest h

/-- Nor does the empty line after the classes. -/
theorem braces_classSection (d : Dialect) (ss : List (Statement Form)) :
    Line.braces (classSection d ss) = Line.braces (linesAll d ss) := by
  have hblank : Line.braces [blank] = [] := rfl
  unfold classSection
  split
  · rename_i hempty
    rw [List.isEmpty_iff.mp hempty]
    rfl
  · rw [Line.braces_append, hblank, List.append_nil, braces_classLines]

/-- Nor do those between functions. -/
theorem braces_functionLines (d : Dialect) (ss : List (Statement Form)) :
    Line.braces (functionLines d ss) = Line.braces (linesAll d ss) := by
  have hblank : blank.text.braces = [] := rfl
  induction ss with
  | nil => rfl
  | cons s rest ih =>
    rw [functionLines] at ih ⊢
    simp [linesAll, hblank, ih]

/-- The lines of a program are balanced if its texts hold no braces. -/
theorem isDyck_programLines (d : Dialect) {p : Program Form} (h : p.BraceFree) :
    IsDyck (Line.braces (programLines d p)) := by
  have hwalk : ∀ s ∈ Statement.walkAll p.classes ++ Statement.walkAll p.functions
      ++ Statement.walkAll p.body, s.BraceFree := by
    simpa [Program.BraceFree, Program.walk] using h
  have hclasses := isDyck_linesAll d p.classes
    fun s hs => hwalk s (List.mem_append_left _ (List.mem_append_left _ hs))
  have hfunctions := isDyck_linesAll d p.functions
    fun s hs => hwalk s (List.mem_append_left _ (List.mem_append_right _ hs))
  have hbody := isDyck_linesAll d p.body fun s hs => hwalk s (List.mem_append_right _ hs)
  rw [← braces_functionLines] at hfunctions
  -- The dialects put the parts of a program into different frames.
  cases d with
  | csharp =>
    rw [← braces_classSection] at hclasses
    refine isDyck_append .nil (isDyck_block ?_ (isDyck_append hclasses
      (isDyck_block ?_ (isDyck_append (isDyck_block ?_ hbody) hfunctions))))
    all_goals exact Text.braces_ofString _
  | java =>
    rw [← braces_classSection] at hclasses
    refine isDyck_append hclasses
      (isDyck_block ?_ (isDyck_append (isDyck_block ?_ hbody) hfunctions))
    all_goals exact Text.braces_ofString _
  | cpp =>
    rw [← braces_classLines] at hclasses
    have hsection : IsDyck (Line.braces
        (if p.classes.isEmpty then [] else blank :: classLines .cpp p.classes)) := by
      split
      · exact .nil
      · exact hclasses
    refine isDyck_append (isDyck_append (isDyck_append .nil hsection) hfunctions)
      (isDyck_block ?_ (isDyck_append hbody (isDyck_plain ?_)))
    all_goals exact Text.braces_ofString _

end Braces

/-- A statement of a marked program has the texts of one in the program. -/
theorem Program.exists_texts_of_mem_walk_mark {p : Program Unit} {inlineDefault blockScoped : Bool}
    {s : Statement Form} (hs : s ∈ (p.mark inlineDefault blockScoped).walk) :
    ∃ t ∈ p.walk, t.texts = s.texts := by
  have hwalk := Program.walk_unmark (p.mark inlineDefault blockScoped)
  rw [Program.unmark_mark] at hwalk
  exact ⟨s.unmark, hwalk ▸ List.mem_map_of_mem hs, s.texts_unmark⟩

/-- Marking a program brings no braces into its texts. -/
theorem Program.BraceFree.mark {p : Program Unit} (h : p.BraceFree)
    (inlineDefault blockScoped : Bool) : (p.mark inlineDefault blockScoped).BraceFree := by
  intro s hs u hu
  obtain ⟨t, ht, htexts⟩ := Program.exists_texts_of_mem_walk_mark hs
  exact h t ht u (htexts ▸ hu)

/-- The source code of a program in a brace language opens and closes its braces in balance,
whatever its blocks and however its variables are scoped, as long as no brace stands in one of its
texts. -/
theorem Program.balanced_source (d : Braces.Dialect) (blockScoped : Bool) (p : Program Unit)
    (h : p.BraceFree) : (p.source d.language blockScoped).Balanced := by
  apply IsDyck.balanced
  rw [Program.braces_source, p.lines_eq_programLines d blockScoped]
  exact Braces.isDyck_programLines d (h.mark false blockScoped)

/-- A program with braces of every origin: a class with a method, a switch with a default, a branch
with two bodies, a loop without statements, and both kinds of arrays. -/
def Program.manyBlocks : Program Unit where
  classes := [.classDef "Shape" "Base"
    [.function "area" [⟨"int", "n"⟩] [.arraySize () "xs" "int" "n" none] none,
      .declare () "side" "1" "int" none] none]
  body := [.switch "n"
    [("1", [.ifElse "a" [.arrayValues () "ys" "int" ["1", "2"] none] [.print "b" none] none])]
    [.whileLoop "c" [] none] none]

/-- All of these blocks in C++, with variables that are scoped by block. -/
theorem Program.balanced_source_manyBlocks :
    manyBlocks.BraceFree ∧ (manyBlocks.source .cpp true).Balanced := by
  have h : manyBlocks.BraceFree := by decide
  exact ⟨h, balanced_source .cpp true manyBlocks h⟩

end BlockFlow
