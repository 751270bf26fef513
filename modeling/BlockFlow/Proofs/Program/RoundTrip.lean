import BlockFlow.Program.Codec
import Mathlib.Data.List.Basic

/-!
# Saving and loading programs

A saved program is read back as it was unless one of the reader's defaults takes hold: a parameter
without a name is dropped, a parameter without a type gets one, and so does an unknown statement
without a kind. No other default loses anything, because the writer never leaves out a field that
the reader would fill in differently.
-/

namespace BlockFlow

/-- Two strings that give the same text are the same. -/
@[simp]
theorem Text.ofString_inj {s t : String} : Text.ofString s = Text.ofString t ↔ s = t := by
  constructor
  · intro h
    simpa using congrArg Text.string? h
  · rintro rfl
    rfl

namespace Json.Fields

@[simp]
theorem has_nil (key : Text) : has [] key = false :=
  rfl

@[simp]
theorem has_cons (k key : Text) (value : Json) (rest : Fields) :
    has ((k, value) :: rest) key = (decide (k = key) || has rest key) := by
  by_cases h : k = key
  · simp [has, get?, h]
  · have hne : (key == k) = false := beq_false_of_ne (Ne.symm h)
    simp [has, get?, List.lookup_cons, h, hne]

/-- The text of a field that is given as a string. -/
@[simp]
theorem text_cons_str (key s : Text) (rest : Fields) : text ((key, .str s) :: rest) key = s := by
  simp [text, get_cons, Json.text]

/-- A field with another key does not matter. -/
@[simp]
theorem text_cons_of_ne {k key : Text} (h : k ≠ key) (value : Json) (rest : Fields) :
    text ((k, value) :: rest) key = text rest key := by
  simp [text, get_cons, h]

/-- A field that the first of two lists does not have is one of the second. -/
theorem get_append_of_not_has {fields : Fields} {key : Text} (h : has fields key = false)
    (rest : Fields) : get (fields ++ rest) key = get rest key := by
  have hnone : fields.lookup key = none := by simpa [has, get?] using h
  simp [get, get?, List.lookup_append, hnone]

end Json.Fields

/-- Every tag is read back from its name. -/
@[simp]
theorem Tag.ofJson?_name (tag : Tag) : Tag.ofJson? (.str tag.name) = some tag := by
  cases tag <;> simp [Tag.ofJson?, Tag.name, Tag.ofName?]

namespace Statement

/-! ## Fields of saved statements -/

/-- The id of a saved statement is read back, also when it has none. -/
theorem idOf_saved (tag : Tag) {fields : Json.Fields} (h : Json.Fields.has fields "id" = false)
    (id : Option Text) : idOf (("type", .str tag.name) :: (fields ++ idFields id)) = id := by
  unfold idOf
  rw [Json.Fields.get_cons, if_neg (by simp), Json.Fields.get_append_of_not_has h]
  cases id <;> simp [idFields, Json.Fields.get_cons, Json.text]

/-- A base class is not saved as an id. -/
@[simp]
theorem has_baseFields (base : Text) : Json.Fields.has (baseFields base) "id" = false := by
  unfold baseFields
  split <;> simp

/-- A class without a base class is read back without one. -/
@[simp]
theorem text_baseFields (base : Text) (id : Option Text) :
    Json.Fields.text (baseFields base ++ idFields id) "inherits" = base := by
  unfold baseFields
  by_cases h : base = ""
  · cases id <;> simp [h, idFields, Json.Fields.text, Json.Fields.get_cons]
  · simp [h]

/-! ## What is read back -/

/-- A list of statements as it is read back. -/
def reloadAll (ss : List (Statement Unit)) : List (Statement Unit) :=
  ofJsonAll (toJsonAll ss)

/-- The cases of a switch as they are read back. -/
def reloadCases (cases : List (Text × List (Statement Unit))) :
    List (Text × List (Statement Unit)) :=
  ofJsonCases (toJsonCases cases)

/-- A parameter as it is read back, if it is. -/
def reloadParam? (p : Param) : Option Param :=
  if p.name = "" then none else some ⟨if p.typeName = "" then "var" else p.typeName, p.name⟩

/-- A statement as it is read back. -/
def reload : Statement Unit → Statement Unit
  | .ifElse condition body orElse id =>
    .ifElse condition (reloadAll body) (reloadAll orElse) id
  | .switch subject cases otherwise id =>
    .switch subject (reloadCases cases) (reloadAll otherwise) id
  | .forRange var bound body id => .forRange var bound (reloadAll body) id
  | .whileLoop condition body id => .whileLoop condition (reloadAll body) id
  | .function name params body id =>
    .function name (params.filterMap reloadParam?) (reloadAll body) id
  | .classDef name base members id => .classDef name base (reloadAll members) id
  | .unknown kind data id => .unknown (if kind = "" then "unknown" else kind) data id
  | s => s

/-- A string is filled if it is not empty. -/
theorem isFilled_str (s : Text) : (Json.str s).isFilled = !decide (s = "") := by
  have hempty : Text.ofString "" = [] := rfl
  cases s <;> simp [Json.isFilled, hempty]

/-- A saved parameter is read back as `reloadParam?` says. -/
theorem paramOfJson?_paramJson (p : Param) : paramOfJson? (paramJson p) = reloadParam? p := by
  by_cases hname : p.name = "" <;> by_cases htype : p.typeName = "" <;>
    simp [paramOfJson?, paramJson, reloadParam?, Json.Fields.get_cons, Json.text, isFilled_str,
      hname, htype]

/-- Reading a saved statement only changes what `reload` says. -/
theorem ofJson_toJson (s : Statement Unit) : ofJson (toJson s) = s.reload := by
  -- The tag is recognised and the id is last, so each field is looked up among the others.
  cases s <;> rw [toJson, saved, ofJson, idOf_saved _ (by simp)] <;>
    simp [reload, reloadAll, reloadCases, Json.Fields.get_cons, statementsAt_eq, statements,
      casesAt_eq, cases, textsAt, textsJson, Json.text, Function.comp_def, paramsAt,
      paramOfJson?_paramJson, dataOf]

theorem reloadAll_cons (s : Statement Unit) (rest : List (Statement Unit)) :
    reloadAll (s :: rest) = s.reload :: reloadAll rest := by
  rw [reloadAll, toJsonAll, ofJsonAll, ofJson_toJson, reloadAll]

theorem reloadCases_cons (value : Text) (body : List (Statement Unit))
    (rest : List (Text × List (Statement Unit))) :
    reloadCases ((value, body) :: rest) = (value, reloadAll body) :: reloadCases rest := by
  simp [reloadCases, reloadAll, toJsonCases, ofJsonCases, statementsAt_eq, statements,
    Json.Fields.get_cons]

/-! ## What is read back as it was -/

/-- Whether a statement, its nested ones aside, can be told from its saved form. -/
def Loadable {δ : Type} : Statement δ → Prop
  | .function _ params _ _ => ∀ p ∈ params, p.typeName ≠ "" ∧ p.name ≠ ""
  | .unknown kind _ _ => kind ≠ ""
  | _ => True

/-- A parameter is read back as it was exactly when it has a type and a name. -/
theorem reloadParam?_eq_some_iff (p : Param) :
    reloadParam? p = some p ↔ p.typeName ≠ "" ∧ p.name ≠ "" := by
  obtain ⟨typeName, name⟩ := p
  unfold reloadParam?
  -- Without a name nothing is read back, and without a type another one.
  by_cases hname : name = ""
  · simp [hname]
  · by_cases htype : typeName = ""
    · simp [hname, htype]
    · simp [hname, htype]

/-- So are all parameters of a function. -/
theorem filterMap_reloadParam?_eq_iff (params : List Param) :
    params.filterMap reloadParam? = params ↔ ∀ p ∈ params, p.typeName ≠ "" ∧ p.name ≠ "" := by
  have hmap := List.filterMap_eq_map_iff_forall_eq_some (f := reloadParam?) (g := fun p => p)
    (l := params)
  rw [List.map_id'] at hmap
  rw [hmap]
  constructor
  · intro h p hp
    exact (reloadParam?_eq_some_iff p).1 (h p hp)
  · intro h p hp
    exact (reloadParam?_eq_some_iff p).2 (h p hp)

mutual

/-- A statement is read back as it was exactly when it and all its nested statements can be. -/
theorem reload_eq_iff : ∀ s : Statement Unit, s.reload = s ↔ ∀ t ∈ s.walk, t.Loadable
  | .ifElse _ body orElse _ => by
    simp [reload, walk, nested, Loadable, reloadAll_eq_iff body, reloadAll_eq_iff orElse, or_imp,
      forall_and]
  | .switch _ cases otherwise _ => by
    simp [reload, walk, nested, Loadable, reloadCases_eq_iff cases, reloadAll_eq_iff otherwise,
      or_imp, forall_and]
  | .forRange _ _ body _ | .whileLoop _ body _ | .classDef _ _ body _ => by
    simp [reload, walk, nested, Loadable, reloadAll_eq_iff body]
  | .function _ params body _ => by
    simp [reload, walk, nested, Loadable, filterMap_reloadParam?_eq_iff, reloadAll_eq_iff body]
  | .unknown kind _ _ => by
    by_cases h : kind = ""
    · simp [reload, walk, nested, Loadable, h]
    · simp [reload, walk, nested, Loadable, h]
  | .declare .. | .update .. | .arrayValues .. | .arraySize .. | .print .. | .call ..
  | .create .. => by
    simp [reload, walk, nested, Loadable]

/-- A list of statements is read back as it was exactly when all of them can be. -/
theorem reloadAll_eq_iff :
    ∀ ss : List (Statement Unit), reloadAll ss = ss ↔ ∀ t ∈ walkAll ss, t.Loadable
  | [] => by simp [reloadAll, toJsonAll, ofJsonAll, walkAll]
  | s :: rest => by
    simp [reloadAll_cons, walkAll, reload_eq_iff s, reloadAll_eq_iff rest, walk, or_imp, forall_and,
      and_assoc]

/-- So are the cases of a switch. -/
theorem reloadCases_eq_iff : ∀ cases : List (Text × List (Statement Unit)),
    reloadCases cases = cases ↔ ∀ t ∈ walkCases cases, t.Loadable
  | [] => by simp [reloadCases, toJsonCases, ofJsonCases, walkCases]
  | (value, body) :: rest => by
    simp [reloadCases_cons, walkCases, reloadAll_eq_iff body, reloadCases_eq_iff rest, or_imp,
      forall_and]

end

end Statement

namespace Program

/-- Reading a saved program reads each of its three lists. -/
theorem ofJson_toJson (p : Program Unit) :
    ofJson p.toJson = .ok {
      classes := Statement.reloadAll p.classes
      functions := Statement.reloadAll p.functions
      body := Statement.reloadAll p.body } := by
  simp [toJson, ofJson, Statement.statementsAt_eq, Statement.statements, Statement.reloadAll,
    Json.Fields.get_cons]

/-- The lists of a program are read back as they were exactly when all its statements can be. -/
theorem reloadAll_eq_iff (p : Program Unit) :
    (Statement.reloadAll p.classes = p.classes ∧
      Statement.reloadAll p.functions = p.functions ∧ Statement.reloadAll p.body = p.body) ↔
      ∀ s ∈ p.walk, s.Loadable := by
  simp [walk, Statement.reloadAll_eq_iff, or_imp, forall_and]

/-- A program whose statements can all be read back is read back as it was. -/
theorem ofJson_toJson_of_loadable {p : Program Unit} (h : ∀ s ∈ p.walk, s.Loadable) :
    ofJson p.toJson = .ok p := by
  obtain ⟨hclasses, hfunctions, hbody⟩ := (reloadAll_eq_iff p).2 h
  rw [ofJson_toJson, hclasses, hfunctions, hbody]

/-- A saved program is read back as it was exactly when all its parameters have a type and a name
and all its unknown statements a kind. -/
theorem ofJson_toJson_eq_iff (p : Program Unit) :
    ofJson p.toJson = .ok p ↔ ∀ s ∈ p.walk, s.Loadable := by
  constructor
  · intro h
    have heq := Except.ok.inj ((ofJson_toJson p).symm.trans h)
    refine (reloadAll_eq_iff p).1 ⟨?_, ?_, ?_⟩
    · exact congrArg classes heq
    · exact congrArg functions heq
    · exact congrArg body heq
  · exact ofJson_toJson_of_loadable

end Program

end BlockFlow
