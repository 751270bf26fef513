import BlockFlow.Proofs.Program.RoundTrip
import BlockFlow.Proofs.Source.Clauses

/-!
# Loaded programs

A loaded program holds only what the reader makes of saved statements (`exists_ofJson_of_mem_walk`).
Only the empty string stands for the empty text, so the reader's defaults leave a single gap: an
object whose type is the empty string becomes an unknown statement without a kind. Every other
statement of a loaded program can be saved and read back (`Program.loadable_or_untyped`).
-/

namespace BlockFlow

/-! ## Values that stand for the empty text -/

namespace Decimal

/-- Digits are laid out to a text that is not empty, even if there are none. -/
theorem layOut_ne_nil (layout : Layout) (digits : List Char) (e : Int) :
    layOut layout digits e ≠ [] := by
  unfold layOut
  -- There is the mark of an exponent, or else a point.
  split
  · simp
  · split <;> simp

/-- Every number has a text, as long as infinity and what is not a number have one. -/
theorem floatText_ne_empty {layout : Layout} (hinfinity : layout.infinity ≠ "")
    (hnan : layout.notANumber ≠ "") (x : Float) : floatText layout x ≠ "" := by
  simp only [floatText]
  split
  · exact hnan
  · split
    · simp [hinfinity]
    · split
      · simp
      · simp [layOut_ne_nil]

end Decimal

namespace Json

/-- Every whole number has a text. -/
theorem repr_ne_empty (n : Int) : n.repr ≠ "" := by
  cases n with
  | ofNat m => exact Nat.repr_ne_empty
  | negSucc m =>
    intro h
    exact Nat.repr_ne_empty (String.append_eq_empty_iff.1 h).2

/-- Only the empty string stands for the empty text. -/
theorem text_eq_nil_iff (j : Json) : j.text = [] ↔ j = .str [] := by
  cases j with
  | null => simp [text, shown]
  | bool b => cases b <;> simp [text, shown]
  | int n => simp [text, shown, repr_ne_empty]
  | float x => simp [text, shown, Decimal.floatText_ne_empty, Decimal.Layout.plain]
  | str s => simp [text]
  | arr items => simp [text, shown]
  | obj fields => simp [text, shown]

/-- A value that counts as filled does not stand for the empty text. -/
theorem text_ne_nil_of_isFilled {j : Json} (h : j.isFilled = true) : j.text ≠ [] := by
  intro hnil
  rw [(text_eq_nil_iff j).1 hnil] at h
  cases h

end Json

namespace Statement

/-! ## Statements of loaded programs -/

/-- A loaded parameter has a type and a name. -/
theorem filled_of_paramOfJson? {j : Json} {p : Param} (h : paramOfJson? j = some p) :
    p.typeName ≠ "" ∧ p.name ≠ "" := by
  cases j with
  | obj fields =>
    simp only [paramOfJson?] at h
    -- Without a name there is no parameter, and without a type it gets the default one.
    split at h
    case isTrue hname =>
      obtain rfl := Option.some.inj h
      refine ⟨?_, Json.text_ne_nil_of_isFilled hname⟩
      dsimp only
      split
      case isTrue htype => exact Json.text_ne_nil_of_isFilled htype
      case isFalse => simp
    case isFalse => cases h
  | _ => cases h

/-- So has every parameter of a loaded list. -/
theorem filled_of_mem_paramsAt {fields : Json.Fields} {key : Text} {p : Param}
    (h : p ∈ paramsAt fields key) : p.typeName ≠ "" ∧ p.name ≠ "" := by
  unfold paramsAt at h
  split at h
  · obtain ⟨item, -, hitem⟩ := List.mem_filterMap.1 h
    exact filled_of_paramOfJson? hitem
  · cases h

/-- Every type of value has a name. -/
theorem typeName_ne_empty (j : Json) : Text.ofString j.typeName ≠ "" := by
  cases j <;> simp [Json.typeName]

/-- A loaded statement can be read back, unless it is an object whose type is the empty string. -/
theorem loadable_ofJson (j : Json) : (ofJson j).Loadable ∨
    ∃ fields, Json.Fields.get fields "type" = .str [] ∧
      ofJson j = .unknown [] fields (idOf fields) := by
  cases j with
  | obj fields =>
    rw [ofJson]
    -- A type that is no tag is the kind of the statement, and it may be the empty string.
    cases Tag.ofJson? (Json.Fields.get fields "type") with
    | none =>
      by_cases htype : (Json.Fields.get fields "type").text = []
      · exact .inr ⟨fields, (Json.text_eq_nil_iff _).1 htype, by rw [htype]⟩
      · exact .inl htype
    | some tag =>
      left
      cases tag with
      | function => exact fun p hp => filled_of_mem_paramsAt hp
      | unknown =>
        by_cases hkind : Json.Fields.text fields "kind" = "" <;> simp [Loadable, hkind]
      | _ => trivial
  | _ => exact .inl (typeName_ne_empty _)

mutual

/-- Whatever is nested in a loaded statement was loaded too. -/
theorem exists_ofJson_of_mem_nested (t : Statement Unit) :
    ∀ j : Json, t ∈ nested (ofJson j) → ∃ item, t = ofJson item
  | .obj fields, h => by
    rw [ofJson] at h
    cases htag : Tag.ofJson? (Json.Fields.get fields "type") with
    | none =>
      rw [htag] at h
      cases h
    | some tag =>
      rw [htag] at h
      cases tag with
      | ifElse =>
        rcases List.mem_append.1 h with h | h
        · exact exists_ofJson_of_mem_statementsAt t "body" fields h
        · exact exists_ofJson_of_mem_statementsAt t "elseBody" fields h
      | switch =>
        rcases List.mem_append.1 h with h | h
        · exact exists_ofJson_of_mem_casesAt t "cases" fields h
        · exact exists_ofJson_of_mem_statementsAt t "defaultBody" fields h
      | forRange | whileLoop | function =>
        exact exists_ofJson_of_mem_statementsAt t "body" fields h
      | classDef => exact exists_ofJson_of_mem_statementsAt t "members" fields h
      | _ => cases h
  | .null, h | .bool _, h | .int _, h | .float _, h | .str _, h | .arr _, h => by cases h
termination_by structural j => j

/-- Whatever stands in a list that was loaded from a field was loaded too. -/
theorem exists_ofJson_of_mem_statementsAt (t : Statement Unit) (key : Text) :
    ∀ fields : List (Text × Json), t ∈ walkAll (statementsAt key fields) → ∃ item, t = ofJson item
  | (k, value) :: rest, h => by
    rw [statementsAt] at h
    split at h
    · exact exists_ofJson_of_mem_statements t value h
    · exact exists_ofJson_of_mem_statementsAt t key rest h
  | [], h => by cases h
termination_by structural fields => fields

/-- The list may be any value; only an array holds statements. -/
theorem exists_ofJson_of_mem_statements (t : Statement Unit) :
    ∀ j : Json, t ∈ walkAll (statements j) → ∃ item, t = ofJson item
  | .arr items, h => exists_ofJson_of_mem_ofJsonAll t items h
  | .null, h | .bool _, h | .int _, h | .float _, h | .str _, h | .obj _, h => by cases h
termination_by structural j => j

/-- Each item of an array is a loaded statement, with what is nested in it. -/
theorem exists_ofJson_of_mem_ofJsonAll (t : Statement Unit) :
    ∀ items : List Json, t ∈ walkAll (ofJsonAll items) → ∃ item, t = ofJson item
  | item :: rest, h => by
    rw [ofJsonAll, walkAll, List.mem_append, List.mem_cons] at h
    rcases h with (rfl | h) | h
    · exact ⟨item, rfl⟩
    · exact exists_ofJson_of_mem_nested t item h
    · exact exists_ofJson_of_mem_ofJsonAll t rest h
  | [], h => by cases h
termination_by structural items => items

/-- Whatever stands in a case that was loaded from a field was loaded too. -/
theorem exists_ofJson_of_mem_casesAt (t : Statement Unit) (key : Text) :
    ∀ fields : List (Text × Json), t ∈ walkCases (casesAt key fields) → ∃ item, t = ofJson item
  | (k, value) :: rest, h => by
    rw [casesAt] at h
    split at h
    · exact exists_ofJson_of_mem_cases t value h
    · exact exists_ofJson_of_mem_casesAt t key rest h
  | [], h => by cases h
termination_by structural fields => fields

/-- The cases may be any value; only an array holds some. -/
theorem exists_ofJson_of_mem_cases (t : Statement Unit) :
    ∀ j : Json, t ∈ walkCases (cases j) → ∃ item, t = ofJson item
  | .arr items, h => exists_ofJson_of_mem_ofJsonCases t items h
  | .null, h | .bool _, h | .int _, h | .float _, h | .str _, h | .obj _, h => by cases h
termination_by structural j => j

/-- Each case is an object with a list of statements; other items are passed over. -/
theorem exists_ofJson_of_mem_ofJsonCases (t : Statement Unit) :
    ∀ items : List Json, t ∈ walkCases (ofJsonCases items) → ∃ item, t = ofJson item
  | .obj fields :: rest, h => by
    rw [ofJsonCases, walkCases, List.mem_append] at h
    rcases h with h | h
    · exact exists_ofJson_of_mem_statementsAt t "body" fields h
    · exact exists_ofJson_of_mem_ofJsonCases t rest h
  | .null :: rest, h | .bool _ :: rest, h | .int _ :: rest, h | .float _ :: rest, h
  | .str _ :: rest, h | .arr _ :: rest, h => exists_ofJson_of_mem_ofJsonCases t rest h
  | [], h => by cases h
termination_by structural items => items

end

end Statement

namespace Program

/-- Every statement of a loaded program was loaded. -/
theorem exists_ofJson_of_mem_walk {j : Json} {p : Program Unit} (h : ofJson j = .ok p)
    {t : Statement Unit} (ht : t ∈ p.walk) : ∃ item, t = Statement.ofJson item := by
  unfold ofJson at h
  split at h
  case h_1 fields =>
    split at h
    case isTrue =>
      obtain rfl := Except.ok.inj h
      simp only [walk, Statement.walkAll_append, List.mem_append] at ht
      -- All three lists were loaded from a field.
      rcases ht with (ht | ht) | ht
      · exact Statement.exists_ofJson_of_mem_statementsAt t _ fields ht
      · exact Statement.exists_ofJson_of_mem_statementsAt t _ fields ht
      · exact Statement.exists_ofJson_of_mem_statementsAt t _ fields ht
    case isFalse => cases h
  case h_2 => cases h

/-- Every statement of a loaded program can be read back, unless it is unknown and was an object
whose type is the empty string. -/
theorem loadable_or_untyped {j : Json} {p : Program Unit} (h : ofJson j = .ok p)
    {t : Statement Unit} (ht : t ∈ p.walk) : t.Loadable ∨
      ∃ data id, t = .unknown [] data id ∧ Json.Fields.get data "type" = .str [] := by
  obtain ⟨item, rfl⟩ := exists_ofJson_of_mem_walk h ht
  rcases Statement.loadable_ofJson item with hloadable | ⟨fields, htype, hitem⟩
  · exact .inl hloadable
  · exact .inr ⟨fields, Statement.idOf fields, hitem, htype⟩

end Program

end BlockFlow
