import BlockFlow.Text.Basic

/-!
# JSON values

Values as the editor sends them. Integers and other numbers are kept apart, because they read
differently as text, and the fields of an object keep the order in which they were written.
-/

namespace BlockFlow

/-- A JSON value. -/
inductive Json where
  | null
  | bool (b : Bool)
  | int (n : Int)
  | float (x : Float)
  | str (s : Text)
  | arr (items : List Json)
  | obj (fields : List (Text × Json))
deriving Inhabited

namespace Json

/-- The fields of an object, in the order in which they were written. -/
abbrev Fields := List (Text × Json)

/-- The value of a field, if it is there. -/
def Fields.get? (fields : Fields) (key : Text) : Option Json :=
  fields.lookup key

/-- The value of a field; a field that is missing reads as null. -/
def Fields.get (fields : Fields) (key : Text) : Json :=
  (Fields.get? fields key).getD .null

@[simp]
theorem Fields.get_nil (key : Text) : Fields.get [] key = .null :=
  rfl

/-- A field is the first one with its key. -/
theorem Fields.get_cons (k key : Text) (value : Json) (rest : Fields) :
    Fields.get ((k, value) :: rest) key = if k = key then value else Fields.get rest key := by
  by_cases h : k = key
  · simp [Fields.get, Fields.get?, h]
  · have hne : (key == k) = false := by simpa using Ne.symm h
    simp [Fields.get, Fields.get?, List.lookup_cons, h, hne]

/-- Whether a field is present, be it null or not. -/
def Fields.has (fields : Fields) (key : Text) : Bool :=
  (Fields.get? fields key).isSome

/-- Sets a field: a known key keeps its place and takes the new value, a new key goes to the end. -/
def Fields.set (fields : Fields) (key : Text) (value : Json) : Fields :=
  match fields with
  | [] => [(key, value)]
  | (k, v) :: rest => if k == key then (k, value) :: rest else (k, v) :: Fields.set rest key value

/-- A field of a value; what is not an object has none. -/
def get (j : Json) (key : Text) : Json :=
  match j with
  | .obj fields => Fields.get fields key
  | _ => .null

/-- Whether a value is an object. -/
def isObject : Json → Bool
  | .obj _ => true
  | _ => false

/-- Whether a value counts as filled in: null, false, zero and whatever is empty do not. -/
def isFilled : Json → Bool
  | .null => false
  | .bool b => b
  | .int n => n ≠ 0
  | .float x => x != 0.0
  | .str s => !s.isEmpty
  | .arr items => !items.isEmpty
  | .obj fields => !fields.isEmpty

/-- A text as a value, null when there is none. -/
def ofText? : Option Text → Json
  | none => .null
  | some s => .str s

/-! ## Equality -/

mutual

/-- Whether two values are the same, fields in the same order. -/
def same : Json → Json → Bool
  | .null, .null => true
  | .bool a, .bool b => a == b
  | .int a, .int b => a == b
  | .float a, .float b => decide (a = b)
  | .str a, .str b => a == b
  | .arr a, .arr b => sameItems a b
  | .obj a, .obj b => sameFields a b
  | _, _ => false

/-- Whether two lists hold the same values. -/
def sameItems : List Json → List Json → Bool
  | [], [] => true
  | a :: as, b :: bs => same a b && sameItems as bs
  | _, _ => false

/-- Whether two field lists are the same. -/
def sameFields : List (Text × Json) → List (Text × Json) → Bool
  | [], [] => true
  | (k, a) :: as, (l, b) :: bs => k == l && same a b && sameFields as bs
  | _, _ => false

end

mutual

/-- Comparing values decides their equality. -/
theorem same_iff_eq : ∀ a b : Json, same a b = true ↔ a = b
  | .null, b => by cases b <;> simp [same]
  | .bool _, b => by cases b <;> simp [same]
  | .int _, b => by cases b <;> simp [same]
  | .float _, b => by cases b <;> simp [same]
  | .str _, b => by cases b <;> simp [same]
  | .arr items, b => by cases b <;> simp [same, sameItems_iff_eq items]
  | .obj fields, b => by cases b <;> simp [same, sameFields_iff_eq fields]

/-- So it does for the items of lists. -/
theorem sameItems_iff_eq : ∀ as bs : List Json, sameItems as bs = true ↔ as = bs
  | [], bs => by cases bs <;> simp [sameItems]
  | a :: as, bs => by cases bs <;> simp [sameItems, same_iff_eq a, sameItems_iff_eq as]

/-- So it does for the fields of objects. -/
theorem sameFields_iff_eq : ∀ as bs : List (Text × Json), sameFields as bs = true ↔ as = bs
  | [], bs => by cases bs <;> simp [sameFields]
  | (k, a) :: as, bs => by
    rcases bs with _ | ⟨⟨l, b⟩, bs⟩ <;>
      simp [sameFields, same_iff_eq a, sameFields_iff_eq as]

end

instance : DecidableEq Json := fun a b => decidable_of_iff _ (same_iff_eq a b)

end Json

end BlockFlow
