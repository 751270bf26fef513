import BlockFlow.Json.Basic

/-!
# The form of requests

The body of a request is an object, and each request has fields of its own. A check gives the part
of the body that counts, or every value of the body that does not fit. All parts are checked, so a
body with several faults is rejected for all of them. How the fields of a request are checked is a
value of its own (`Checks`), so that the answers can be studied for every such value; the one that
requests are answered with is `Checks.standard`.
-/

namespace BlockFlow.Service

/-- The outcome of a check: a value, or what was rejected. -/
abbrev Checked (α : Type) := Except (List Json) α

/-- Two checks that do not depend on each other. -/
def Checked.both {α β : Type} (a : Checked α) (b : Checked β) : Checked (α × β) :=
  match a, b with
  | .ok x, .ok y => .ok (x, y)
  | .ok _, .error rejected => .error rejected
  | .error rejected, .ok _ => .error rejected
  | .error rejected, .error others => .error (rejected ++ others)

/-- The check of every item of a list. -/
def Checked.each {α : Type} (check : Json → Checked α) : List Json → Checked (List α)
  | [] => .ok []
  | item :: rest => (Checked.both (check item) (each check rest)).map fun both => both.1 :: both.2

/-- How the fields of a request are checked. -/
structure Checks where
  /-- The blocks and arrows of a request. -/
  diagram : Json.Fields → Checked (List Json × List Json)
  /-- The name of a language. -/
  language : Json.Fields → Checked Text

/-- Several checks pass only together, and then with one value each. -/
theorem Checked.both_eq_ok {α β : Type} {a : Checked α} {b : Checked β} {x : α} {y : β} :
    a.both b = .ok (x, y) ↔ a = .ok x ∧ b = .ok y := by
  cases a <;> cases b <;> simp [both]

/-! ## Values -/

/-- An id: a text, or a whole number in any notation. A number with a fraction part of zero counts
if it fits into 64 bits. -/
def idOf : Json → Checked Json
  | .str s => .ok (.str s)
  | .int n => .ok (.int n)
  | .bool b => .ok (.int (if b then 1 else 0))
  | .float x =>
    if x.floor == x && x.abs < 9223372036854775808.0 then .ok (.int x.toInt64.toInt)
    else .error [.float x]
  | j => .error [j]

/-- A text. -/
def textOf : Json → Checked Text
  | .str s => .ok s
  | j => .error [j]

/-- A text or null. -/
def textOrNull : Json → Checked Json
  | .null => .ok .null
  | j => (textOf j).map .str

/-- An id or null. -/
def idOrNull : Json → Checked Json
  | .null => .ok .null
  | j => idOf j

/-- An object. -/
def objectOf : Json → Checked Json.Fields
  | .obj fields => .ok fields
  | j => .error [j]

/-- A list. -/
def listOf : Json → Checked (List Json)
  | .arr items => .ok items
  | j => .error [j]

/-! ## Fields -/

/-- A field that has to be there. Without it the whole object is rejected. -/
def required {α : Type} (check : Json → Checked α) (fields : Json.Fields) (key : Text) :
    Checked α :=
  match Json.Fields.get? fields key with
  | some value => check value
  | none => .error [.obj fields]

/-- A field that may be missing. -/
def optional {α : Type} (default : α) (check : Json → Checked α) (fields : Json.Fields)
    (key : Text) : Checked α :=
  match Json.Fields.get? fields key with
  | some value => check value
  | none => .ok default

/-- A block of a request, with only the fields that count. -/
def nodeOf (j : Json) : Checked Json := do
  let fields ← objectOf j
  let checked :=
    (required idOf fields "id").both
      ((optional .null textOrNull fields "type").both (optional [] objectOf fields "data"))
  checked.map fun (id, typeName, data) =>
    .obj [("id", id), ("type", typeName), ("data", .obj data)]

/-- An arrow of a request, with only the fields that count. -/
def edgeOf (j : Json) : Checked Json := do
  let fields ← objectOf j
  let ends := (required idOf fields "source").both (required idOf fields "target")
  let handles :=
    (optional .null textOrNull fields "sourceHandle").both
      (optional .null textOrNull fields "targetHandle")
  let checked := (optional .null idOrNull fields "id").both (ends.both handles)
  checked.map fun (id, (source, target), sourceHandle, targetHandle) =>
    .obj [("id", id), ("source", source), ("target", target),
      ("sourceHandle", sourceHandle), ("targetHandle", targetHandle)]

/-- The blocks and arrows of a request; there are none where the list is missing. -/
def diagramOf (fields : Json.Fields) : Checked (List Json × List Json) :=
  let items (entry : Json → Checked Json) (j : Json) : Checked (List Json) :=
    listOf j >>= Checked.each entry
  (optional [] (items nodeOf) fields "nodes").both (optional [] (items edgeOf) fields "edges")

/-- The language of a request. -/
def languageOf (fields : Json.Fields) : Checked Text :=
  required textOf fields "language"

/-- The checks of the fields as they are described above. -/
def Checks.standard : Checks where
  diagram := diagramOf
  language := languageOf

end BlockFlow.Service
