import BlockFlow.Json.Basic
import BlockFlow.Text.Utf8

/-!
# Sending values

What becomes of a JSON value on its way out of the service. A number that is not finite is sent as
null, and a text with a surrogate cannot be sent at all.
-/

namespace BlockFlow.Service

mutual

/-- A value as it is sent. -/
def sendable : Json → Json
  | .float x => if x.isFinite then .float x else .null
  | .arr items => .arr (sendableItems items)
  | .obj fields => .obj (sendableFields fields)
  | j => j

/-- The items of a list as they are sent. -/
def sendableItems : List Json → List Json
  | [] => []
  | item :: rest => sendable item :: sendableItems rest

/-- The fields of an object as they are sent. -/
def sendableFields : List (Text × Json) → List (Text × Json)
  | [] => []
  | (key, value) :: rest => (key, sendable value) :: sendableFields rest

end

mutual

/-- Whether every number in a value is finite. -/
def isFinite : Json → Bool
  | .float x => x.isFinite
  | .arr items => areFinite items
  | .obj fields => haveFinite fields
  | _ => true

/-- Whether every number in some values is finite. -/
def areFinite : List Json → Bool
  | [] => true
  | item :: rest => isFinite item && areFinite rest

/-- Whether every number in some fields is finite. -/
def haveFinite : List (Text × Json) → Bool
  | [] => true
  | (_, value) :: rest => isFinite value && haveFinite rest

end

mutual

/-- The first text in a value that cannot be sent, and why. -/
def unencodable? : Json → Option Text.Utf8.Unencodable
  | .str t => Text.Utf8.unencodable? t
  | .arr items => unencodableItem? items
  | .obj fields => unencodableField? fields
  | _ => none

/-- The first text in some values that cannot be sent. -/
def unencodableItem? : List Json → Option Text.Utf8.Unencodable
  | [] => none
  | item :: rest => unencodable? item <|> unencodableItem? rest

/-- The first text in some fields that cannot be sent; a key comes before its value. -/
def unencodableField? : List (Text × Json) → Option Text.Utf8.Unencodable
  | [] => none
  | (key, value) :: rest =>
    Text.Utf8.unencodable? key <|> unencodable? value <|> unencodableField? rest

end

mutual

/-- What is sent holds finite numbers only. -/
theorem isFinite_sendable (j : Json) : isFinite (sendable j) = true := by
  cases j with
  | float x =>
    simp only [sendable]
    split
    · simpa [isFinite]
    · rfl
  | arr items => simpa [sendable, isFinite] using areFinite_sendableItems items
  | obj fields => simpa [sendable, isFinite] using haveFinite_sendableFields fields
  | _ => rfl

/-- So are the items of a list. -/
theorem areFinite_sendableItems (items : List Json) : areFinite (sendableItems items) = true := by
  cases items with
  | nil => rfl
  | cons item rest =>
    simp [sendableItems, areFinite, isFinite_sendable item, areFinite_sendableItems rest]

/-- So are the fields of an object. -/
theorem haveFinite_sendableFields (fields : List (Text × Json)) :
    haveFinite (sendableFields fields) = true := by
  match fields with
  | [] => rfl
  | (key, value) :: rest =>
    simp [sendableFields, haveFinite, isFinite_sendable value, haveFinite_sendableFields rest]

end

end BlockFlow.Service
