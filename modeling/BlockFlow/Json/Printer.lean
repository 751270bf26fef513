import BlockFlow.Decimal.Layout
import BlockFlow.Json.Basic
import BlockFlow.Text.Quoted
import BlockFlow.Text.Utf16

/-!
# JSON texts

Values written as JSON, on one line or indented by two spaces. Everything outside the printable
ASCII range is escaped, unit by unit.
-/

namespace BlockFlow.Json

/-- One code point inside a JSON string. -/
def escapePoint (c : CodePoint) : Text :=
  if c == .char '"' || c == .char '\\' then [.char '\\', c]
  else if c == .char '\n' then "\\n"
  else if c == .char '\r' then "\\r"
  else if c == .char '\t' then "\\t"
  else if c == .char '\x08' then "\\b"
  else if c == .char '\x0c' then "\\f"
  else if 0x20 ≤ c.toNat && c.toNat ≤ 0x7E then [c]
  else (Text.Utf16.units c).flatMap (Text.escape 'u' 4)

/-- A text as a JSON string. -/
def stringText (t : Text) : Text :=
  .char '"' :: t.flatMap escapePoint ++ [.char '"']

mutual

/-- A value on one line. -/
def compact : Json → Text
  | .null => "null"
  | .bool b => if b then "true" else "false"
  | .int n => toString n
  | .float x => Decimal.floatText .json x
  | .str s => stringText s
  | .arr items => "[" ++ Text.joined ", " (compactItems items) ++ "]"
  | .obj fields => "\x7b" ++ Text.joined ", " (compactFields fields) ++ "\x7d"

/-- The items of a list, each on one line. -/
def compactItems : List Json → List Text
  | [] => []
  | item :: rest => compact item :: compactItems rest

/-- The fields of an object, each on one line. -/
def compactFields : List (Text × Json) → List Text
  | [] => []
  | (key, value) :: rest => (stringText key ++ ": " ++ compact value) :: compactFields rest

end

/-- A line break and the indentation of a level. -/
def lineBreak (level : Nat) : Text :=
  Text.ofChars ('\n' :: List.replicate (2 * level) ' ')

/-- Entries between brackets, one a line, at a level; the closing bracket stands one level out. -/
def bracketed (opening closing : Text) (level : Nat) (entries : List Text) : Text :=
  if entries.isEmpty then opening ++ closing
  else
    opening ++ lineBreak (level + 1) ++ Text.joined ("," ++ lineBreak (level + 1)) entries
      ++ lineBreak level ++ closing

mutual

/-- A value over several lines, its brackets at a level. -/
def indentedAt (level : Nat) : Json → Text
  | .null => "null"
  | .bool b => if b then "true" else "false"
  | .int n => toString n
  | .float x => Decimal.floatText .json x
  | .str s => stringText s
  | .arr items => bracketed "[" "]" level (indentedItems (level + 1) items)
  | .obj fields => bracketed "\x7b" "\x7d" level (indentedFields (level + 1) fields)

/-- The items of a list at a level. -/
def indentedItems (level : Nat) : List Json → List Text
  | [] => []
  | item :: rest => indentedAt level item :: indentedItems level rest

/-- The fields of an object at a level. -/
def indentedFields (level : Nat) : List (Text × Json) → List Text
  | [] => []
  | (key, value) :: rest =>
    (stringText key ++ ": " ++ indentedAt level value) :: indentedFields level rest

end

/-- A value over several lines, indented by two spaces a level. -/
def indented (j : Json) : Text :=
  indentedAt 0 j

end BlockFlow.Json
