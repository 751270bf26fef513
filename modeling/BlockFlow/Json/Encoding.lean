import BlockFlow.Text.Utf16
import BlockFlow.Text.Utf32
import BlockFlow.Text.Utf8

/-!
# The encoding of JSON texts

A JSON text that arrives as bytes does not say how it is encoded. A byte order mark decides, or else
the zero bytes at the start: the first two characters of a JSON text are ASCII characters.
-/

namespace BlockFlow.Json

/-- How a text is encoded; the flags say whether the highest byte comes first. -/
inductive Encoding where
  | utf8
  | utf16 (bigEndian : Bool)
  | utf32 (bigEndian : Bool)
deriving DecidableEq, Repr

namespace Encoding

/-- The encoding that a byte order mark names, and the bytes after the mark. -/
def ofMark? : List Nat → Option (Encoding × List Nat)
  | 0x00 :: 0x00 :: 0xFE :: 0xFF :: rest => some (.utf32 true, rest)
  | 0xFF :: 0xFE :: 0x00 :: 0x00 :: rest => some (.utf32 false, rest)
  | 0xFE :: 0xFF :: rest => some (.utf16 true, rest)
  | 0xFF :: 0xFE :: rest => some (.utf16 false, rest)
  | 0xEF :: 0xBB :: 0xBF :: rest => some (.utf8, rest)
  | _ => none

/-- The encoding by the zero bytes at the start. -/
def ofZeros : List Nat → Encoding
  | 0 :: b :: _ :: _ :: _ => if b = 0 then .utf32 true else .utf16 true
  | _ :: 0 :: c :: d :: _ => if c = 0 && d = 0 then .utf32 false else .utf16 false
  | [0, _] => .utf16 true
  | [_, 0] => .utf16 false
  | _ => .utf8

/-- Decodes bytes. -/
def decode? (encoding : Encoding) (bytes : List Nat) : Option Text :=
  match encoding with
  | .utf8 => (Text.Utf8.decode bytes).toOption
  | .utf16 bigEndian => Text.Utf16.decode? bigEndian bytes
  | .utf32 bigEndian => Text.Utf32.decode? bigEndian bytes

end Encoding

/-- The text of bytes in whatever encoding they are. -/
def decodeBytes? (bytes : List Nat) : Option Text :=
  match Encoding.ofMark? bytes with
  | some (encoding, rest) => encoding.decode? rest
  | none => (Encoding.ofZeros bytes).decode? bytes

end BlockFlow.Json
