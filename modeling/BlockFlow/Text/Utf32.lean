import BlockFlow.Text.Basic

/-!
# UTF-32

Texts with four bytes for every code point.
-/

namespace BlockFlow.Text.Utf32

/-- The number that four bytes stand for, the highest byte first. -/
def number (a b c d : Nat) : Nat :=
  ((a * 0x100 + b) * 0x100 + c) * 0x100 + d

/-- Decodes bytes. Fails on a number beyond the last code point and on bytes that are left over. -/
def decode? (bigEndian : Bool) : List Nat → Option Text
  | [] => some []
  | a :: b :: c :: d :: rest =>
    let n := if bigEndian then number a b c d else number d c b a
    if n < 0x110000 then (decode? bigEndian rest).map (.ofNat n :: ·) else none
  | _ => none

end BlockFlow.Text.Utf32
