import BlockFlow.Text.Basic

/-!
# UTF-16

Texts as units of sixteen bits. A character beyond sixteen bits takes a pair of surrogates; a
surrogate outside a pair is a code point of its own.
-/

namespace BlockFlow.Text.Utf16

/-- The first units of pairs. -/
def isHigh (unit : Nat) : Bool :=
  0xD800 ≤ unit && unit < 0xDC00

/-- The second units of pairs. -/
def isLow (unit : Nat) : Bool :=
  0xDC00 ≤ unit && unit < 0xE000

/-- The number of the character that a pair stands for. -/
def paired (high low : Nat) : Nat :=
  0x10000 + (high - 0xD800) * 0x400 + (low - 0xDC00)

/-- The units of a code point. -/
def units (c : CodePoint) : List Nat :=
  if c.toNat < 0x10000 then [c.toNat]
  else
    let offset := c.toNat - 0x10000
    [0xD800 + offset / 0x400, 0xDC00 + offset % 0x400]

/-- The text of a sequence of units. -/
def ofUnits : List Nat → Text
  | [] => []
  | [unit] => [.ofNat unit]
  | high :: low :: rest =>
    if isHigh high && isLow low then .ofNat (paired high low) :: ofUnits rest
    else .ofNat high :: ofUnits (low :: rest)

/-- The units of a sequence of bytes, two bytes each. -/
def unitsOfBytes? (bigEndian : Bool) : List Nat → Option (List Nat)
  | [] => some []
  | [_] => none
  | a :: b :: rest =>
    let unit := if bigEndian then a * 0x100 + b else b * 0x100 + a
    (unitsOfBytes? bigEndian rest).map (unit :: ·)

/-- Decodes bytes. -/
def decode? (bigEndian : Bool) (bytes : List Nat) : Option Text :=
  (unitsOfBytes? bigEndian bytes).map ofUnits

end BlockFlow.Text.Utf16
