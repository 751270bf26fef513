import BlockFlow.Decimal.Shortest
import BlockFlow.Text.Blank
import BlockFlow.Text.Digit

/-!
# Numbers typed by hand

Reading integers and decimals from text that people type. Blanks around the number, a sign, single
underscores between digits and the decimal digits of any script are all accepted.
-/

namespace BlockFlow.Text

/-- Blanks that may surround a number; the information separators do not count here. -/
def isNumberBlank (c : CodePoint) : Bool :=
  isBlank c && !(0x1C ≤ c.toNat && c.toNat ≤ 0x1F)

/-- The characters of a number without the blanks around it, with every digit as an ASCII digit. -/
def numberChars? (t : Text) : Option (List Char) :=
  (trimWhere isNumberBlank t).mapM fun c =>
    match digitValue? c with
    | some n => some (Char.ofNat ('0'.toNat + n))
    | none => c.char?

/-- Drops the underscores between digits; fails on an underscore anywhere else. The flag says
whether the character before was a digit. -/
def dropUnderscores (afterDigit : Bool) : List Char → Option (List Char)
  | [] => some []
  | '_' :: c :: rest =>
    if afterDigit && c.isDigit then (dropUnderscores true rest).map (c :: ·) else none
  | '_' :: [] => none
  | c :: rest => (dropUnderscores c.isDigit rest).map (c :: ·)

/-- The sign of a number, true for a minus, and what follows it. -/
def takeSign : List Char → Bool × List Char
  | '-' :: rest => (true, rest)
  | '+' :: rest => (false, rest)
  | rest => (false, rest)

/-- The value of ASCII digits. -/
def digitsValue (digits : List Char) : Nat :=
  digits.foldl (fun n c => 10 * n + (c.toNat - '0'.toNat)) 0

/-- The most digits an integer may have. -/
def maxIntegerDigits : Nat := 4300

/-- Reads an integer. -/
def readInt? (t : Text) : Option Int := do
  let (negative, digits) := takeSign (← dropUnderscores false (← numberChars? t))
  if digits.isEmpty || !digits.all Char.isDigit || maxIntegerDigits < digits.length then none
  else
    let n : Int := digitsValue digits
    some (if negative then -n else n)

/-- Reads the exponent of a decimal: an `e`, an optional sign and digits, or nothing. -/
def readExponent? : List Char → Option Int
  | [] => some 0
  | c :: rest =>
    if c == 'e' || c == 'E' then
      let (negative, digits) := takeSign rest
      if digits.isEmpty || !digits.all Char.isDigit then none
      else
        let n : Int := digitsValue digits
        some (if negative then -n else n)
    else none

/-- Reads an unsigned decimal with optional fraction and exponent. -/
def readUnsigned? (cs : List Char) : Option Decimal := do
  let whole := cs.takeWhile Char.isDigit
  let rest := cs.dropWhile Char.isDigit
  let (fraction, rest) :=
    match rest with
    | '.' :: rest => (rest.takeWhile Char.isDigit, rest.dropWhile Char.isDigit)
    | rest => ([], rest)
  if whole.isEmpty && fraction.isEmpty then none
  else
    let exponent ← readExponent? rest
    some ⟨digitsValue (whole ++ fraction), exponent - fraction.length⟩

/-- Whether a text reads as a finite number. -/
def isNumber (t : Text) : Bool :=
  let decimal := do
    let (_, digits) := takeSign (← dropUnderscores false (← numberChars? t))
    readUnsigned? digits
  match decimal with
  | some d => d.toFloat.isFinite
  | none => false

end BlockFlow.Text
