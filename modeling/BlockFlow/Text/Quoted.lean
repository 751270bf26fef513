import BlockFlow.Text.Printable

/-!
# Quoted texts

Two notions of quotes. A text shown inside a message stands in single quotes, or in double quotes
when that saves escapes, and what cannot be printed is escaped. A literal of program text is quoted
when it starts and ends with the same quotation mark.
-/

namespace BlockFlow.Text

/-- The lower-case hexadecimal digits of a number, padded with zeros to a width. -/
def hex (width n : Nat) : Text :=
  let digits := Nat.toDigits 16 n
  ofChars (List.replicate (width - digits.length) '0' ++ digits)

/-- An escape: a backslash, a letter and the digits of a number. -/
def escape (letter : Char) (width n : Nat) : Text :=
  .char '\\' :: .char letter :: hex width n

/-- One code point of a shown text that stands in the quotes `mark`. -/
def showPoint (mark : Char) (c : CodePoint) : Text :=
  if c == .char mark || c == .char '\\' then [.char '\\', c]
  else if c == .char '\n' then "\\n"
  else if c == .char '\r' then "\\r"
  else if c == .char '\t' then "\\t"
  else if isPrintable c then [c]
  else if c.toNat < 0x100 then escape 'x' 2 c.toNat
  else if c.toNat < 0x10000 then escape 'u' 4 c.toNat
  else escape 'U' 8 c.toNat

/-- Single quotes, unless the text holds a single quote and no double quote. -/
def showMark (t : Text) : Char :=
  if t.contains (.char '\'') && !t.contains (.char '"') then '"' else '\''

/-- A text as it is shown inside messages. -/
def quoted (t : Text) : Text :=
  let mark := showMark t
  .char mark :: t.flatMap (showPoint mark) ++ [.char mark]

/-- Whether a piece of program text is a quoted literal: it starts and ends with the same quotation
mark. -/
def isLiteral (t : Text) : Bool :=
  match t, t.getLast? with
  | first :: _ :: _, some last => first == last && (first == .char '\'' || first == .char '"')
  | _, _ => false

/-- Wraps a piece of program text in quotation marks unless it is a quoted literal. -/
def literal (mark t : Text) : Text :=
  if isLiteral t then t else mark ++ t ++ mark

end BlockFlow.Text
