import BlockFlow.Decimal.Shortest
import BlockFlow.Json.Basic
import BlockFlow.Text.Number
import BlockFlow.Text.Utf16

/-!
# Reading JSON texts

A reader for JSON texts that also accepts the names of infinity and of what is not a number. When a
key is repeated, its first place and its last value are kept. A fault is reported with the place
where it was found.
-/

namespace BlockFlow.Json

/-- What can be wrong with a JSON text. -/
inductive Fault where
  | expectedValue
  | expectedKey
  | expectedColon
  | expectedComma
  | extraData
  | unterminatedString
  | controlCharacter
  | invalidEscape
  | invalidUnicodeEscape
  | byteOrderMark
deriving DecidableEq, Repr

/-- The wording of a fault. -/
def Fault.message : Fault → Text
  | .expectedValue => "Expecting value"
  | .expectedKey => "Expecting property name enclosed in double quotes"
  | .expectedColon => "Expecting ':' delimiter"
  | .expectedComma => "Expecting ',' delimiter"
  | .extraData => "Extra data"
  | .unterminatedString => "Unterminated string starting at"
  | .controlCharacter => "Invalid control character at"
  | .invalidEscape => "Invalid \\escape"
  | .invalidUnicodeEscape => "Invalid \\uXXXX escape"
  | .byteOrderMark => "Unexpected UTF-8 BOM (decode using utf-8-sig)"

/-- Why a text cannot be read. -/
inductive ReadError where
  /-- The text is not JSON; the place counts characters from the start. -/
  | malformed (fault : Fault) (place : Nat)
  /-- An integer has more digits than are allowed. -/
  | longInteger (digits : Nat)
deriving DecidableEq, Repr

/-- The rest of a text and how many characters were read before it. -/
structure Cursor where
  rest : Text
  place : Nat

/-- The result of reading. -/
abbrev Reading := Except ReadError

/-- The cursor after blanks. -/
def Cursor.skipBlanks (c : Cursor) : Cursor :=
  let isBlank := CodePoint.satisfies fun x => x == ' ' || x == '\t' || x == '\n' || x == '\r'
  ⟨c.rest.dropWhile isBlank, c.place + (c.rest.takeWhile isBlank).length⟩

/-! ## Strings -/

/-- The value of a hexadecimal digit. -/
def hexDigit? (c : Char) : Option Nat :=
  if c.isDigit then some (c.toNat - '0'.toNat)
  else if 'a' ≤ c && c ≤ 'f' then some (c.toNat - 'a'.toNat + 10)
  else if 'A' ≤ c && c ≤ 'F' then some (c.toNat - 'A'.toNat + 10)
  else none

/-- The value of four hexadecimal digits. -/
def unitValue? (a b c d : CodePoint) : Option Nat := do
  let digit (x : CodePoint) : Option Nat := x.char?.bind hexDigit?
  return (((← digit a) * 16 + (← digit b)) * 16 + (← digit c)) * 16 + (← digit d)

/-- The character a backslash and this character stand for. -/
def escapedChar? : Char → Option Char
  | '"' => some '"'
  | '\\' => some '\\'
  | '/' => some '/'
  | 'b' => some '\x08'
  | 'f' => some '\x0c'
  | 'n' => some '\n'
  | 'r' => some '\r'
  | 't' => some '\t'
  | _ => none

/-- The unit of an escape that follows directly and is not the end of the text. -/
def followingUnit? : Text → Option (Option Nat)
  | .char '\\' :: .char 'u' :: a :: b :: c :: d :: _ :: _ => some (unitValue? a b c d)
  | _ => none

/-- Reads a string whose opening quotation mark stands at `start`. The code points read so far are
given last first; `skip` code points belong to an escape that has been read already. -/
def readString (start : Nat) : Nat → Text → Text → Nat → Reading (Text × Cursor)
  | _, _, [], _ => .error (.malformed .unterminatedString start)
  | skip + 1, done, _ :: rest, place => readString start skip done rest (place + 1)
  | 0, done, .char '"' :: rest, place => .ok (done.reverse, ⟨rest, place + 1⟩)
  | 0, done, .char '\\' :: rest, place =>
    match rest with
    | [] => .error (.malformed .unterminatedString start)
    | .char 'u' :: a :: b :: c :: d :: e :: more =>
      match unitValue? a b c d with
      | none => .error (.malformed .invalidUnicodeEscape (place + 1))
      | some unit =>
        match Text.Utf16.isHigh unit, followingUnit? (e :: more) with
        | true, some none => .error (.malformed .invalidUnicodeEscape (place + 7))
        | true, some (some second) =>
          if Text.Utf16.isLow second then
            readString start 11 (.ofNat (Text.Utf16.paired unit second) :: done) rest (place + 1)
          else readString start 5 (.ofNat unit :: done) rest (place + 1)
        | _, _ => readString start 5 (.ofNat unit :: done) rest (place + 1)
    | .char 'u' :: _ => .error (.malformed .invalidUnicodeEscape (place + 1))
    | c :: _ =>
      match c.char?.bind escapedChar? with
      | some escaped => readString start 1 (.char escaped :: done) rest (place + 1)
      | none => .error (.malformed .invalidEscape place)
  | 0, done, c :: rest, place =>
    if c.toNat < 0x20 then .error (.malformed .controlCharacter place)
    else readString start 0 (c :: done) rest (place + 1)

/-! ## Numbers -/

/-- The characters at the start of a text that can belong to a number. -/
def numberRun : Text → List Char
  | .char c :: rest =>
    if c.isDigit || "+-.eE".toList.contains c then c :: numberRun rest else []
  | _ => []

/-- The fraction of a number: a point that digits follow, or nothing. -/
def takeFraction : List Char → List Char × List Char
  | '.' :: c :: rest =>
    if c.isDigit then
      (c :: rest.takeWhile Char.isDigit, rest.dropWhile Char.isDigit)
    else ([], '.' :: c :: rest)
  | rest => ([], rest)

/-- The exponent of a number and how many characters it takes: a letter, a sign and digits. -/
def takeExponent? : List Char → Option (Int × Nat)
  | c :: rest =>
    if c == 'e' || c == 'E' then
      let (negative, digits) := Text.takeSign rest
      let run := digits.takeWhile Char.isDigit
      if run.isEmpty then none
      else
        let n : Int := Text.digitsValue run
        some (if negative then -n else n, 1 + (rest.length - digits.length) + run.length)
    else none
  | [] => none

/-- Reads the longest number at the cursor. -/
def readNumber (c : Cursor) : Reading (Json × Cursor) :=
  let run := numberRun c.rest
  let (negative, unsigned) :=
    match run with
    | '-' :: rest => (true, rest)
    | rest => (false, rest)
  let whole :=
    match unsigned with
    | '0' :: _ => ['0']
    | rest => rest.takeWhile Char.isDigit
  if whole.isEmpty then .error (.malformed .expectedValue c.place)
  else
    let (fraction, afterFraction) := takeFraction (unsigned.drop whole.length)
    let exponent := takeExponent? afterFraction
    let taken := run.length - (afterFraction.length - (exponent.map (·.2)).getD 0)
    let after : Cursor := ⟨c.rest.drop taken, c.place + taken⟩
    if fraction.isEmpty && exponent.isNone then
      if Text.maxIntegerDigits < whole.length then .error (.longInteger whole.length)
      else
        let n : Int := Text.digitsValue whole
        .ok (.int (if negative then -n else n), after)
    else
      let d : Decimal :=
        ⟨Text.digitsValue (whole ++ fraction), (exponent.map (·.1)).getD 0 - fraction.length⟩
      .ok (.float (if negative then -d.toFloat else d.toFloat), after)

/-- The values that are written as words. -/
def namedValues : List (String × Json) :=
  [("null", .null), ("true", .bool true), ("false", .bool false), ("NaN", .float (0.0 / 0.0)),
    ("Infinity", .float (1.0 / 0.0)), ("-Infinity", .float (-1.0 / 0.0))]

/-- Reads a value that is written as a word, or else a number. -/
def readPlain (c : Cursor) : Reading (Json × Cursor) :=
  match namedValues.find? fun named => (Text.ofString named.1).isPrefixOf c.rest with
  | some (name, value) => .ok (value, ⟨c.rest.drop name.length, c.place + name.length⟩)
  | none => readNumber c

/-! ## Values -/

mutual

/-- Reads a value. The first argument bounds the recursion; twice the length of the text is ample,
because two nested calls read a character at least. -/
def readValue : Nat → Cursor → Reading (Json × Cursor)
  | 0, c => .error (.malformed .expectedValue c.place)
  | fuel + 1, c =>
    match c.rest with
    | .char '"' :: rest => do
      let (s, c) ← readString c.place 0 [] rest (c.place + 1)
      return (.str s, c)
    | .char '\x7b' :: rest =>
      let c := Cursor.skipBlanks ⟨rest, c.place + 1⟩
      match c.rest with
      | .char '\x7d' :: rest => .ok (.obj [], ⟨rest, c.place + 1⟩)
      | _ => readFields fuel [] c
    | .char '[' :: rest =>
      let c := Cursor.skipBlanks ⟨rest, c.place + 1⟩
      match c.rest with
      | .char ']' :: rest => .ok (.arr [], ⟨rest, c.place + 1⟩)
      | _ => readItems fuel [] c
    | _ => readPlain c

/-- Reads the rest of a list; the items read so far are given last first. -/
def readItems : Nat → List Json → Cursor → Reading (Json × Cursor)
  | 0, _, c => .error (.malformed .expectedValue c.place)
  | fuel + 1, done, c => do
    let (item, c) ← readValue fuel c
    let c := c.skipBlanks
    match c.rest with
    | .char ']' :: rest => return (.arr (item :: done).reverse, ⟨rest, c.place + 1⟩)
    | .char ',' :: rest => readItems fuel (item :: done) (Cursor.skipBlanks ⟨rest, c.place + 1⟩)
    | _ => .error (.malformed .expectedComma c.place)

/-- Reads the rest of an object, with the fields read so far. -/
def readFields : Nat → Fields → Cursor → Reading (Json × Cursor)
  | 0, _, c => .error (.malformed .expectedValue c.place)
  | fuel + 1, done, c =>
    match c.rest with
    | .char '"' :: rest => do
      let (key, c) ← readString c.place 0 [] rest (c.place + 1)
      let c := c.skipBlanks
      match c.rest with
      | .char ':' :: rest => do
        let (value, c) ← readValue fuel (Cursor.skipBlanks ⟨rest, c.place + 1⟩)
        let c := c.skipBlanks
        let fields := Fields.set done key value
        match c.rest with
        | .char '\x7d' :: rest => return (.obj fields, ⟨rest, c.place + 1⟩)
        | .char ',' :: rest => readFields fuel fields (Cursor.skipBlanks ⟨rest, c.place + 1⟩)
        | _ => .error (.malformed .expectedComma c.place)
      | _ => .error (.malformed .expectedColon c.place)
    | _ => .error (.malformed .expectedKey c.place)

end

/-- Reads a whole JSON text. -/
def parse (t : Text) : Reading Json := do
  if t.head? == some (.char '\ufeff') then throw (.malformed .byteOrderMark 0)
  let (value, c) ← readValue (2 * t.length + 2) (Cursor.skipBlanks ⟨t, 0⟩)
  let c := c.skipBlanks
  if c.rest.isEmpty then return value else throw (.malformed .extraData c.place)

/-! ## Messages -/

/-- The wording of an error in the text `t`, with the line and column of its place. -/
def ReadError.message (t : Text) : ReadError → Text
  | .malformed fault place =>
    let before := t.take place
    let line := before.count (.char '\n') + 1
    let column := (before.reverse.takeWhile (· != .char '\n')).length + 1
    fault.message ++ ": line " ++ toString line ++ " column " ++ toString column
      ++ " (char " ++ toString place ++ ")"
  | .longInteger digits =>
    "Exceeds the limit (" ++ toString Text.maxIntegerDigits
      ++ " digits) for integer string conversion: value has " ++ toString digits
      ++ " digits; use sys.set_int_max_str_digits() to increase the limit"

end BlockFlow.Json
