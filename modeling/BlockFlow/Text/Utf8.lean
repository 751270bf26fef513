import BlockFlow.Text.Quoted

/-!
# UTF-8

Bytes as texts, with the place and the extent of the first bytes that are not UTF-8, and what keeps
a text from being written as bytes: surrogates have no UTF-8 form.
-/

namespace BlockFlow.Text.Utf8

/-- What is wrong with a sequence of bytes. -/
inductive Fault where
  | invalidStart
  | invalidContinuation
  | unexpectedEnd
deriving DecidableEq, Repr

/-- The wording of a fault. -/
def Fault.message : Fault → Text
  | .invalidStart => "invalid start byte"
  | .invalidContinuation => "invalid continuation byte"
  | .unexpectedEnd => "unexpected end of data"

/-- The first bytes that cannot be decoded: their place, their number and the first of them. -/
structure Error where
  fault : Fault
  place : Nat
  length : Nat
  byte : Nat
deriving DecidableEq, Repr

/-- The wording of an error. -/
def Error.message (e : Error) : Text :=
  let bytes : Text :=
    if e.length = 1 then "byte 0x" ++ hex 2 e.byte ++ " in position " ++ toString e.place
    else "bytes in position " ++ toString e.place ++ "-" ++ toString (e.place + e.length - 1)
  "'utf-8' codec can't decode " ++ bytes ++ ": " ++ e.fault.message

/-- Bytes that continue a sequence. -/
def isContinuation (b : Nat) : Bool :=
  0x80 ≤ b && b ≤ 0xBF

/-- Whether the second byte of a sequence fits the first. Overlong forms, surrogates and numbers
beyond the last code point are excluded here. -/
def fitsStart (start second : Nat) : Bool :=
  isContinuation second
    && (start != 0xE0 || 0xA0 ≤ second) && (start != 0xED || second < 0xA0)
    && (start != 0xF0 || 0x90 ≤ second) && (start != 0xF4 || second < 0x90)

/-- How many bytes a sequence has, by its first byte. -/
def sequenceLength? (start : Nat) : Option Nat :=
  if start < 0x80 then some 1
  else if start < 0xC2 then none
  else if start < 0xE0 then some 2
  else if start < 0xF0 then some 3
  else if start < 0xF5 then some 4
  else none

/-- The bits that the first byte of a sequence of some length gives to the code point. -/
def startBits (length start : Nat) : Nat :=
  match length with
  | 1 => start
  | 2 => start % 0x20
  | 3 => start % 0x10
  | _ => start % 0x08

/-- Reads continuation bytes of a sequence of which `done` bytes were read: the code point, or the
number of bytes that are wrong. -/
def readContinuations (code done : Nat) : Nat → List Nat → Except (Fault × Nat) Nat
  | 0, _ => .ok code
  | _ + 1, [] => .error (.unexpectedEnd, done)
  | missing + 1, b :: rest =>
    if isContinuation b then readContinuations (code * 0x40 + b % 0x40) (done + 1) missing rest
    else .error (.invalidContinuation, done)

/-- Reads the sequence that a byte starts: its code point and length, or the number of bytes that
are wrong. -/
def readSequence (start : Nat) (rest : List Nat) : Except (Fault × Nat) (Nat × Nat) :=
  match sequenceLength? start with
  | none => .error (.invalidStart, 1)
  | some length =>
    match length, rest with
    | 1, _ => .ok (start, 1)
    | _, [] => .error (.unexpectedEnd, 1)
    | _, second :: _ =>
      if fitsStart start second then
        (readContinuations (startBits length start) 1 (length - 1) rest).map (·, length)
      else .error (.invalidContinuation, 1)

/-- Decodes bytes from a place on; `skip` bytes belong to a sequence that has been read already. -/
def decodeFrom (place : Nat) : Nat → List Nat → Except Error Text
  | _, [] => .ok []
  | skip + 1, _ :: rest => decodeFrom (place + 1) skip rest
  | 0, start :: rest =>
    match readSequence start rest with
    | .error (fault, length) => .error ⟨fault, place, length, start⟩
    | .ok (code, length) =>
      (decodeFrom (place + 1) (length - 1) rest).map (.ofNat code :: ·)

/-- Decodes bytes. -/
def decode (bytes : List Nat) : Except Error Text :=
  decodeFrom 0 0 bytes

/-! ## Encoding -/

/-- How many bytes a code point takes. -/
def width : CodePoint → Nat
  | .char c => c.utf8Size
  | .surrogate _ => 3

/-- How many bytes a text takes. -/
def size : Text → Nat
  | [] => 0
  | c :: rest => width c + size rest

/-- The first surrogates of a text: their place, their number and the first of them. -/
structure Unencodable where
  place : Nat
  length : Nat
  first : CodePoint
deriving DecidableEq, Repr

/-- The wording of what cannot be encoded. -/
def Unencodable.message (e : Unencodable) : Text :=
  let points : Text :=
    if e.length = 1 then
      "character '" ++ escape 'u' 4 e.first.toNat ++ "' in position " ++ toString e.place
    else "characters in position " ++ toString e.place ++ "-" ++ toString (e.place + e.length - 1)
  "'utf-8' codec can't encode " ++ points ++ ": surrogates not allowed"

/-- What keeps a text from being encoded. -/
def unencodable? (t : Text) : Option Unencodable :=
  match t.dropWhile (!·.isSurrogate) with
  | [] => none
  | first :: rest =>
    some ⟨(t.takeWhile (!·.isSurrogate)).length,
      (rest.takeWhile CodePoint.isSurrogate).length + 1, first⟩

end BlockFlow.Text.Utf8
