import BlockFlow.Decimal.Shortest

/-!
# Number texts

How numbers are written: integers plainly, other numbers with the fewest digits that read back,
positionally when the decimal exponent lies between -4 and 15 and with an exponent otherwise.
-/

namespace BlockFlow.Decimal

/-- The decisions of a number format. -/
structure Layout where
  /-- The smallest exponent written positionally. -/
  lowest : Int
  /-- The largest exponent written positionally. -/
  highest : Int
  /-- How many digits an exponent has at least. -/
  exponentWidth : Nat
  infinity : String
  notANumber : String

/-- The format of numbers in texts: `1.0`, `0.1`, `1e+16`, `1e-05`, `inf`, `nan`. -/
def Layout.plain : Layout := ⟨-4, 15, 2, "inf", "nan"⟩

/-- The format of numbers in JSON texts, which differs in the names of what is not finite. -/
def Layout.json : Layout := ⟨-4, 15, 2, "Infinity", "NaN"⟩

/-- Digits without the zeros at the end. -/
def significant (digits : List Char) : List Char :=
  (digits.reverse.dropWhile (· == '0')).reverse

/-- An exponent with its sign and at least the format's number of digits. -/
def exponentText (layout : Layout) (e : Int) : List Char :=
  let digits := Nat.toDigits 10 e.natAbs
  (if e < 0 then '-' else '+') ::
    (List.replicate (layout.exponentWidth - digits.length) '0' ++ digits)

/-- Digits `d₀.d₁d₂… * 10 ^ e` in a format. -/
def layOut (layout : Layout) (digits : List Char) (e : Int) : List Char :=
  if e < layout.lowest || layout.highest < e then
    let mantissa :=
      match digits with
      | [] => ['0']
      | [d] => [d]
      | d :: rest => d :: '.' :: rest
    mantissa ++ 'e' :: exponentText layout e
  else if e < 0 then
    '0' :: '.' :: (List.replicate (-e - 1).toNat '0' ++ digits)
  else
    let whole := e.toNat + 1
    let padded := digits ++ List.replicate (whole - digits.length) '0'
    let fraction := padded.drop whole
    padded.take whole ++ '.' :: (if fraction.isEmpty then ['0'] else fraction)

/-- The text of a number in a format. -/
def floatText (layout : Layout) (x : Float) : String :=
  let sign := if x.toBits.toNat / Nat.pow 2 63 = 1 then "-" else ""
  if x.isNaN then layout.notANumber
  else if x.isInf then sign ++ layout.infinity
  else if x == 0.0 then sign ++ "0.0"
  else
    let d := shortest x
    let digits := Nat.toDigits 10 d.digits
    let e := d.exponent + digits.length - 1
    sign ++ String.ofList (layOut layout (significant digits) e)

end BlockFlow.Decimal
