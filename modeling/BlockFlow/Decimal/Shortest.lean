/-!
# Shortest decimals

The decimal with the fewest digits that reads back as a given binary64 number, and the number that a
decimal reads as. Both work on exact naturals: a positive finite number is `m * 2 ^ q`, and a
decimal reads back as it when it lies in the interval of reals that round to `m * 2 ^ q`.
-/

namespace BlockFlow

/-- A decimal `digits * 10 ^ exponent`. -/
structure Decimal where
  digits : Nat
  exponent : Int
deriving DecidableEq, Repr

namespace Decimal

/-- How many decimal digits a natural number has. -/
def width (n : Nat) : Nat :=
  (Nat.toDigits 10 n).length

/-- The number a decimal reads as, rounded to nearest. Decimals far outside the range of binary64
are settled by their magnitude alone. -/
def toFloat (d : Decimal) : Float :=
  let magnitude := (width d.digits : Int) + d.exponent
  if d.digits = 0 || magnitude < -400 then 0.0
  else if magnitude > 400 then 1.0 / 0.0
  else if d.exponent < 0 then Float.ofScientific d.digits true (-d.exponent).toNat
  else Float.ofScientific d.digits false d.exponent.toNat

/-- The significand and exponent of a positive finite number `m * 2 ^ q`. -/
def significand (x : Float) : Nat × Int :=
  let bits := x.toBits.toNat
  let biased : Nat := bits / Nat.pow 2 52 % Nat.pow 2 11
  let fraction : Nat := bits % Nat.pow 2 52
  if biased = 0 then (fraction, -1074) else (fraction + Nat.pow 2 52, Int.ofNat biased - 1075)

/-- The reals that round to `m * 2 ^ q`, as quotients over one denominator. -/
structure Interval where
  value : Nat
  lower : Nat
  upper : Nat
  denominator : Nat
  closed : Bool

/-- The interval around `m * 2 ^ q`, whose ends are halfway to the neighbours. The lower neighbour
of a power of two is only half as far away as the upper one. -/
def Interval.around (m : Nat) (q : Int) : Interval :=
  let below := if m = Nat.pow 2 52 ∧ q ≠ -1074 then 1 else 2
  let scale := Nat.pow 2 (q - 2).toNat
  ⟨4 * m * scale, (4 * m - below) * scale, (4 * m + 2) * scale, Nat.pow 2 (2 - q).toNat, m % 2 = 0⟩

/-- The interval in units of `10 ^ k`. -/
def Interval.scaled (i : Interval) (k : Int) : Interval :=
  let up := Nat.pow 10 (-k).toNat
  ⟨i.value * up, i.lower * up, i.upper * up, i.denominator * Nat.pow 10 k.toNat, i.closed⟩

/-- Whether a natural number lies in the interval. -/
def Interval.contains (i : Interval) (n : Nat) : Bool :=
  let scaled := n * i.denominator
  if i.closed then i.lower ≤ scaled && scaled ≤ i.upper
  else i.lower < scaled && scaled < i.upper

/-- The exponent of the leading decimal digit of the interval's value. -/
def Interval.leading (i : Interval) : Int :=
  if i.denominator ≤ i.value then (width (i.value / i.denominator) : Int) - 1
  else -(width ((i.denominator - 1) / i.value) : Int)

/-- The natural number of the interval that is nearest to its value, if it holds one; of two equally
near the even one. -/
def Interval.nearest? (i : Interval) : Option Nat :=
  let floor := i.value / i.denominator
  let fromFloor := i.value - floor * i.denominator
  let toCeiling := (floor + 1) * i.denominator - i.value
  match i.contains floor, i.contains (floor + 1) with
  | true, true =>
    if fromFloor < toCeiling || (fromFloor = toCeiling && floor % 2 = 0) then some floor
    else some (floor + 1)
  | true, false => some floor
  | false, true => some (floor + 1)
  | false, false => none

/-- The first hit among grids of ever more digits; seventeen digits always suffice. -/
def search (i : Interval) (leading : Int) : Nat → Nat → Decimal
  | 0, _ => ⟨0, 0⟩
  | fuel + 1, digits =>
    let k := leading - (digits : Int) + 1
    match (i.scaled k).nearest? with
    | some n => ⟨n, k⟩
    | none => search i leading fuel (digits + 1)

/-- The decimal with the fewest digits that reads back as the positive finite number `x`. -/
def shortest (x : Float) : Decimal :=
  let (m, q) := significand x
  let interval := Interval.around m q
  search interval interval.leading 17 1

end Decimal

end BlockFlow
