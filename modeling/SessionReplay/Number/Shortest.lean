import SessionReplay.Number.Single

/-!
# Shortest decimals

The shortest decimal that reads back as a given single-precision number. The reals that round to the
number `m * 2 ^ q` form an interval around it, whose ends belong to it exactly when `m` is even. A
decimal with `k` digits lies on the grid of the multiples of a power of ten, and if any point of that
grid is in the interval then so is one of the two neighbours of the number itself. So the first grid
with a neighbour in the interval gives the fewest digits, and of two such neighbours the nearer one
is taken, the even one if both are equally near.
-/

namespace SessionReplay

/-- A positive decimal `0.d₁d₂… * 10 ^ (exponent + 1)`: its digits, the first one before the point in
scientific notation, and the scientific exponent. -/
structure Decimal where
  /-- Decimal digits, most significant first, without trailing zeros. -/
  digits : List Char
  /-- The power of ten of the first digit. -/
  exponent : Int
deriving DecidableEq, Repr

namespace Decimal

/-- The digits of a natural number. -/
def digitsOf (n : Nat) : List Char :=
  Nat.toDigits 10 n

/-- A list of digits without the zeros at its end. -/
def stripZeros (digits : List Char) : List Char :=
  (digits.reverse.dropWhile (· == '0')).reverse

/-- The power of ten of the first digit of the positive number `num / den`. -/
def exponentOf (num den : Nat) : Int :=
  if den ≤ num then (digitsOf (num / den)).length - 1
  else -((digitsOf ((den - 1) / num)).length : Int)

/-- The interval of the reals that round to a number, as multiples of a common unit. -/
structure Interval where
  /-- Lower end. -/
  low : Nat
  /-- The number itself. -/
  value : Nat
  /-- Upper end. -/
  high : Nat
  /-- Whether the ends belong to the interval. -/
  closed : Bool

/-- Whether `point * scale` is in the interval. -/
def Interval.contains (i : Interval) (point : Nat) : Bool :=
  if i.closed then i.low ≤ point && point ≤ i.high else i.low < point && point < i.high

/-- The interval of `m * 2 ^ q` in quarters of a unit in the last place. Below a power of two the
next number is only half as far away as above it, unless the numbers are as dense as they get. -/
def Interval.around (m : Nat) (q : Int) : Interval where
  low := if m = Single.leadingBit ∧ -149 < q then 4 * m - 1 else 4 * m - 2
  value := 4 * m
  high := 4 * m + 2
  closed := m % 2 == 0

/-- The interval with every bound multiplied by `k`. -/
def Interval.scale (i : Interval) (k : Nat) : Interval :=
  { i with low := i.low * k, value := i.value * k, high := i.high * k }

/-- The multiple of `step` that is in the interval and nearest to its value, as a number of steps. -/
def Interval.hit? (i : Interval) (step : Nat) : Option Nat :=
  let below := i.value / step
  let underfoot := i.value - below * step
  let overhead := (below + 1) * step - i.value
  match i.contains (below * step), i.contains ((below + 1) * step) with
  | true, true =>
    if underfoot < overhead then some below
    else if overhead < underfoot then some (below + 1)
    else some (below + below % 2)
  | true, false => some below
  | false, true => some (below + 1)
  | false, false => none

/-- The shortest decimal that rounds to `m * 2 ^ q`. Nine digits always suffice for single
precision. -/
def shortest (m : Nat) (q : Int) : Decimal :=
  let power := q - 2
  let interval := (Interval.around m q).scale (1 <<< power.toNat)
  let den := 1 <<< (-power).toNat
  let first := exponentOf interval.value den
  let onGrid (k : Nat) : Option Decimal :=
    let last : Int := first - k
    ((interval.scale (Nat.pow 10 (-last).toNat)).hit? (den * Nat.pow 10 last.toNat)).map fun d =>
      let digits := digitsOf d
      { digits := stripZeros digits, exponent := last + digits.length - 1 }
  ((List.range 9).findSome? onGrid).getD ⟨['0'], 0⟩

end Decimal

/-! ## Written form -/

/-- How a decimal is written: which exponents are written with plain digits. -/
structure DecimalFormat where
  /-- Smallest exponent written with plain digits. -/
  leastPlain : Int
  /-- Largest exponent written with plain digits. -/
  greatestPlain : Int

namespace DecimalFormat

/-- The written form of a positive decimal. Plain digits always have a point with at least one digit
behind it; other numbers are written in scientific notation with a signed exponent. -/
def write (format : DecimalFormat) (d : Decimal) : List Char :=
  if format.leastPlain ≤ d.exponent ∧ d.exponent ≤ format.greatestPlain then
    if d.exponent < 0 then
      ['0', '.'] ++ List.replicate (-d.exponent - 1).toNat '0' ++ d.digits
    else
      let whole := d.exponent.toNat + 1
      let fraction := d.digits.drop whole
      d.digits.take whole ++ List.replicate (whole - d.digits.length) '0' ++
        '.' :: (if fraction.isEmpty then ['0'] else fraction)
  else
    let fraction := d.digits.drop 1
    d.digits.take 1 ++ (if fraction.isEmpty then [] else '.' :: fraction) ++
      'e' :: (if d.exponent < 0 then '-' else '+') :: Decimal.digitsOf d.exponent.natAbs

end DecimalFormat

/-- The format of numbers in recorded text: plain digits from a millionth up to the trillions. -/
def Single.textFormat : DecimalFormat where
  leastPlain := -6
  greatestPlain := 12

/-- The text of a finite number; a value that is not finite has none. -/
def Single.text? (x : Single) : Option (List Char) :=
  match x.read with
  | .nan => none
  | .infinite _ => none
  | .finite neg m q =>
    let size := if m = 0 then ['0', '.', '0'] else textFormat.write (Decimal.shortest m q)
    some (if neg then '-' :: size else size)

end SessionReplay
