/-!
# Single-precision numbers

Screen densities, text sizes, corner radii and opacities are 32-bit binary floating-point numbers.
They are kept as their bit patterns, and everything this library does with them (comparing,
converting to an integer, dividing by a density, writing the shortest decimal) is exact integer
arithmetic on the mantissa and exponent read off the bits. Nothing here uses machine floating-point
operations.
-/

namespace SessionReplay

/-- A 32-bit binary floating-point number, given by its bits. -/
structure Single where
  /-- Sign, eight exponent bits and twenty-three fraction bits, from the top. -/
  bits : UInt32
deriving DecidableEq, Repr, Inhabited

namespace Single

/-- What a bit pattern stands for. -/
inductive Reading where
  /-- Not a number. -/
  | nan
  /-- An infinity, negative or not. -/
  | infinite (negative : Bool)
  /-- The number `mantissa * 2 ^ exponent`, negated when `negative`. -/
  | finite (negative : Bool) (mantissa : Nat) (exponent : Int)
deriving DecidableEq, Repr

/-- The leading one of a mantissa, which the bits of most numbers leave out. -/
def leadingBit : Nat := 0x800000

/-- Whether the sign bit is set. -/
def negative (x : Single) : Bool :=
  x.bits.toNat.testBit 31

/-- The eight exponent bits. -/
def exponentField (x : Single) : Nat :=
  (x.bits.toNat >>> 23) % 256

/-- The twenty-three fraction bits. -/
def fractionField (x : Single) : Nat :=
  x.bits.toNat % leadingBit

/-- The number that the bits stand for. An exponent field of zero marks the numbers without a
leading one, an exponent field of 255 the values that are not finite. -/
def read (x : Single) : Reading :=
  if x.exponentField = 255 then
    if x.fractionField = 0 then .infinite x.negative else .nan
  else if x.exponentField = 0 then .finite x.negative x.fractionField (-149)
  else .finite x.negative (leadingBit + x.fractionField) (x.exponentField - 150)

/-- Numeric equality: no number equals a value that is not a number, and both zeros are equal. -/
def eq (x y : Single) : Bool :=
  match x.read, y.read with
  | .nan, _ => false
  | _, .nan => false
  | .infinite a, .infinite b => a == b
  | .infinite _, .finite .. => false
  | .finite .., .infinite _ => false
  | .finite a m p, .finite b n q => (m == 0 && n == 0) || (a == b && m == n && p == q)

instance : BEq Single := ⟨eq⟩

/-- One, the default density and opacity. -/
def one : Single := ⟨0x3f800000⟩

/-- Zero, the default radius and text size. -/
def zero : Single := ⟨0⟩

end Single

/-! ## Sixty-four bit limits -/

/-- The smallest 64-bit signed integer. -/
def minInt64 : Int := -0x8000000000000000

/-- The largest 64-bit signed integer. -/
def maxInt64 : Int := 0x7fffffffffffffff

/-- The largest 64-bit unsigned integer. -/
def maxUInt64 : Nat := 0xffffffffffffffff

/-- The 64-bit signed integer nearest to `n`. -/
def saturate (n : Int) : Int :=
  max minInt64 (min n maxInt64)

/-- The integer part of a number, toward zero, kept within 64 bits. A value that is not a number
gives zero. -/
def Single.truncate (x : Single) : Int :=
  match x.read with
  | .nan => 0
  | .infinite neg => if neg then minInt64 else maxInt64
  | .finite neg m q =>
    let size : Int := if 0 ≤ q then (m <<< q.toNat : Nat) else (m >>> (-q).toNat : Nat)
    saturate (if neg then -size else size)

end SessionReplay
