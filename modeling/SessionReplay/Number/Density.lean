import SessionReplay.Number.Single
import SessionReplay.Number.Rounding

/-!
# Dividing by the screen density

Lengths come from the screen in pixels and are recorded in units that do not depend on the screen's
density. The division is the one of 64-bit floating-point numbers: the length is rounded to 53
significant bits, so is the quotient, and what is recorded is the integer part of that, kept within
64 bits.
-/

namespace SessionReplay

/-- The significant bits of the numbers in which lengths are divided. -/
def Single.divisionPrecision : Nat := 53

/-- `length` in units independent of the density. A density that is zero or less leaves the length
as it is, one that is not a number gives zero. -/
def Single.normalize (density : Single) (length : Int) : Int :=
  match density.read with
  | .nan => 0
  | .infinite neg => if neg then length else 0
  | .finite neg m q =>
    if neg || m == 0 then length
    else
      let dividend := Rounding.integerPart divisionPrecision length.natAbs 1
      let size := Rounding.integerPart divisionPrecision
        (dividend <<< (-q).toNat) (m <<< q.toNat)
      saturate (if length < 0 then -(size : Int) else size)

end SessionReplay
