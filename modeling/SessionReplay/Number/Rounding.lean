/-!
# Rounding to a number of significant bits

A quotient of two positive integers rounded to the nearest value with a given number of significant
bits, a tie going to the even neighbour. This is the rule of binary floating-point division whenever
the result is neither too large nor too small for the format, and here only the integer part of the
rounded quotient is asked for.
-/

namespace SessionReplay.Rounding

/-- The integer nearest to `num / den`, a tie going to the even one. -/
def nearest (num den : Nat) : Nat :=
  let below := num / den
  let twice := 2 * (num % den)
  if twice < den then below
  else if twice = den then below + below % 2
  else below + 1

/-- The exponent of the largest power of two that is at most `num / den`, both being positive. -/
def exponent (num den : Nat) : Int :=
  let guess : Int := (num.log2 : Int) - den.log2
  if den <<< guess.toNat ≤ num <<< (-guess).toNat then guess else guess - 1

/-- The integer part of `num / den` rounded to `precision` significant bits. -/
def integerPart (precision num den : Nat) : Nat :=
  if num = 0 then 0
  else
    let shift : Int := (precision : Int) - 1 - exponent num den
    let scaled := nearest (num <<< shift.toNat) (den <<< (-shift).toNat)
    (scaled <<< (-shift).toNat) >>> shift.toNat

end SessionReplay.Rounding
