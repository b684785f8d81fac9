import SessionReplay.Number.Single

/-!
# Numerals

The numbers that a setting may be given as: one or more ASCII digits behind an optional plus sign,
or a minus sign where negative numbers are allowed, within 64 bits.
-/

namespace SessionReplay.Numeral

/-- The number written by a list of digits. -/
def value (digits : List Char) : Nat :=
  digits.foldl (fun n c => n * 10 + (c.toNat - 48)) 0

/-- The number written by the characters if they are one or more digits. -/
def digits? (cs : List Char) : Option Nat :=
  if !cs.isEmpty && cs.all Char.isDigit then some (value cs) else none

/-- Reads a 64-bit natural number. -/
def unsigned? (cs : List Char) : Option Nat :=
  let digits := match cs with
    | '+' :: rest => rest
    | cs => cs
  (digits? digits).filter (· ≤ maxUInt64)

/-- Reads a 64-bit integer. -/
def signed? (cs : List Char) : Option Int :=
  let number : Option Int := match cs with
    | '+' :: rest => (digits? rest).map (↑·)
    | '-' :: rest => (digits? rest).map fun n => -(n : Int)
    | cs => (digits? cs).map (↑·)
  number.filter fun n => minInt64 ≤ n && n ≤ maxInt64

end SessionReplay.Numeral
