import SessionReplay.Number.Rounding
import SessionReplay.Number.Single

/-!
# Reading decimals

A decimal literal stands for the double-precision number nearest to it, and that for the
single-precision number nearest to it. Both roundings are made on exact fractions, a tie going to
the even mantissa.
-/

namespace SessionReplay

/-- A decimal literal: the number `digits * 10 ^ exponent`, negated if it has a minus sign. -/
structure DecimalLiteral where
  /-- Whether there is a minus sign. -/
  negative : Bool
  /-- All digits, without the point. -/
  digits : Nat
  /-- The power of ten of the last digit. -/
  exponent : Int
deriving DecidableEq, Repr

namespace DecimalLiteral

/-- The number written by a list of digits. -/
def natural (digits : List Char) : Nat :=
  digits.foldl (fun n c => n * 10 + (c.toNat - 48)) 0

/-- The number written by digits with an optional sign. -/
def integer : List Char → Int
  | '-' :: rest => -(natural rest : Int)
  | '+' :: rest => natural rest
  | cs => natural cs

/-- Takes a literal of a JSON text apart. -/
def ofChars (literal : List Char) : DecimalLiteral :=
  let negative := literal.head? == some '-'
  let body := if negative then literal.tail else literal
  let whole := body.takeWhile Char.isDigit
  let rest := body.dropWhile Char.isDigit
  let fraction := match rest with
    | '.' :: cs => cs.takeWhile Char.isDigit
    | _ => []
  let power := ((body.dropWhile fun c => c != 'e' && c != 'E').drop 1)
  { negative := negative
    digits := natural (whole ++ fraction)
    exponent := integer power - fraction.length }

end DecimalLiteral

/-- The mantissa and the exponent of the number nearest to `num / den` that has at most `precision`
significant bits and no bits below `2 ^ least`. -/
def Rounding.toBinary (precision : Nat) (least : Int) (num den : Nat) : Nat × Int :=
  if num = 0 then (0, least)
  else
    let q := max (exponent num den - (precision - 1)) least
    (nearest (num <<< (-q).toNat) (den <<< q.toNat), q)

namespace Single

/-- The number with a given sign whose size is the one nearest to `num / den`. -/
def ofRatio (negative : Bool) (num den : Nat) : Single :=
  let (m, q) := Rounding.toBinary 24 (-149) num den
  let (m, q) := if m = 2 * leadingBit then (leadingBit, q + 1) else (m, q)
  let size :=
    if 104 < q then 255 <<< 23
    else if m < leadingBit then m
    else (q + 150).toNat <<< 23 + (m - leadingBit)
  ⟨UInt32.ofNat (size + if negative then 0x80000000 else 0)⟩

/-- The number that a literal of a JSON text stands for. -/
def ofLiteral (literal : List Char) : Single :=
  let d := DecimalLiteral.ofChars literal
  let (m, q) := Rounding.toBinary 53 (-1074) (d.digits * Nat.pow 10 d.exponent.toNat)
    (Nat.pow 10 (-d.exponent).toNat)
  ofRatio d.negative (m <<< q.toNat) (1 <<< (-q).toNat)

/-- A value that is not a number. -/
def nan : Single := ⟨0x7fc00000⟩

/-- An infinity. -/
def infinity (negative : Bool) : Single := ⟨if negative then 0xff800000 else 0x7f800000⟩

end Single

end SessionReplay
