/-!
# Base64

Three bytes are written as four characters of six bits each, from the most significant bit on. One
or two bytes that are left over are filled up with zero bits, and with equals signs up to four
characters.
-/

namespace SessionReplay.Base64

/-- The character of six bits. -/
def digit (n : Nat) : Char :=
  if n < 26 then Char.ofNat (65 + n)
  else if n < 52 then Char.ofNat (97 + (n - 26))
  else if n < 62 then Char.ofNat (48 + (n - 52))
  else if n = 62 then '+'
  else '/'

/-- The characters of some bytes, put before those already written, in reverse. -/
def encodeFrom (written : List Char) : List UInt8 → List Char
  | a :: b :: c :: rest =>
    let n := (a.toNat * 256 + b.toNat) * 256 + c.toNat
    encodeFrom
      (digit (n % 64) :: digit (n / 64 % 64) :: digit (n / 4096 % 64) :: digit (n / 262144)
        :: written) rest
  | [a, b] =>
    let n := (a.toNat * 256 + b.toNat) * 4
    '=' :: digit (n % 64) :: digit (n / 64 % 64) :: digit (n / 4096) :: written
  | [a] =>
    let n := a.toNat * 16
    '=' :: '=' :: digit (n % 64) :: digit (n / 64) :: written
  | [] => written

/-- The text of some bytes. -/
def encode (bytes : ByteArray) : String :=
  String.ofList (encodeFrom [] bytes.data.toList).reverse

/-- The six bits of a character. -/
def value? (c : Char) : Option Nat :=
  if 'A' ≤ c ∧ c ≤ 'Z' then some (c.toNat - 65)
  else if 'a' ≤ c ∧ c ≤ 'z' then some (c.toNat - 97 + 26)
  else if '0' ≤ c ∧ c ≤ '9' then some (c.toNat - 48 + 52)
  else if c = '+' then some 62
  else if c = '/' then some 63
  else none

/-- The bytes that four characters stand for. -/
def quartet? : Char → Char → Char → Char → Option (List UInt8)
  | a, b, '=', '=' => do
    let n := (← value? a) * 64 + (← value? b)
    return [UInt8.ofNat (n / 16)]
  | a, b, c, '=' => do
    let n := ((← value? a) * 64 + (← value? b)) * 64 + (← value? c)
    return [UInt8.ofNat (n / 1024), UInt8.ofNat (n / 4 % 256)]
  | a, b, c, d => do
    let n := (((← value? a) * 64 + (← value? b)) * 64 + (← value? c)) * 64 + (← value? d)
    return [UInt8.ofNat (n / 65536), UInt8.ofNat (n / 256 % 256), UInt8.ofNat (n % 256)]

/-- The bytes that a text stands for, put before those already read, in reverse. -/
def decodeFrom (read : List UInt8) : List Char → Option (List UInt8)
  | [] => some read.reverse
  | a :: b :: c :: d :: rest => do
    let bytes ← quartet? a b c d
    decodeFrom (bytes.reverse ++ read) rest
  | _ => none

/-- The bytes that a text stands for, if it is their written form. A text that spells some bytes in
another way, with bits left over that are not zero or with equals signs before its end, stands for
nothing. -/
def decode? (text : String) : Option (List UInt8) :=
  (decodeFrom [] text.toList).filter fun bytes => encode ⟨bytes.toArray⟩ == text

end SessionReplay.Base64
