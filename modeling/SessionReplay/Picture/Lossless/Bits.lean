/-!
# Bit sink

Numbers are written bit by bit, the least significant bit first, into bytes that are filled from
their least significant bit upwards.
-/

namespace SessionReplay.Lossless

/-- Bytes written so far and the bits that do not fill a byte yet. -/
structure Bits where
  /-- Complete bytes. -/
  bytes : ByteArray := .empty
  /-- The bits of the incomplete byte, as a number. -/
  partialByte : Nat := 0
  /-- How many bits the incomplete byte has. -/
  filled : Nat := 0

namespace Bits

/-- Moves `n` complete bytes out of the pending bits. -/
def spill (bytes : ByteArray) (pending : Nat) : Nat → ByteArray × Nat
  | 0 => (bytes, pending)
  | n + 1 => spill (bytes.push (UInt8.ofNat (pending % 256))) (pending / 256) n

/-- Writes the low `count` bits of a number. -/
def write (s : Bits) (count value : Nat) : Bits :=
  let pending := s.partialByte + (value % (1 <<< count)) <<< s.filled
  let filled := s.filled + count
  let (bytes, rest) := spill s.bytes pending (filled / 8)
  { bytes := bytes, partialByte := rest, filled := filled % 8 }

/-- Writes numbers, each with its own number of bits. -/
def writeAll (s : Bits) (parts : List (Nat × Nat)) : Bits :=
  parts.foldl (fun s p => s.write p.1 p.2) s

/-- The bytes, the last one padded with zeros. -/
def finish (s : Bits) : ByteArray :=
  if s.filled = 0 then s.bytes else s.bytes.push (UInt8.ofNat s.partialByte)

end Bits

end SessionReplay.Lossless
