/-!
# Headers of lossless picture files

The size of a picture stands in the header of its file, behind the marks of the container and of the
kind of its frame. The mark that opens the frame itself is not looked at.
-/

namespace SessionReplay.Lossless

/-- Whether a text stands at an offset. -/
def hasText (bytes : Array UInt8) (offset : Nat) (text : String) : Bool :=
  (text.toList.zipIdx offset).all fun (c, i) => (bytes[i]?).map UInt8.toNat == some c.toNat

/-- The number in the four bytes at an offset. -/
def wordAt (bytes : Array UInt8) (offset : Nat) : Nat :=
  (List.range 4).foldr
    (fun i n => ((bytes[offset + i]?).map UInt8.toNat).getD 0 + 256 * n) 0

/-- The width and the height in the header of a file, if the bytes are one. -/
def sizeOfFile? (bytes : Array UInt8) : Option (Nat × Nat) :=
  if 25 ≤ bytes.size && hasText bytes 0 "RIFF" && hasText bytes 8 "WEBPVP8L" then
    let word := wordAt bytes 21
    some (word % 0x4000 + 1, (word >>> 14) % 0x4000 + 1)
  else none

end SessionReplay.Lossless
