/-!
# Bitmaps

A copy of the pixels of a view: rows from the top, four bytes a pixel.
-/

namespace SessionReplay

/-- A rectangle of pixels. The buffer is whatever the copy delivered; nothing promises that its
length fits the size. -/
structure Bitmap where
  /-- Pixels in a row. -/
  width : Nat
  /-- Rows. -/
  height : Nat
  /-- Red, green, blue and opacity of each pixel. -/
  pixels : ByteArray

/-- The bytes that a bitmap of this size should have. -/
def Bitmap.expectedSize (b : Bitmap) : Nat :=
  4 * b.width * b.height

/-- A pixel. -/
structure Pixel where
  /-- Red. -/
  red : UInt8
  /-- Green. -/
  green : UInt8
  /-- Blue. -/
  blue : UInt8
  /-- Opacity. -/
  alpha : UInt8
deriving DecidableEq, Repr, Inhabited

namespace Pixel

/-- The differences of the components, each modulo 256. -/
def sub (p q : Pixel) : Pixel where
  red := p.red - q.red
  green := p.green - q.green
  blue := p.blue - q.blue
  alpha := p.alpha - q.alpha

/-- Black without any transparency. -/
def black : Pixel := ⟨0, 0, 0, 255⟩

/-- The pixel whose bytes start at an offset; bytes that are missing are zero. -/
def atOffset (bytes : ByteArray) (i : Nat) : Pixel where
  red := (bytes.data[i]?).getD 0
  green := (bytes.data[i + 1]?).getD 0
  blue := (bytes.data[i + 2]?).getD 0
  alpha := (bytes.data[i + 3]?).getD 0

end Pixel

/-- The pixels of a bitmap, row by row. -/
def Bitmap.toPixels (b : Bitmap) : Array Pixel :=
  Array.ofFn fun i : Fin (b.width * b.height) => Pixel.atOffset b.pixels (4 * i)

end SessionReplay
