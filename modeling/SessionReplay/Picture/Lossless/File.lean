import SessionReplay.Picture.Lossless.PrefixCode
import SessionReplay.Picture.Lossless.Runs

/-!
# Lossless picture files

The file of a bitmap: a container around one frame, and in the frame the size, the two transforms
(green subtracted, pixels predicted from their neighbours), the code tables, and the tokens.
-/

namespace SessionReplay.Lossless

/-- How often each symbol of each table occurs. -/
structure Counts where
  /-- Green and runs. -/
  green : Array Nat := Array.replicate Alphabet.bytesAndRuns.size 0
  /-- Red. -/
  red : Array Nat := Array.replicate Alphabet.bytes.size 0
  /-- Blue. -/
  blue : Array Nat := Array.replicate Alphabet.bytes.size 0
  /-- Opacity. -/
  alpha : Array Nat := Array.replicate Alphabet.bytes.size 0

/-- Counts the symbols of a token. -/
def Counts.add (c : Counts) (t : Token) : Counts where
  green :=
    let green := c.green.modify t.pixel.green.toNat (· + 1)
    if t.run = 0 then green else green.modify (runCode t.run).symbol (· + 1)
  red := c.red.modify t.pixel.red.toNat (· + 1)
  blue := c.blue.modify t.pixel.blue.toNat (· + 1)
  alpha := c.alpha.modify t.pixel.alpha.toNat (· + 1)

/-- The codes of the four components. -/
structure Codes where
  /-- Green and runs. -/
  green : PrefixCode
  /-- Red. -/
  red : PrefixCode
  /-- Blue. -/
  blue : PrefixCode
  /-- Opacity. -/
  alpha : PrefixCode

/-- Writes a token. -/
def Codes.write (c : Codes) (s : Bits) (t : Token) : Bits :=
  let s := c.green.write s t.pixel.green.toNat
  let s := c.red.write s t.pixel.red.toNat
  let s := c.blue.write s t.pixel.blue.toNat
  let s := c.alpha.write s t.pixel.alpha.toNat
  if t.run = 0 then s
  else
    let run := runCode t.run
    (c.green.write s run.symbol).write run.extraCount run.extra

/-- The beginning of a frame: its mark, the size, the note that pixels have an opacity, and the two
transforms, of which the second predicts every pixel in the same way. -/
def writeHeader (s : Bits) (width height : Nat) : Bits :=
  let s := s.writeAll [(8, 0x2f), (14, width - 1), (14, height - 1), (1, 1), (3, 0)]
  let s := s.writeAll [(3, 0b101), (6, 0b111001), (1, 0)]
  let s := writeSingle s 2
  let s := [0, 0, 0, 0].foldl writeSingle s
  s.write 3 0

/-- The bytes of a frame. -/
def frame (b : Bitmap) : ByteArray :=
  let tokens := tokens (residuals b.width (b.toPixels.map subtractGreen))
  let counts := tokens.foldl Counts.add {}
  let s := writeHeader {} b.width b.height
  let (s, green) := writeTable s .bytesAndRuns counts.green
  let (s, red) := writeTable s .bytes counts.red
  let (s, blue) := writeTable s .bytes counts.blue
  let (s, alpha) := writeTable s .bytes counts.alpha
  let s := writeSingle s 1
  let codes : Codes := { green, red, blue, alpha }
  (tokens.foldl codes.write s).finish

/-- The four bytes of a number, the least significant one first. -/
def fourBytes (n : Nat) : ByteArray :=
  ⟨#[UInt8.ofNat (n % 256), UInt8.ofNat (n / 256 % 256), UInt8.ofNat (n / 65536 % 256),
    UInt8.ofNat (n / 16777216 % 256)]⟩

/-- The file of a bitmap whose buffer fits its size. A frame of odd length is padded. -/
def file (b : Bitmap) : ByteArray :=
  let frame := frame b
  let padding : ByteArray := if frame.size % 2 = 0 then ⟨#[]⟩ else ⟨#[0]⟩
  "RIFF".toUTF8 ++ fourBytes (frame.size + frame.size % 2 + 12) ++ "WEBPVP8L".toUTF8
    ++ fourBytes frame.size ++ frame ++ padding

end SessionReplay.Lossless
