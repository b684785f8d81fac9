import SessionReplay.Picture.Lossless.File
import SessionReplay.Picture.Base64

/-!
# Encoding pictures

A bitmap becomes the text of a lossless picture file, unless it is empty, its buffer is too short,
or it is too large. A buffer that is longer than the size asks for is not noticed before the file is
made, and making a file of it breaks off.
-/

namespace SessionReplay

/-- A picture as it is recorded. -/
structure EncodedPicture where
  /-- The bytes of the file as text. -/
  base64 : String
  /-- The format of the file. -/
  mimeType : String
deriving DecidableEq, Repr, Inhabited

/-- Why a bitmap is not recorded. -/
inductive PictureError where
  /-- A buffer that is too short for the size. -/
  | invalidBuffer (width height expected actual : Nat)
  /-- No pixels at all. -/
  | emptyBitmap
  /-- A file of so many bytes is over the limit. -/
  | tooLarge (bytes : Nat)
  /-- The format has no files of this size. -/
  | encode (reason : String)
deriving DecidableEq, Repr

/-- What is wrong, as it is shown. -/
def PictureError.message : PictureError → String
  | .invalidBuffer width height expected actual =>
    "Bitmap buffer holds " ++ toString actual ++ " bytes, expected " ++ toString expected
      ++ " for " ++ toString width ++ "x" ++ toString height ++ " RGBA"
  | .emptyBitmap => "Bitmap has an empty size"
  | .tooLarge bytes => "Encoded image is " ++ toString bytes ++ " bytes, over the size limit"
  | .encode reason => "Failed to encode bitmap: " ++ reason

/-- How encoding ends. -/
inductive Encoding where
  /-- The picture. -/
  | encoded (picture : EncodedPicture)
  /-- The bitmap is refused. -/
  | refused (error : PictureError)
  /-- Encoding breaks off without a result. -/
  | broken
deriving DecidableEq, Repr

/-- The format of recorded pictures. -/
def pictureMimeType : String := "image/webp"

/-- The longest side that a file can have. -/
def maxPictureSide : Nat := 16384

/-- The reason given for a side that is too long. -/
def invalidDimensions : String := "Format error encoding WebP:\nInvalid dimensions"

/-- The size that is reported for a bitmap whose buffer is too short. It is multiplied out in 64 bits, and
what does not fit into them is lost. -/
def Bitmap.reportedSize (b : Bitmap) : Nat :=
  (UInt64.ofNat b.width * UInt64.ofNat b.height * 4).toNat

/-- Encodes a bitmap as a file of at most `limit` bytes. -/
def Bitmap.encode (limit : Nat) (b : Bitmap) : Encoding :=
  if b.width = 0 ∨ b.height = 0 then .refused .emptyBitmap
  else if b.pixels.size < b.expectedSize then
    .refused (.invalidBuffer b.width b.height b.reportedSize b.pixels.size)
  else if b.expectedSize < b.pixels.size then .broken
  else if maxPictureSide < b.width ∨ maxPictureSide < b.height then
    .refused (.encode invalidDimensions)
  else
    let file := Lossless.file b
    if limit < file.size then .refused (.tooLarge file.size)
    else .encoded ⟨Base64.encode file, pictureMimeType⟩

end SessionReplay
