import SessionReplay.Proofs.Picture.Headers
import SessionReplay.Proofs.Picture.Limits

/-!
# Bitmaps that are refused

What becomes of a bitmap depends on its sides, on the length of its buffer and on the length of its file.
`Bitmap.Outcome` lists the six cases, and `encode_eq_iff_outcome` says that encoding ends as the one that
applies says.

* A buffer that is too short is refused (`Bitmap.encode_of_short`). The size that is reported as the right
  one is what is left of it in 64 bits (`Bitmap.reportedSize_eq`): the right one, unless that is 2 ^ 64 or
  more.
* A buffer that is too long is *not* refused. Making the file breaks off (`Bitmap.encode_of_overlong`), and
  one byte too many is enough (`overlong_buffer_breaks`).
* A buffer of the right length gives a file, unless a side is too long for the format, and the file is
  refused exactly if it is over the limit. What is recorded otherwise is the text of that file and of no
  other (`Base64.decode?_eq_some_iff`). The file tells the size of the bitmap, by `sizeOfFile?_file`.
-/

namespace SessionReplay

/-- **A text stands for some bytes exactly if it is their text.** -/
theorem Base64.decode?_eq_some_iff {text : String} {bytes : ByteArray} :
    decode? text = some bytes.data.toList ↔ text = encode bytes := by
  constructor
  · intro h
    obtain ⟨-, hsame⟩ := Option.filter_eq_some_iff.mp h
    simpa using (beq_iff_eq.mp hsame).symm
  · rintro rfl
    exact decode?_encode bytes

namespace Bitmap

/-- Neither side is zero. -/
def HasPixels (b : Bitmap) : Prop := b.width ≠ 0 ∧ b.height ≠ 0

/-- The buffer holds as many bytes as the size asks for. -/
def Exact (b : Bitmap) : Prop := b.HasPixels ∧ b.pixels.size = b.expectedSize

/-- The buffer holds more bytes than the size asks for. -/
def Overlong (b : Bitmap) : Prop :=
  b.width ≠ 0 ∧ b.height ≠ 0 ∧ b.expectedSize < b.pixels.size

instance : DecidablePred Overlong := fun b =>
  inferInstanceAs (Decidable (b.width ≠ 0 ∧ b.height ≠ 0 ∧ b.expectedSize < b.pixels.size))

/-- There are files of this size. -/
def Bounded (b : Bitmap) : Prop := b.width ≤ maxPictureSide ∧ b.height ≤ maxPictureSide

/-- How encoding a bitmap has to end. -/
inductive Outcome (limit : Nat) (b : Bitmap) : Encoding → Prop
  /-- A bitmap without pixels is refused. -/
  | empty : ¬b.HasPixels → Outcome limit b (.refused .emptyBitmap)
  /-- So is one whose buffer is too short, and both sizes are reported. -/
  | short : b.HasPixels → b.pixels.size < b.expectedSize → Outcome limit b
      (.refused (.invalidBuffer b.width b.height (b.expectedSize % UInt64.size) b.pixels.size))
  /-- A buffer that is too long breaks encoding off. -/
  | overlong : b.Overlong → Outcome limit b .broken
  /-- A side that is too long for the format is refused. -/
  | longSide : b.Exact → ¬b.Bounded → Outcome limit b (.refused (.encode invalidDimensions))
  /-- So is a file that is over the limit, and its size is reported. -/
  | tooLarge : b.Exact → b.Bounded → limit < (Lossless.file b).size →
      Outcome limit b (.refused (.tooLarge (Lossless.file b).size))
  /-- All others are recorded: the text stands for the bytes of the file. -/
  | encoded (picture : EncodedPicture) : b.Exact → b.Bounded → (Lossless.file b).size ≤ limit →
      Base64.decode? picture.base64 = some (Lossless.file b).data.toList →
      picture.mimeType = pictureMimeType → Outcome limit b (.encoded picture)

variable {limit : Nat} {b : Bitmap}

/-- The size that is reported is the right one modulo 2 ^ 64. -/
theorem reportedSize_eq (b : Bitmap) : b.reportedSize = b.expectedSize % UInt64.size := by
  have hproduct : 4 * b.width * b.height = b.width * b.height * 4 := by
    rw [Nat.mul_comm 4, Nat.mul_right_comm]
  unfold reportedSize expectedSize UInt64.size
  rw [hproduct]
  simp [UInt64.toNat_mul, Nat.mul_mod]

/-! ## The cases -/

/-- A bitmap without pixels is refused as empty. -/
theorem encode_of_empty (h : ¬b.HasPixels) : b.encode limit = .refused .emptyBitmap := by
  have hempty : b.width = 0 ∨ b.height = 0 := by
    unfold HasPixels at h
    omega
  simp [encode, hempty]

/-- One whose buffer is too short is refused with the sizes, of which the expected one is wrapped around. -/
theorem encode_of_short (h : b.HasPixels) (hshort : b.pixels.size < b.expectedSize) :
    b.encode limit
      = .refused (.invalidBuffer b.width b.height (b.expectedSize % UInt64.size) b.pixels.size) := by
  rw [← reportedSize_eq]
  simp [encode, h.1, h.2, hshort]

/-- One whose buffer is too long breaks the encoder off. -/
theorem encode_of_overlong (h : b.Overlong) : b.encode limit = .broken := by
  obtain ⟨hwidth, hheight, hlong⟩ := h
  simp [encode, hwidth, hheight, hlong, Nat.not_lt_of_gt hlong]

/-- One with a side that is too long is refused by the encoder. -/
theorem encode_of_long_side (h : b.Exact) (hside : ¬b.Bounded) :
    b.encode limit = .refused (.encode invalidDimensions) := by
  obtain ⟨⟨hwidth, hheight⟩, hsize⟩ := h
  have hlong : maxPictureSide < b.width ∨ maxPictureSide < b.height := by
    unfold Bounded at hside
    omega
  simp [encode, hwidth, hheight, hsize, hlong]

/-- A bitmap that there is a file of is judged by the length of the file. -/
theorem encode_of_exact (h : b.Exact) (hside : b.Bounded) :
    b.encode limit = if limit < (Lossless.file b).size then
        .refused (.tooLarge (Lossless.file b).size)
      else .encoded ⟨Base64.encode (Lossless.file b), pictureMimeType⟩ := by
  obtain ⟨⟨hwidth, hheight⟩, hsize⟩ := h
  obtain ⟨hnarrow, hlow⟩ := hside
  simp [encode, hwidth, hheight, hsize, Nat.not_lt.mpr hnarrow, Nat.not_lt.mpr hlow]

/-- Encoding ends as one of the cases says. -/
theorem outcome_encode (limit : Nat) (b : Bitmap) : Outcome limit b (b.encode limit) := by
  by_cases hpixels : b.HasPixels
  · rcases Nat.lt_trichotomy b.pixels.size b.expectedSize with hshort | hexact | hlong
    · rw [encode_of_short hpixels hshort]
      exact .short hpixels hshort
    · have h : b.Exact := ⟨hpixels, hexact⟩
      by_cases hside : b.Bounded
      · rw [encode_of_exact h hside]
        split
        next hlarge => exact .tooLarge h hside hlarge
        next hfits =>
          apply Outcome.encoded _ h hside (Nat.le_of_not_lt hfits)
          · exact Base64.decode?_encode _
          · rfl
      · rw [encode_of_long_side h hside]
        exact .longSide h hside
    · have h : b.Overlong := ⟨hpixels.1, hpixels.2, hlong⟩
      rw [encode_of_overlong h]
      exact .overlong h
  · rw [encode_of_empty hpixels]
    exact .empty hpixels

/-- No two cases apply to one bitmap. -/
theorem Outcome.encode_eq {outcome : Encoding} (h : Outcome limit b outcome) :
    b.encode limit = outcome := by
  cases h with
  | empty h => exact encode_of_empty h
  | short h hshort => exact encode_of_short h hshort
  | overlong h => exact encode_of_overlong h
  | longSide h hside => exact encode_of_long_side h hside
  | tooLarge h hside hlarge =>
    rw [encode_of_exact h hside]
    exact if_pos hlarge
  | encoded picture h hside hfits htext hformat =>
    rw [encode_of_exact h hside, if_neg (Nat.not_lt.mpr hfits), ← hformat,
      ← Base64.decode?_eq_some_iff.mp htext]

/-- **Encoding breaks off exactly for buffers that are too long.** -/
theorem encode_eq_broken_iff : b.encode limit = .broken ↔ b.Overlong := by
  constructor
  · intro h
    have houtcome : Outcome limit b .broken := h ▸ outcome_encode limit b
    cases houtcome with
    | overlong h => exact h
  · exact encode_of_overlong

/-- **Encoding ends as the case that applies says.** The file that the last cases are about tells the size
of the bitmap. -/
theorem encode_eq_iff_outcome (limit : Nat) (b : Bitmap) :
    (∀ outcome, b.encode limit = outcome ↔ Outcome limit b outcome) ∧
      (b.Exact → b.Bounded → Lossless.sizeOfFile? (Lossless.file b).data = some (b.width, b.height)) := by
  constructor
  · intro outcome
    constructor
    · rintro rfl
      exact outcome_encode limit b
    · exact Outcome.encode_eq
  · rintro ⟨⟨hwidth, hheight⟩, -⟩ ⟨hnarrow, hlow⟩
    exact Lossless.sizeOfFile?_file ⟨Nat.pos_of_ne_zero hwidth, hnarrow⟩
      ⟨Nat.pos_of_ne_zero hheight, hlow⟩

/-- A pixel with a byte behind it breaks encoding off, whatever the limit is. And of a size that does not fit
into 64 bits, nothing may be left when it is reported. -/
theorem overlong_buffer_breaks :
    encode 1048576 ⟨1, 1, ⟨#[0, 128, 255, 255, 0]⟩⟩ = .broken ∧
      encode 1048576 ⟨2147483648, 2147483648, ⟨#[0]⟩⟩
        = .refused (.invalidBuffer 2147483648 2147483648 0 1) := by
  constructor
  · apply encode_of_overlong
    decide
  · apply encode_of_short
    · exact ⟨by decide, by decide⟩
    · decide

end Bitmap

end SessionReplay
