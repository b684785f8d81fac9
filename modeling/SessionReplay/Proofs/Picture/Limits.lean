import SessionReplay.Picture.Encoding

/-!
# Pictures within a limit

The text of some bytes stands for these bytes and nothing else (`Base64.decode?_encode`): every six
bits have a character of their own, which is never the equals sign, so the last four characters tell
how many bytes were left over. Hence the text of a picture that was encoded stands for a file which
is not larger than was allowed (`Bitmap.fits_of_encode`).
-/

namespace SessionReplay

namespace Base64

/-! ## Characters -/

/-- A digit has the value that it was written for. -/
theorem value?_digits : ∀ n ∈ List.range 64, value? (digit n) = some n := by
  decide

/-- Six bits are read back from their character. -/
theorem value?_digit {n : Nat} (h : n < 64) : value? (digit n) = some n :=
  value?_digits n (List.mem_range.mpr h)

/-- The equals sign is no character of six bits. -/
theorem digit_ne_equals {n : Nat} (h : n < 64) : digit n ≠ '=' := by
  intro heq
  have hvalue := value?_digit h
  rw [heq] at hvalue
  cases hvalue

/-! ## Four characters -/

section Quartets

variable {a b c d : Nat}

/-- Four characters stand for three bytes. -/
theorem quartet?_three (ha : a < 64) (hb : b < 64) (hc : c < 64) (hd : d < 64) :
    quartet? (digit a) (digit b) (digit c) (digit d)
      = some [UInt8.ofNat ((((a * 64 + b) * 64 + c) * 64 + d) / 65536),
          UInt8.ofNat ((((a * 64 + b) * 64 + c) * 64 + d) / 256 % 256),
          UInt8.ofNat ((((a * 64 + b) * 64 + c) * 64 + d) % 256)] := by
  have hlast := digit_ne_equals hd
  unfold quartet?
  split
  · exact absurd ‹_› hlast
  · exact absurd ‹_› hlast
  · simp only [value?_digit ha, value?_digit hb, value?_digit hc, value?_digit hd,
      Option.bind_eq_bind, Option.bind_some, Option.pure_def]

/-- Three characters and an equals sign stand for two bytes. -/
theorem quartet?_two (ha : a < 64) (hb : b < 64) (hc : c < 64) :
    quartet? (digit a) (digit b) (digit c) '='
      = some [UInt8.ofNat (((a * 64 + b) * 64 + c) / 1024),
          UInt8.ofNat (((a * 64 + b) * 64 + c) / 4 % 256)] := by
  have hlast := digit_ne_equals hc
  unfold quartet?
  split
  · exact absurd ‹_› hlast
  · simp only [value?_digit ha, value?_digit hb, value?_digit hc, Option.bind_eq_bind,
      Option.bind_some, Option.pure_def]
  · contradiction

/-- Two characters and two equals signs stand for one byte. -/
theorem quartet?_one (ha : a < 64) (hb : b < 64) :
    quartet? (digit a) (digit b) '=' '=' = some [UInt8.ofNat ((a * 64 + b) / 16)] := by
  unfold quartet?
  simp only [value?_digit ha, value?_digit hb, Option.bind_eq_bind, Option.bind_some,
    Option.pure_def]

end Quartets

/-! ## Texts -/

/-- What was written before stays. -/
theorem encodeFrom_append : ∀ (written : List Char) (bytes : List UInt8),
    encodeFrom written bytes = encodeFrom [] bytes ++ written
  | written, a :: b :: c :: rest => by
    simp only [encodeFrom]
    rw [encodeFrom_append _ rest, encodeFrom_append [_, _, _, _] rest, List.append_assoc]
    rfl
  | _, [_, _] => rfl
  | _, [_] => rfl
  | _, [] => rfl

/-- Reading gives back the bytes that were written. -/
theorem decodeFrom_encodeFrom : ∀ read bytes : List UInt8,
    decodeFrom read (encodeFrom [] bytes).reverse = some (read.reverse ++ bytes)
  | read, a :: b :: c :: rest => by
    have ha : a.toNat < 256 := a.toNat_lt_size
    have hb : b.toNat < 256 := b.toNat_lt_size
    have hc : c.toNat < 256 := c.toNat_lt_size
    simp only [encodeFrom]
    rw [encodeFrom_append, List.reverse_append]
    simp only [List.reverse_cons, List.reverse_nil, List.nil_append, List.cons_append, decodeFrom]
    rw [quartet?_three (by omega) (by omega) (by omega) (by omega), Option.bind_eq_bind,
      Option.bind_some, decodeFrom_encodeFrom _ rest]
    generalize hn : (a.toNat * 256 + b.toNat) * 256 + c.toNat = n
    have hall : ((n / 262144 * 64 + n / 4096 % 64) * 64 + n / 64 % 64) * 64 + n % 64 = n := by omega
    rw [hall, show n / 65536 = a.toNat by omega, show n / 256 % 256 = b.toNat by omega,
      show n % 256 = c.toNat by omega]
    simp
  | read, [a, b] => by
    have ha : a.toNat < 256 := a.toNat_lt_size
    have hb : b.toNat < 256 := b.toNat_lt_size
    simp only [encodeFrom, List.reverse_cons, List.reverse_nil, List.nil_append, List.cons_append,
      decodeFrom]
    rw [quartet?_two (by omega) (by omega) (by omega)]
    generalize hn : (a.toNat * 256 + b.toNat) * 4 = n
    have hall : (n / 4096 * 64 + n / 64 % 64) * 64 + n % 64 = n := by omega
    rw [hall, show n / 1024 = a.toNat by omega, show n / 4 % 256 = b.toNat by omega]
    simp
  | read, [a] => by
    have ha : a.toNat < 256 := a.toNat_lt_size
    simp only [encodeFrom, List.reverse_cons, List.reverse_nil, List.nil_append, List.cons_append,
      decodeFrom]
    rw [quartet?_one (by omega) (by omega),
      show (a.toNat * 16 / 64 * 64 + a.toNat * 16 % 64) / 16 = a.toNat by omega]
    simp
  | read, [] => by simp [encodeFrom, decodeFrom]

/-- **The text of some bytes stands for them.** -/
theorem decode?_encode (bytes : ByteArray) : decode? (encode bytes) = some bytes.data.toList := by
  unfold decode? encode
  rw [String.toList_ofList, decodeFrom_encodeFrom]
  simp

end Base64

/-! ## Pictures -/

/-- The text of a picture stands for a picture file of at most so many bytes. -/
structure EncodedPicture.Fits (limit : Nat) (p : EncodedPicture) : Prop where
  /-- It is a picture file. -/
  file : p.mimeType = pictureMimeType
  /-- It is not too large. -/
  size : ∃ bytes, Base64.decode? p.base64 = some bytes ∧ bytes.length ≤ limit

/-- **A picture that was encoded is not larger than was allowed.** -/
theorem Bitmap.fits_of_encode {limit : Nat} {b : Bitmap} {p : EncodedPicture}
    (h : b.encode limit = .encoded p) : p.Fits limit := by
  unfold encode at h
  dsimp only at h
  generalize Lossless.file b = file at h
  iterate 5
    split at h
    · cases h
  next hsize =>
    cases h
    exact ⟨rfl, _, Base64.decode?_encode file, Nat.le_of_not_lt hsize⟩

end SessionReplay
