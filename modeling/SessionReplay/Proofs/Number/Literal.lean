import SessionReplay.Json.Reader
import SessionReplay.Number.Literal
import SessionReplay.Number.Shortest
import Mathlib.Algebra.Order.Field.Rat
import Mathlib.Tactic.Ring

/-!
# Written numbers

What a written number stands for. An integer is read back as it was written
(`DecimalLiteral.integer_integerLiteral`). A number that need not be an integer is spelled with digits
before a point, digits behind it and a power of ten (`Spelling`): every spelling is a number of the
standard (`Spelling.isUnsigned_text`), and it stands for the digits before and behind the point in one
row, with the power of ten moved by the length of the fraction (`Spelling.ofChars_text`).

All three forms in which a decimal is written are spellings, and each of them has the size of the
decimal (`DecimalFormat.write_spelling`).
-/

namespace SessionReplay

/-! ## Rows of digits -/

namespace DecimalLiteral

/-- The number that digits stand for is the one that the library reads. -/
theorem natural_eq (digits : List Char) : natural digits = Nat.ofDigitChars 10 digits 0 := by
  unfold natural
  rw [Nat.ofDigitChars_eq_foldl]
  congr 1
  funext n c
  rw [Nat.mul_comm]
  rfl

/-- Digits put behind others move those up. -/
theorem natural_append (ds es : List Char) :
    natural (ds ++ es) = natural ds * 10 ^ es.length + natural es := by
  rw [natural_eq, Nat.ofDigitChars_append, Nat.ofDigitChars_eq_ofDigitChars_zero, natural_eq,
    natural_eq, Nat.mul_comm]

/-- Written digits are read back. -/
@[simp]
theorem natural_toDigits (n : Nat) : natural (Nat.toDigits 10 n) = n := by
  rw [natural_eq, Nat.ofDigitChars_ten_toDigits]

/-- Zeros stand for zero. -/
@[simp]
theorem natural_zeros (n : Nat) : natural (List.replicate n '0') = 0 := by
  rw [natural_eq, Nat.ofDigitChars_replicate_zero, Nat.mul_zero]

/-- Zeros in front change nothing. -/
theorem natural_zeros_append (n : Nat) (ds : List Char) :
    natural (List.replicate n '0' ++ ds) = natural ds := by
  rw [natural_append, natural_zeros, Nat.zero_mul, Nat.zero_add]

/-- Zeros behind are factors of ten. -/
theorem natural_append_zeros (ds : List Char) (n : Nat) :
    natural (ds ++ List.replicate n '0') = natural ds * 10 ^ n := by
  rw [natural_append, natural_zeros, List.length_replicate, Nat.add_zero]

/-- The size of the number that a literal stands for. -/
def size (l : DecimalLiteral) : ℚ := l.digits * 10 ^ l.exponent

end DecimalLiteral

/-- What begins with something begins with its beginning. -/
theorem head?_append_of_ne_nil {ds : List Char} (h : ds ≠ []) (es : List Char) :
    (ds ++ es).head? = ds.head? := by
  rw [List.head?_append, Option.or_of_isSome (List.isSome_head?.mpr h)]

/-- A number is written with digits only. -/
theorem isDigit_toDigits {n : Nat} {c : Char} (h : c ∈ Nat.toDigits 10 n) : c.isDigit = true :=
  Nat.isDigit_of_mem_toDigits (by decide) (by decide) h

/-- The first digit of a number other than zero is not a zero. -/
theorem head_toDigits {n : Nat} (h : 0 < n) : (Nat.toDigits 10 n).head? ≠ some '0' := by
  induction n using Nat.strongRecOn with
  | ind n ih =>
    rw [Nat.toDigits_eq_if (by decide)]
    split
    · intro hzero
      rw [List.head?_cons, Option.some.injEq, Nat.digitChar_eq_zero] at hzero
      omega
    · have hhead := ih (n / 10) (by omega) (by omega)
      rwa [head?_append_of_ne_nil Nat.toDigits_ne_nil]

/-- Digits without a sign are read as a natural number. -/
theorem DecimalLiteral.integer_digits {ds : List Char} (h : ∀ c ∈ ds, c.isDigit = true) :
    integer ds = natural ds := by
  unfold integer
  split
  · next rest => exact absurd (h '-' List.mem_cons_self) (by decide)
  · next rest => exact absurd (h '+' List.mem_cons_self) (by decide)
  · rfl

/-- **An integer is read as it was written.** -/
theorem DecimalLiteral.integer_integerLiteral (n : Int) : integer (Json.integerLiteral n) = n := by
  unfold Json.integerLiteral
  split
  · rw [integer, natural_toDigits]
    omega
  · rw [integer_digits fun c => isDigit_toDigits, natural_toDigits]
    omega

/-! ## Spellings -/

/-- The parts of a number without a sign, each of them as the standard wants it. -/
structure Spelling where
  /-- Digits before the point. -/
  whole : List Char
  /-- Digits behind the point; if there are none then there is no point either. -/
  fraction : List Char
  /-- The power of ten, with its sign; if it is empty then so is its mark. -/
  power : List Char
  /-- There is a digit before the point. -/
  whole_ne_nil : whole ≠ []
  whole_digits : ∀ c ∈ whole, c.isDigit = true
  /-- A leading zero stands alone. -/
  whole_leading : whole = ['0'] ∨ whole.head? ≠ some '0'
  fraction_digits : ∀ c ∈ fraction, c.isDigit = true
  power_valid : power = [] ∨ Json.isExponent ('e' :: power) = true

namespace Spelling

variable (s : Spelling)

/-- The power of ten with its mark. -/
def powerText : List Char := if s.power.isEmpty then [] else 'e' :: s.power

/-- What stands behind the digits before the point. -/
def rest : List Char :=
  (if s.fraction.isEmpty then [] else '.' :: s.fraction) ++ s.powerText

/-- The number as it is written. -/
def text : List Char := s.whole ++ s.rest

/-- The size of the number: all digits in one row, with the power of ten of the last of them. -/
def size : ℚ :=
  DecimalLiteral.natural (s.whole ++ s.fraction)
    * 10 ^ (DecimalLiteral.integer s.power - s.fraction.length)

/-- The mark of the power, if any, is no digit. -/
theorem head_powerText : ∀ c ∈ s.powerText.head?, c = 'e' := by
  unfold powerText
  split
  · exact nofun
  · rintro _ ⟨⟩
    rfl

/-- What stands behind the digits before the point does not begin with one more. -/
theorem head_rest : ∀ c ∈ s.rest.head?, c.isDigit = false := by
  unfold rest
  split
  · intro c hc
    rw [s.head_powerText c hc]
    rfl
  · rintro _ ⟨⟩
    rfl

/-- Digits end where the next character is none. -/
theorem takeWhile_digits {ds rest : List Char} (hds : ∀ c ∈ ds, c.isDigit = true)
    (hrest : ∀ c ∈ rest.head?, c.isDigit = false) :
    (ds ++ rest).takeWhile Char.isDigit = ds := by
  rw [List.takeWhile_append_of_pos hds]
  cases rest with
  | nil => exact List.append_nil ds
  | cons c rest =>
    rw [List.takeWhile_cons_of_neg (by simp [hrest c rfl]), List.append_nil]

/-- Behind the digits stands the rest. -/
theorem dropWhile_digits {ds rest : List Char} (hds : ∀ c ∈ ds, c.isDigit = true)
    (hrest : ∀ c ∈ rest.head?, c.isDigit = false) :
    (ds ++ rest).dropWhile Char.isDigit = rest := by
  rw [List.dropWhile_append_of_pos hds]
  cases rest with
  | nil => rfl
  | cons c rest => rw [List.dropWhile_cons_of_neg (by simp [hrest c rfl])]

/-- The power that is written does not begin with a digit. -/
theorem powerText_noDigit : ∀ c ∈ s.powerText.head?, c.isDigit = false := by
  intro c hc
  rw [s.head_powerText c hc]
  rfl

/-- The power that is written is one by the grammar. -/
theorem isExponent_powerText : Json.isExponent s.powerText = true := by
  unfold powerText
  rcases s.power_valid with h | h
  · rw [h]
    rfl
  · split
    · rfl
    · exact h

/-- What is written behind the digits is a fraction and a power by the grammar. -/
theorem isFraction_rest : Json.isFraction s.rest = true := by
  have hpower := s.isExponent_powerText
  unfold rest
  split
  · rw [List.nil_append]
    unfold Json.isFraction
    split
    · next heq => exact absurd (s.head_powerText '.' (by rw [heq]; rfl)) (by decide)
    · exact hpower
  · next hfraction =>
    rw [List.cons_append, Json.isFraction, takeWhile_digits s.fraction_digits s.powerText_noDigit,
      dropWhile_digits s.fraction_digits s.powerText_noDigit, hpower]
    simpa using hfraction

/-- **A spelling is a number of the standard.** -/
theorem isUnsigned_text : Json.isUnsigned s.text = true := by
  have hrest := s.isFraction_rest
  have hne := s.whole_ne_nil
  have hdigits := s.whole_digits
  have hleading := s.whole_leading
  unfold text
  cases hw : s.whole with
  | nil => exact absurd hw hne
  | cons c cs =>
    rw [hw] at hdigits hleading
    rw [List.cons_append]
    unfold Json.isUnsigned
    split
    · next heq => cases heq
    · next heq =>
      cases heq
      rcases hleading with h | h
      · rw [(List.cons.inj h).2]
        exact hrest
      · exact absurd rfl h
    · next heq =>
      cases heq
      rw [dropWhile_digits (fun d hd => hdigits d (List.mem_cons_of_mem _ hd)) s.head_rest, hrest,
        hdigits _ List.mem_cons_self]
      rfl

/-- A digit does not mark a power of ten. -/
theorem ne_mark {c : Char} (h : c.isDigit = true) : (c != 'e' && c != 'E') = true := by
  rw [Bool.and_eq_true, bne_iff_ne, bne_iff_ne]
  constructor
  · rintro rfl
    cases h
  · rintro rfl
    cases h

/-- Dropping everything before the mark of the power leaves the power. -/
theorem dropWhile_text :
    (s.text.dropWhile fun c => c != 'e' && c != 'E') = s.powerText := by
  have hwhole : ∀ c ∈ s.whole, (c != 'e' && c != 'E') = true := fun c hc =>
    ne_mark (s.whole_digits c hc)
  have hfraction : ∀ c ∈ (if s.fraction.isEmpty then [] else '.' :: s.fraction),
      (c != 'e' && c != 'E') = true := by
    split
    · exact nofun
    · exact List.forall_mem_cons.mpr ⟨rfl, fun c hc => ne_mark (s.fraction_digits c hc)⟩
  unfold text rest
  rw [List.dropWhile_append_of_pos hwhole, List.dropWhile_append_of_pos hfraction]
  unfold powerText
  split
  · rfl
  · exact List.dropWhile_cons_of_neg (by decide)

/-- A spelling has no sign. -/
theorem head_text : s.text.head? ≠ some '-' := by
  unfold text
  rw [head?_append_of_ne_nil s.whole_ne_nil]
  intro hminus
  exact absurd (s.whole_digits '-' (List.mem_of_head? hminus)) (by decide)

/-- What stands behind the point begins with the fraction. -/
theorem takeWhile_fraction {cs : List Char} (h : s.rest = '.' :: cs) :
    cs.takeWhile Char.isDigit = s.fraction := by
  unfold rest at h
  split at h
  · exact absurd (s.head_powerText '.' (by rw [show s.powerText = _ from h]; rfl)) (by decide)
  · obtain ⟨-, rfl⟩ := List.cons.inj h
    exact takeWhile_digits s.fraction_digits s.powerText_noDigit

/-- Without a point there is no fraction. -/
theorem fraction_eq_nil (h : ∀ cs, s.rest ≠ '.' :: cs) : s.fraction = [] := by
  unfold rest at h
  split at h
  · next hempty => exact List.isEmpty_iff.mp hempty
  · exact absurd rfl (h _)

/-- **What a spelling stands for.** -/
theorem ofChars_text : DecimalLiteral.ofChars s.text
    = ⟨false, DecimalLiteral.natural (s.whole ++ s.fraction),
        DecimalLiteral.integer s.power - s.fraction.length⟩ := by
  have hnegative : (s.text.head? == some '-') = false := beq_eq_false_iff_ne.mpr s.head_text
  have hpower : s.powerText.drop 1 = s.power := by
    unfold powerText
    split
    · next h => rw [List.isEmpty_iff.mp h]; rfl
    · rfl
  have htake : s.text.takeWhile Char.isDigit = s.whole :=
    takeWhile_digits s.whole_digits s.head_rest
  have hdrop : s.text.dropWhile Char.isDigit = s.rest :=
    dropWhile_digits s.whole_digits s.head_rest
  unfold DecimalLiteral.ofChars
  simp only [hnegative, Bool.false_eq_true, if_false, s.dropWhile_text, hpower, htake, hdrop]
  split
  · next cs heq => rw [s.takeWhile_fraction heq]
  · next hpoint => rw [s.fraction_eq_nil hpoint]

/-- A spelling is read back as the number that it stands for. -/
theorem size_ofChars_text : (DecimalLiteral.ofChars s.text).size = s.size := by
  rw [ofChars_text]
  rfl

end Spelling

/-- A minus sign in front of a number without one changes nothing but the sign. -/
theorem DecimalLiteral.ofChars_minus {cs : List Char} (h : cs.head? ≠ some '-') :
    ofChars ('-' :: cs) = { ofChars cs with negative := true } := by
  have hnegative : (cs.head? == some '-') = false := beq_eq_false_iff_ne.mpr h
  unfold ofChars
  simp only [hnegative, Bool.false_eq_true, if_false]
  rfl

namespace Spelling

variable (s : Spelling)

/-- The number with its sign. -/
def signed (neg : Bool) : List Char := if neg then '-' :: s.text else s.text

/-- A spelling is a number by the grammar, also with a sign. -/
theorem isNumber_signed (neg : Bool) : Json.isNumber (s.signed neg) = true := by
  unfold signed
  split
  · exact s.isUnsigned_text
  · unfold Json.isNumber
    split
    · next heq => exact absurd (by rw [heq]; rfl) s.head_text
    · exact s.isUnsigned_text

/-- A sign that is written is read back. -/
theorem ofChars_signed (neg : Bool) :
    DecimalLiteral.ofChars (s.signed neg) = { DecimalLiteral.ofChars s.text with negative := neg } := by
  unfold signed
  split
  · next hneg => rw [DecimalLiteral.ofChars_minus s.head_text, hneg]
  · next hpos => rw [s.ofChars_text, Bool.eq_false_iff.mpr hpos]

/-- A natural number. -/
def ofNat (n : Nat) : Spelling where
  whole := Nat.toDigits 10 n
  fraction := []
  power := []
  whole_ne_nil := Nat.toDigits_ne_nil
  whole_digits _ := isDigit_toDigits
  whole_leading := by
    cases n with
    | zero => exact .inl rfl
    | succ n => exact .inr (head_toDigits n.succ_pos)
  fraction_digits := nofun
  power_valid := .inl rfl

/-- Zero, with a point. -/
def zero : Spelling where
  whole := ['0']
  fraction := ['0']
  power := []
  whole_ne_nil := List.cons_ne_nil _ _
  whole_digits := List.forall_mem_singleton.mpr rfl
  whole_leading := .inl rfl
  fraction_digits := List.forall_mem_singleton.mpr rfl
  power_valid := .inl rfl

/-- The spelling of zero stands for zero. -/
theorem size_zero : zero.size = 0 := mul_eq_zero_of_left (Nat.cast_eq_zero.mpr rfl) _

end Spelling

/-- **An integer is written as a number of the standard.** -/
theorem Json.isNumber_integerLiteral (n : Int) : isNumber (integerLiteral n) = true := by
  have hliteral : integerLiteral n = (Spelling.ofNat n.natAbs).signed (n < 0) := by
    have htext : (Spelling.ofNat n.natAbs).text = Nat.toDigits 10 n.natAbs := List.append_nil _
    unfold integerLiteral Spelling.signed
    rw [htext]
    simp
  rw [hliteral]
  exact Spelling.isNumber_signed _ _

/-! ## The written forms of a decimal -/

/-- A decimal as it is written: there is a first digit, and it is not zero. -/
structure Decimal.Proper (d : Decimal) : Prop where
  ne_nil : d.digits ≠ []
  digits : ∀ c ∈ d.digits, c.isDigit = true
  leading : d.digits.head? ≠ some '0'

/-- The number that a decimal is. -/
def Decimal.size (d : Decimal) : ℚ :=
  DecimalLiteral.natural d.digits * 10 ^ (d.exponent + 1 - d.digits.length)

namespace Decimal.Proper

variable {d : Decimal} (h : d.Proper)

/-- Below one: zeros behind the point. -/
def small : Spelling where
  whole := ['0']
  fraction := List.replicate (-d.exponent - 1).toNat '0' ++ d.digits
  power := []
  whole_ne_nil := List.cons_ne_nil _ _
  whole_digits := List.forall_mem_singleton.mpr rfl
  whole_leading := .inl rfl
  fraction_digits c hc := by
    rcases List.mem_append.mp hc with hc | hc
    · rw [List.eq_of_mem_replicate hc]
      rfl
    · exact h.digits c hc
  power_valid := .inl rfl

/-- One or more: digits or zeros before the point, and the digits that are left behind it. -/
def plain : Spelling where
  whole := d.digits.take (d.exponent.toNat + 1)
    ++ List.replicate (d.exponent.toNat + 1 - d.digits.length) '0'
  fraction :=
    if (d.digits.drop (d.exponent.toNat + 1)).isEmpty then ['0']
    else d.digits.drop (d.exponent.toNat + 1)
  power := []
  whole_ne_nil := by simp [h.ne_nil]
  whole_digits c hc := by
    rcases List.mem_append.mp hc with hc | hc
    · exact h.digits c (List.mem_of_mem_take hc)
    · rw [List.eq_of_mem_replicate hc]
      rfl
  whole_leading := .inr (by
    obtain ⟨c, cs, hc⟩ := List.exists_cons_of_ne_nil h.ne_nil
    have hleading := h.leading
    rw [hc] at hleading ⊢
    simpa using hleading)
  fraction_digits c hc := by
    split at hc
    · rw [List.mem_singleton.mp hc]
      rfl
    · exact h.digits c (List.mem_of_mem_drop hc)
  power_valid := .inl rfl

/-- Any size: one digit before the point, and a power of ten. -/
def scientific : Spelling where
  whole := d.digits.take 1
  fraction := d.digits.drop 1
  power := (if d.exponent < 0 then '-' else '+') :: digitsOf d.exponent.natAbs
  whole_ne_nil := by simp [h.ne_nil]
  whole_digits c hc := h.digits c (List.mem_of_mem_take hc)
  whole_leading := .inr (by simpa [List.head?_take] using h.leading)
  fraction_digits c hc := h.digits c (List.mem_of_mem_drop hc)
  power_valid := .inr (by
    have hdigits : ∀ c ∈ Nat.toDigits 10 d.exponent.natAbs, c.isDigit = true :=
      fun c => isDigit_toDigits
    split <;> simpa [Json.isExponent, digitsOf] using hdigits)

/-- A number that is written with zeros in front keeps its size. -/
theorem size_small (hneg : d.exponent < 0) : h.small.size = d.size := by
  have hdigits : DecimalLiteral.natural (h.small.whole ++ h.small.fraction)
      = DecimalLiteral.natural d.digits :=
    DecimalLiteral.natural_zeros_append ((-d.exponent - 1).toNat + 1) d.digits
  have hexponent : DecimalLiteral.integer h.small.power - h.small.fraction.length
      = d.exponent + 1 - d.digits.length := by
    simp [small, DecimalLiteral.integer, DecimalLiteral.natural]
    omega
  rw [Spelling.size, hdigits, hexponent, size]

/-- A number that is written in full keeps its size. -/
theorem size_plain (hpos : 0 ≤ d.exponent) : h.plain.size = d.size := by
  obtain ⟨e, he⟩ := Int.eq_ofNat_of_zero_le hpos
  rw [Spelling.size, size, he]
  simp only [plain, he, Int.toNat_natCast]
  by_cases hlong : e + 1 < d.digits.length
  · have hzeros : e + 1 - d.digits.length = 0 := by omega
    have hfraction : (d.digits.drop (e + 1)).isEmpty = false := by
      rw [Bool.eq_false_iff, Ne, List.isEmpty_iff, List.drop_eq_nil_iff]
      omega
    have hexponent : (0 : Int) - ((d.digits.length - (e + 1) : Nat) : Int)
        = e + 1 - d.digits.length := by omega
    rw [hfraction, hzeros, List.replicate_zero, List.append_nil, if_neg Bool.false_ne_true,
      List.take_append_drop, List.length_drop]
    exact congrArg _ (congrArg _ hexponent)
  · have hfraction : d.digits.drop (e + 1) = [] := List.drop_eq_nil_of_le (by omega)
    have hexponent : (10 : ℚ) ^ ((e : Int) + 1 - d.digits.length)
        = 10 ^ (e + 1 - d.digits.length) := by
      rw [← zpow_natCast]
      congr 1
      omega
    have hnatural : DecimalLiteral.natural
          (d.digits ++ List.replicate (e + 1 - d.digits.length) '0' ++ ['0'])
        = DecimalLiteral.natural d.digits * 10 ^ (e + 1 - d.digits.length) * 10 := by
      rw [DecimalLiteral.natural_append, DecimalLiteral.natural_append_zeros]
      rfl
    rw [hfraction, List.take_of_length_le (by omega), List.isEmpty_nil, if_pos rfl, hnatural,
      hexponent]
    push_cast
    have hpoint : (10 : ℚ) ^ (DecimalLiteral.integer [] - (['0'].length : Int)) = 10⁻¹ := rfl
    rw [hpoint, mul_inv_cancel_right₀ (by decide)]

/-- A number that is written with a power keeps its size. -/
theorem size_scientific : h.scientific.size = d.size := by
  have hpower : DecimalLiteral.integer h.scientific.power = d.exponent := by
    unfold scientific
    split
    · rw [DecimalLiteral.integer, digitsOf, DecimalLiteral.natural_toDigits]
      omega
    · rw [DecimalLiteral.integer, digitsOf, DecimalLiteral.natural_toDigits]
      omega
  have hlength : 0 < d.digits.length := List.length_pos_iff.mpr h.ne_nil
  have hexponent : d.exponent - (d.digits.drop 1).length = d.exponent + 1 - d.digits.length := by
    rw [List.length_drop]
    omega
  rw [Spelling.size, hpower, size, ← hexponent]
  unfold scientific
  rw [List.take_append_drop]

end Decimal.Proper

/-- **A decimal is written as a number of its size.** -/
theorem DecimalFormat.write_spelling (format : DecimalFormat) {d : Decimal} (h : d.Proper) :
    ∃ s : Spelling, format.write d = s.text ∧ s.size = d.size := by
  unfold write
  split
  · split
    · next hneg =>
      refine ⟨h.small, ?_, h.size_small hneg⟩
      simp [Spelling.text, Spelling.rest, Spelling.powerText, Decimal.Proper.small, h.ne_nil]
    · next hpos =>
      refine ⟨h.plain, ?_, h.size_plain (Int.not_lt.mp hpos)⟩
      have hfraction : h.plain.fraction.isEmpty = false := by
        unfold Decimal.Proper.plain
        dsimp only
        split
        · rfl
        · next hne => exact Bool.eq_false_iff.mpr hne
      rw [Spelling.text, Spelling.rest, hfraction]
      simp [Spelling.powerText, Decimal.Proper.plain]
  · refine ⟨h.scientific, ?_, h.size_scientific⟩
    simp [Spelling.text, Spelling.rest, Spelling.powerText, Decimal.Proper.scientific]

end SessionReplay
