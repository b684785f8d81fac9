import SessionReplay.Proofs.Number.Shortest

/-!
# A written number is read back

A finite number that is not an integer is written as a decimal near it. Reading rounds the decimal, and
gives the number that was written (`Single.text_readable`).

Rounding takes a ratio to the integer nearest to it, a tie going to the even one (`Rounding.nearest_eq`),
in units that leave it twenty-four bits (`Rounding.exponent_spec`). The ratios in the interval around a
number are those to which it is nearest (`Single.nearest_of_covers`). Only below a power of two are
the units half as large as those of the number itself, and the mantissa has one bit more before it is
put right (`Single.toBinary_of_covers`).
-/

namespace SessionReplay

/-! ## Rounding -/

namespace Rounding

/-- The logarithm is a lower bound. -/
theorem log2_le {n : Nat} (h : 0 < n) : (2 : ℚ) ^ (n.log2 : Int) ≤ n := by
  rw [zpow_natCast]
  exact_mod_cast Nat.log2_self_le h.ne'

/-- The logarithm is less than one below the number. -/
theorem lt_log2 (n : Nat) : (n : ℚ) < 2 ^ ((n.log2 : Int) + 1) := by
  have h : n < 2 ^ (n.log2 + 1) := Nat.lt_log2_self
  exact_mod_cast h

/-- Shifting one side or the other is multiplying by a power of two. -/
theorem shiftLeft_div (num den : Nat) (q : Int) :
    ((num <<< (-q).toNat : Nat) : ℚ) / (den <<< q.toNat : Nat) = num / den / 2 ^ q := by
  rw [zpow_eq_div (by norm_num) q, Nat.shiftLeft_eq, Nat.shiftLeft_eq]
  push_cast
  field_simp

/-- A power of two is at most a ratio exactly if the shifted sides say so. -/
theorem shiftLeft_le_iff {num den : Nat} (hden : 0 < den) (g : Int) :
    den <<< g.toNat ≤ num <<< (-g).toNat ↔ (2 : ℚ) ^ g ≤ num / den := by
  have hpos : (0 : ℚ) < (den <<< g.toNat : Nat) := Nat.cast_pos.mpr (Nat.shiftLeft_pos_iff.mpr hden)
  rw [← one_le_div₀ (two_zpow_pos g), ← shiftLeft_div, one_le_div₀ hpos, Nat.cast_le]

/-- **The exponent of a ratio** is that of the last power of two that is not above it. -/
theorem exponent_spec {num den : Nat} (hnum : 0 < num) (hden : 0 < den) :
    (2 : ℚ) ^ exponent num den ≤ num / den ∧ (num / den : ℚ) < 2 ^ (exponent num den + 1) := by
  have hden' : (0 : ℚ) < den := Nat.cast_pos.mpr hden
  generalize hguess : (num.log2 : Int) - den.log2 = guess
  have hbelow : (2 : ℚ) ^ (guess - 1) ≤ num / den := by
    rw [le_div_iff₀ hden']
    calc (2 : ℚ) ^ (guess - 1) * den
        ≤ 2 ^ (guess - 1) * 2 ^ ((den.log2 : Int) + 1) :=
          mul_le_mul_of_nonneg_left (lt_log2 den).le (two_zpow_pos _).le
      _ = 2 ^ (num.log2 : Int) := by
          rw [← zpow_add₀ (by norm_num), ← hguess]
          congr 1
          omega
      _ ≤ num := log2_le hnum
  have habove : (num / den : ℚ) < 2 ^ (guess + 1) := by
    rw [div_lt_iff₀ hden']
    calc (num : ℚ) < 2 ^ ((num.log2 : Int) + 1) := lt_log2 num
      _ = 2 ^ (guess + 1) * 2 ^ (den.log2 : Int) := by
          rw [← zpow_add₀ (by norm_num), ← hguess]
          congr 1
          omega
      _ ≤ 2 ^ (guess + 1) * den :=
          mul_le_mul_of_nonneg_left (log2_le hden) (two_zpow_pos _).le
  unfold exponent
  rw [hguess]
  dsimp only
  split
  · next hle => exact ⟨(shiftLeft_le_iff hden guess).mp hle, habove⟩
  · next hlt =>
    rw [sub_add_cancel]
    exact ⟨hbelow, lt_of_not_ge (mt (shiftLeft_le_iff hden guess).mpr hlt)⟩

/-- The exponent is below every power that is above the ratio. -/
theorem exponent_lt {num den : Nat} (hnum : 0 < num) (hden : 0 < den) {e : Int}
    (h : (num / den : ℚ) < 2 ^ e) : exponent num den < e :=
  (zpow_lt_zpow_iff_right₀ (by norm_num)).mp ((exponent_spec hnum hden).1.trans_lt h)

/-- The exponent is not below a power that is not above the ratio. -/
theorem le_exponent {num den : Nat} (hnum : 0 < num) (hden : 0 < den) {e : Int}
    (h : (2 : ℚ) ^ e ≤ num / den) : e ≤ exponent num den :=
  Int.lt_add_one_iff.mp
    ((zpow_lt_zpow_iff_right₀ (by norm_num)).mp (h.trans_lt (exponent_spec hnum hden).2))

/-- A ratio is nearest to `n`: it is at most a half away, and less than that if `n` is odd. -/
def Nearest (x : ℚ) (n : Nat) : Prop :=
  if n % 2 = 0 then n - 1 / 2 ≤ x ∧ x ≤ n + 1 / 2 else n - 1 / 2 < x ∧ x < n + 1 / 2

/-- The nearest integer is at most one half away. -/
theorem Nearest.bounds {x : ℚ} {n : Nat} (h : Nearest x n) : n - 1 / 2 ≤ x ∧ x ≤ n + 1 / 2 := by
  unfold Nearest at h
  split at h
  · exact h
  · exact ⟨h.1.le, h.2.le⟩

/-- The integer that a ratio is nearest to, by natural numbers. -/
theorem Nearest.of_ratio {num den n : Nat} (hden : 0 < den) (h : Nearest (num / den) n) :
    2 * (n * den) ≤ 2 * num + den ∧ 2 * num ≤ 2 * (n * den) + den
      ∧ (n % 2 = 1 → 2 * (n * den) < 2 * num + den ∧ 2 * num < 2 * (n * den) + den) := by
  have hden' : (0 : ℚ) < den := Nat.cast_pos.mpr hden
  have hle {a b : Nat} (h : (a : ℚ) ≤ b) : a ≤ b := Nat.cast_le.mp h
  have hlt {a b : Nat} (h : (a : ℚ) < b) : a < b := Nat.cast_lt.mp h
  obtain ⟨hlow, hhigh⟩ := h.bounds
  rw [le_div_iff₀ hden'] at hlow
  rw [div_le_iff₀ hden'] at hhigh
  refine ⟨hle ?_, hle ?_, fun hodd => ?_⟩
  · push_cast
    linarith
  · push_cast
    linarith
  · unfold Nearest at h
    rw [if_neg (by omega), lt_div_iff₀ hden', div_lt_iff₀ hden'] at h
    refine ⟨hlt ?_, hlt ?_⟩
    · push_cast
      linarith
    · push_cast
      linarith

/-- **Rounding finds the nearest integer.** -/
theorem nearest_eq {num den n : Nat} (hden : 0 < den) (h : Nearest (num / den) n) :
    nearest num den = n := by
  obtain ⟨hlow, hhigh, hodd⟩ := h.of_ratio hden
  have hdiv : num = num / den * den + num % den := (Nat.div_add_mod' num den).symm
  have hmod : num % den < den := Nat.mod_lt num hden
  unfold nearest
  dsimp only
  generalize num / den = below at *
  generalize num % den = r at *
  have hge : below ≤ n := by
    by_contra hlt
    have := Nat.mul_le_mul_right den (show n + 1 ≤ below by omega)
    rw [Nat.add_mul] at this
    omega
  have hle : n ≤ below + 1 := by
    by_contra hlt
    have := Nat.mul_le_mul_right den (show below + 2 ≤ n by omega)
    rw [Nat.add_mul] at this
    omega
  obtain rfl | rfl : n = below ∨ n = below + 1 := by omega
  · split
    · rfl
    · split <;> omega
  · rw [Nat.add_mul] at *
    split
    · omega
    · split <;> omega

/-- Rounding to twenty-four bits, given how many bits the ratio has. -/
theorem toBinary_eq {num den n : Nat} {q : Int} (hnum : 0 < num) (hden : 0 < den)
    (hq : max (exponent num den - 23) (-149) = q) (h : Nearest (num / den / 2 ^ q) n) :
    toBinary 24 (-149) num den = (n, q) := by
  rw [← shiftLeft_div] at h
  have hbinary : toBinary 24 (-149) num den
      = (nearest (num <<< (-max (exponent num den - 23) (-149)).toNat)
          (den <<< (max (exponent num den - 23) (-149)).toNat),
        max (exponent num den - 23) (-149)) := if_neg hnum.ne'
  rw [hbinary, hq, nearest_eq (Nat.shiftLeft_pos_iff.mpr hden) h]

end Rounding

/-! ## Finite numbers -/

namespace Single

/-- A mantissa and an exponent that the bits of a finite number can hold. -/
structure Fits (m : Nat) (q : Int) : Prop where
  mantissa : m < 2 * leadingBit
  least : -149 ≤ q
  greatest : q ≤ 104
  /-- Without its leading bit a mantissa stands with the least exponent only. -/
  dense : m < leadingBit → q = -149

/-- The bits of a finite number but for its sign. -/
def packed (m : Nat) (q : Int) : Nat :=
  if m < leadingBit then m else (q + 150).toNat <<< 23 + (m - leadingBit)

/-- The sign bit, as it is put in front of the others. -/
def signBit (neg : Bool) : Nat := if neg then 0x80000000 else 0

/-- The exponent has eight bits. -/
theorem exponentField_lt (x : Single) : x.exponentField < 256 := Nat.mod_lt _ (by decide)

/-- The fraction has twenty-three bits. -/
theorem fractionField_lt (x : Single) : x.fractionField < leadingBit := Nat.mod_lt _ (by decide)

/-- All bits, by their fields. -/
theorem bits_eq (x : Single) :
    x.bits.toNat = x.exponentField * leadingBit + x.fractionField + signBit x.negative := by
  have hsize : x.bits.toNat < 2 ^ 32 := x.bits.toNat_lt
  unfold exponentField fractionField negative signBit leadingBit
  rw [Nat.shiftRight_eq_div_pow, Nat.testBit_eq_decide_div_mod_eq]
  by_cases hsign : x.bits.toNat / 2 ^ 31 % 2 = 1
  · rw [decide_eq_true hsign, if_pos rfl]
    omega
  · rw [decide_eq_false hsign, if_neg Bool.false_ne_true]
    omega

/-- Zero is packed as zero. -/
theorem packed_zero (q : Int) : packed 0 q = 0 := if_pos (by decide)

/-- The bits of a finite number are those of its sign, exponent and mantissa. -/
theorem of_read {x : Single} {neg : Bool} {m : Nat} {q : Int} (h : x.read = .finite neg m q) :
    Fits m q ∧ x.bits.toNat = packed m q + signBit neg := by
  have hexponent := x.exponentField_lt
  have hfraction := x.fractionField_lt
  rw [bits_eq]
  unfold read at h
  unfold packed
  rw [Nat.shiftLeft_eq]
  split at h
  · split at h <;> cases h
  · split at h
    · next hzero =>
      cases h
      rw [if_pos hfraction, hzero, Nat.zero_mul, Nat.zero_add]
      exact ⟨⟨by omega, by omega, by omega, fun _ => rfl⟩, rfl⟩
    · next hmax hzero =>
      cases h
      have hpower : ((x.exponentField : Int) - 150 + 150).toNat = x.exponentField := by omega
      rw [if_neg (by omega), hpower, Nat.add_sub_cancel_left]
      exact ⟨⟨by omega, by omega, by omega, by omega⟩, rfl⟩

/-! ## Reading -/

section

variable {m : Nat} {q : Int} {x : ℚ}

/-- A quarter of a power of two. -/
theorem quarter (q : Int) : (2 : ℚ) ^ (q - 2) = 2 ^ q / 4 := by
  rw [zpow_sub₀ (by norm_num)]
  norm_num

/-- The interval around a number is where that number is nearest. -/
theorem nearest_of_covers (hm : 0 < m)
    (h : (Decimal.Interval.around m q).Covers (2 ^ (q - 2)) x) :
    Rounding.Nearest (x / 2 ^ q) m := by
  have hpow := two_zpow_pos q
  rw [quarter] at h
  have hlow : (m - 1 / 2 : ℚ) * 2 ^ q
      ≤ (Decimal.Interval.around m q).low * (2 ^ q / 4) := by
    have hlow : (4 * m : ℚ) ≤ (Decimal.Interval.around m q).low + 2 := by
      exact_mod_cast (Decimal.Interval.low_around hm q).1
    have := mul_le_mul_of_nonneg_right hlow hpow.le
    linarith
  have hhigh : ((Decimal.Interval.around m q).high : ℚ) * (2 ^ q / 4) = (m + 1 / 2) * 2 ^ q := by
    change ((4 * m + 2 : Nat) : ℚ) * _ = _
    push_cast
    ring
  unfold Decimal.Interval.Covers at h
  rw [hhigh] at h
  unfold Rounding.Nearest
  split
  · next heven =>
    rw [if_pos (show (Decimal.Interval.around m q).closed = true from beq_iff_eq.mpr heven)] at h
    rw [le_div_iff₀ hpow, div_le_iff₀ hpow]
    exact ⟨hlow.trans h.1, h.2⟩
  · next hodd =>
    rw [if_neg (show ¬(Decimal.Interval.around m q).closed = true from mt beq_iff_eq.mp hodd)] at h
    rw [lt_div_iff₀ hpow, div_lt_iff₀ hpow]
    exact ⟨hlow.trans_lt h.1, h.2⟩

/-- Of the numbers with the leading bit alone, the interval reaches down to where twice the
mantissa is nearest, in units half as large. -/
theorem nearest_below (hq : -149 < q)
    (h : (Decimal.Interval.around leadingBit q).Covers (2 ^ (q - 2)) x)
    (hbelow : x < leadingBit * 2 ^ q) :
    Rounding.Nearest (x / 2 ^ (q - 1)) (2 * leadingBit) := by
  have hpow := two_zpow_pos (q - 1)
  have hhalf : (2 : ℚ) ^ q = 2 * 2 ^ (q - 1) := by
    rw [mul_comm, ← zpow_add_one₀ (by norm_num), sub_add_cancel]
  have hlow : (4 * leadingBit : ℚ) = (Decimal.Interval.around leadingBit q).low + 1 := by
    exact_mod_cast (Decimal.Interval.low_around (by decide) q).2.2 rfl hq
  rw [quarter] at h
  unfold Decimal.Interval.Covers at h
  rw [if_pos (by rfl)] at h
  have hle := h.1
  rw [← sub_eq_iff_eq_add.mpr hlow] at hle
  unfold Rounding.Nearest
  rw [if_pos (by decide), le_div_iff₀ hpow, div_le_iff₀ hpow]
  rw [hhalf] at hle hbelow
  push_cast
  constructor
  · linarith
  · linarith

/-- **A ratio in the interval around a number is rounded to it**, though perhaps to a mantissa one
bit longer, in units half as large. -/
theorem toBinary_of_covers {num den : Nat} (hden : 0 < den) (hm : 0 < m) (hfits : Fits m q)
    (h : (Decimal.Interval.around m q).Covers (2 ^ (q - 2)) (num / den)) :
    Rounding.toBinary 24 (-149) num den = (m, q)
      ∨ (m = leadingBit ∧ Rounding.toBinary 24 (-149) num den = (2 * leadingBit, q - 1)) := by
  have hpow := two_zpow_pos q
  have hnum : 0 < num := by
    have hpos := Decimal.Interval.pos_of_covers hm (two_zpow_pos _) h
    exact Nat.cast_pos.mp ((div_pos_iff_of_pos_right (Nat.cast_pos.mpr hden)).mp hpos)
  have hnearest := nearest_of_covers hm h
  obtain ⟨hlow, hhigh⟩ := hnearest.bounds
  rw [le_div_iff₀ hpow] at hlow
  rw [div_le_iff₀ hpow] at hhigh
  have hscale (k : Nat) : (2 : ℚ) ^ (q + k) = 2 ^ k * 2 ^ q := by
    rw [zpow_add₀ (by norm_num), zpow_natCast, mul_comm]
  by_cases hleading : (num / den : ℚ) < 2 ^ (q + (23 : Nat))
  · have hlt := Rounding.exponent_lt hnum hden hleading
    by_cases hq : q = -149
    · exact .inl (Rounding.toBinary_eq hnum hden (by omega) hnearest)
    · -- Only the smallest mantissa with a leading bit has anything nearer to it than that.
      have hle : leadingBit ≤ m := Nat.le_of_not_lt fun hlt => hq (hfits.dense hlt)
      have hge : m ≤ leadingBit := by
        have hm' : (m - 1 / 2 : ℚ) < 2 ^ 23 := by
          rw [hscale] at hleading
          exact lt_of_mul_lt_mul_right (hlow.trans_lt hleading) hpow.le
        have : (m : ℚ) < (leadingBit + 1 : Nat) := by
          rw [show leadingBit = 2 ^ 23 from rfl]
          push_cast
          linarith
        exact Nat.lt_succ_iff.mp (Nat.cast_lt.mp this)
      obtain rfl : m = leadingBit := Nat.le_antisymm hge hle
      have hleast := hfits.least
      have hexponent : q + (22 : Nat) ≤ Rounding.exponent num den := by
        refine Rounding.le_exponent hnum hden ?_
        rw [hscale]
        refine (mul_le_mul_of_nonneg_right ?_ hpow.le).trans hlow
        rw [show leadingBit = 2 ^ 23 from rfl]
        norm_num
      refine .inr ⟨rfl, Rounding.toBinary_eq hnum hden (by omega) ?_⟩
      refine nearest_below (by omega) h (hleading.trans_eq ?_)
      rw [hscale, show leadingBit = 2 ^ 23 from rfl]
      push_cast
      rfl
  · have hge := Rounding.le_exponent hnum hden (not_lt.mp hleading)
    have hlt : Rounding.exponent num den < q + (24 : Nat) := by
      refine Rounding.exponent_lt hnum hden (hhigh.trans_lt ?_)
      have hm' : (m : ℚ) + 1 ≤ 2 ^ 24 := by exact_mod_cast hfits.mantissa
      rw [hscale]
      exact mul_lt_mul_of_pos_right (by linarith) hpow
    have hleast := hfits.least
    exact .inl (Rounding.toBinary_eq hnum hden (by omega) hnearest)

/-- **A ratio in the interval around a number is read as that number.** -/
theorem ofRatio_of_covers {num den : Nat} (hden : 0 < den) (hm : 0 < m) (hfits : Fits m q)
    (h : (Decimal.Interval.around m q).Covers (2 ^ (q - 2)) (num / den)) (neg : Bool) :
    ofRatio neg num den = ⟨UInt32.ofNat (packed m q + signBit neg)⟩ := by
  have hq : ¬104 < q := Int.not_lt.mpr hfits.greatest
  unfold ofRatio
  rcases toBinary_of_covers hden hm hfits h with hbinary | ⟨rfl, hbinary⟩
  · have hlong : ¬m = 2 * leadingBit := hfits.mantissa.ne
    rw [hbinary]
    simp only [if_neg hlong, if_neg hq]
    rfl
  · rw [hbinary]
    simp only [if_true, sub_add_cancel, if_neg hq]
    rfl

end

/-- The number nearest to a written one, which is rounded only once. -/
def ofDecimal (literal : List Char) : Single :=
  let d := DecimalLiteral.ofChars literal
  ofRatio d.negative (d.digits * 10 ^ d.exponent.toNat) (10 ^ (-d.exponent).toNat)

/-- The number nearest to a written one is found by its size. -/
theorem ofDecimal_signed (s : Spelling) (neg : Bool) :
    ∃ num den : Nat, 0 < den ∧ (num / den : ℚ) = s.size
      ∧ ofDecimal (s.signed neg) = ofRatio neg num den := by
  generalize hliteral : DecimalLiteral.ofChars s.text = l
  refine ⟨l.digits * 10 ^ l.exponent.toNat, 10 ^ (-l.exponent).toNat, Nat.pow_pos (by decide), ?_, ?_⟩
  · rw [← s.size_ofChars_text, hliteral, DecimalLiteral.size, zpow_eq_div (by norm_num)]
    push_cast
    rw [mul_div_assoc]
  · unfold ofDecimal
    rw [s.ofChars_signed, hliteral]

/-- A ratio of zero is rounded to zero, and keeps its sign. -/
theorem ofRatio_zero (neg : Bool) (den : Nat) :
    ofRatio neg 0 den = ⟨UInt32.ofNat (0 + signBit neg)⟩ := by
  cases neg <;> rfl

/-- The size of a finite number is spelled such that every ratio of that size is read as it. -/
theorem size_readable {m : Nat} {q : Int} (hfits : Fits m q) :
    ∃ s : Spelling,
      (if m = 0 then ['0', '.', '0'] else textFormat.write (Decimal.shortest m q)) = s.text
        ∧ ∀ neg (num den : Nat), 0 < den → (num / den : ℚ) = s.size →
          ofRatio neg num den = ⟨UInt32.ofNat (packed m q + signBit neg)⟩ := by
  by_cases hm : m = 0
  · refine ⟨.zero, if_pos hm, fun neg num den hden hsize => ?_⟩
    have hnum : num = 0 := by
      rw [Spelling.size_zero, div_eq_zero_iff] at hsize
      exact Nat.cast_eq_zero.mp (hsize.resolve_right (Nat.cast_ne_zero.mpr hden.ne'))
    rw [hnum, hm, ofRatio_zero, packed_zero]
  · have hpos : 0 < m := Nat.pos_of_ne_zero hm
    obtain ⟨hproper, hcovers⟩ := Decimal.shortest_spec (q := q) hpos hfits.mantissa
    obtain ⟨s, htext, hsize⟩ := textFormat.write_spelling hproper
    refine ⟨s, by rw [if_neg hm, htext], fun neg num den hden hratio => ?_⟩
    rw [← hsize, ← hratio] at hcovers
    exact ofRatio_of_covers hden hpos hfits hcovers neg

/-- **A finite number is written as a number of the standard, and read back as itself.** -/
theorem text_readable {x : Single} {literal : List Char} (h : x.text? = some literal) :
    Json.isNumber literal = true ∧ ofDecimal literal = x := by
  unfold text? at h
  split at h
  case h_1 => cases h
  case h_2 => cases h
  case h_3 neg m q hread =>
    obtain ⟨hfits, hbits⟩ := of_read hread
    obtain ⟨s, htext, hratio⟩ := size_readable hfits
    obtain ⟨num, den, hden, hsize, hdecimal⟩ := ofDecimal_signed s neg
    rw [htext] at h
    obtain rfl : s.signed neg = literal := Option.some.inj h
    refine ⟨s.isNumber_signed neg, ?_⟩
    rw [hdecimal, hratio neg num den hden hsize, ← hbits, UInt32.ofNat_toNat]

end Single

end SessionReplay
