import SessionReplay.Proofs.Number.Literal
import Mathlib.Tactic.FieldSimp
import Mathlib.Tactic.Linarith
import Mathlib.Tactic.Positivity
import Mathlib.Tactic.NormNum

/-!
# The shortest decimal is near its number

The decimal that is written for `m * 2 ^ q` lies in the interval of the numbers that round to it
(`Decimal.shortest_spec`). A hit on any grid is in the interval (`Interval.contains_hit`), and so is the
decimal made of it, which stripping zeros off does not change (`strip_spec`). There is a hit on the
finest of the nine grids at the latest: its steps are shorter than a quarter of a unit in the last place
(`pow_nine_digits`), which is the least room that the interval leaves below the number
(`hit_of_room`).

Intervals and grids are whole multiples of two different units, one a power of two and the other a
power of ten; they are compared in the rational numbers, by a common unit of both (`gridUnit`).
-/

namespace SessionReplay

/-- A power with an exponent of either sign, by the two powers that are natural numbers. -/
theorem zpow_eq_div {b : ℚ} (hb : b ≠ 0) (n : Int) : b ^ n = b ^ n.toNat / b ^ (-n).toNat := by
  rw [← zpow_natCast_sub_natCast₀ hb, Int.toNat_sub_toNat_neg]

/-- Powers of two are positive. -/
theorem two_zpow_pos (n : Int) : (0 : ℚ) < 2 ^ n := zpow_pos (by norm_num) n

namespace Decimal

/-! ## Intervals -/

namespace Interval

/-- A number lies in an interval whose bounds are multiples of a unit. -/
def Covers (i : Interval) (unit x : ℚ) : Prop :=
  if i.closed then i.low * unit ≤ x ∧ x ≤ i.high * unit
  else i.low * unit < x ∧ x < i.high * unit

/-- Whether an interval contains a point is a matter of rational numbers. -/
theorem contains_iff {i : Interval} {unit : ℚ} (hunit : 0 < unit) (point : Nat) :
    i.contains point = true ↔ i.Covers unit (point * unit) := by
  unfold contains Covers
  split
  · rw [Bool.and_eq_true, decide_eq_true_iff, decide_eq_true_iff,
      mul_le_mul_iff_of_pos_right hunit, mul_le_mul_iff_of_pos_right hunit, Nat.cast_le,
      Nat.cast_le]
  · rw [Bool.and_eq_true, decide_eq_true_iff, decide_eq_true_iff,
      mul_lt_mul_iff_of_pos_right hunit, mul_lt_mul_iff_of_pos_right hunit, Nat.cast_lt,
      Nat.cast_lt]

/-- A scaled interval covers the same in units that are larger. -/
theorem covers_scale {i : Interval} {k : Nat} {unit x : ℚ} :
    (i.scale k).Covers unit x ↔ i.Covers (k * unit) x := by
  unfold Covers scale
  push_cast
  rw [mul_assoc, mul_assoc]

/-- What is hit is in the interval. -/
theorem contains_hit {i : Interval} {step d : Nat} (h : i.hit? step = some d) :
    i.contains (d * step) = true := by
  unfold hit? at h
  dsimp only at h
  split at h
  case h_1 hbelow habove =>
    have hbetween : d = i.value / step ∨ d = i.value / step + 1 := by
      split at h
      · cases h
        exact .inl rfl
      · split at h
        · cases h
          exact .inr rfl
        · cases h
          omega
    rcases hbetween with rfl | rfl
    · exact hbelow
    · exact habove
  case h_2 hbelow _ =>
    cases h
    exact hbelow
  case h_3 _ habove =>
    cases h
    exact habove
  case h_4 => cases h

/-- A grid that is fine enough hits. -/
theorem hit_of_room {i : Interval} {step : Nat} (hstep : 0 < step)
    (hroom : i.low + step ≤ i.value) (hhigh : i.value < i.high) : i.hit? step ≠ none := by
  have hle : i.value / step * step ≤ i.value := Nat.div_mul_le_self _ _
  have hlt : i.value < i.value / step * step + step := Nat.lt_div_mul_add hstep
  have hbelow : i.contains (i.value / step * step) = true := by
    unfold contains
    split <;> rw [Bool.and_eq_true, decide_eq_true_iff, decide_eq_true_iff] <;> omega
  unfold hit?
  dsimp only
  rw [hbelow]
  split
  case h_1 =>
    split
    · exact Option.some_ne_none _
    · split <;> exact Option.some_ne_none _
  case h_2 => exact Option.some_ne_none _
  case h_3 heq _ => cases heq
  case h_4 heq _ => cases heq

/-- The interval around a number reaches down two quarters at most and one at least, and only one
below a power of two with smaller numbers beneath it. -/
theorem low_around {m : Nat} (hm : 0 < m) (q : Int) :
    4 * m ≤ (around m q).low + 2 ∧ (around m q).low + 1 ≤ 4 * m
      ∧ (m = Single.leadingBit → -149 < q → 4 * m = (around m q).low + 1) := by
  unfold around
  dsimp only
  split
  · exact ⟨by omega, by omega, fun _ _ => by omega⟩
  · next hplain => exact ⟨by omega, by omega, fun hlead hq => absurd ⟨hlead, hq⟩ hplain⟩

/-- The interval around a positive number has none but positive numbers. -/
theorem pos_of_covers {m : Nat} (hm : 0 < m) {q : Int} {unit x : ℚ} (hunit : 0 < unit)
    (h : (around m q).Covers unit x) : 0 < x := by
  have hlow : 0 < (around m q).low := by
    have := (low_around hm q).1
    omega
  have hlow : 0 < (around m q).low * unit := mul_pos (Nat.cast_pos.mpr hlow) hunit
  unfold Covers at h
  split at h
  · exact hlow.trans_le h.1
  · exact hlow.trans h.1

end Interval

/-! ## Digits -/

/-- Stripping takes zeros away and nothing else. -/
theorem stripZeros_append (ds : List Char) :
    ∃ n, ds = stripZeros ds ++ List.replicate n '0' := by
  refine ⟨(ds.reverse.takeWhile (· == '0')).length, ?_⟩
  have hzeros : ds.reverse.takeWhile (· == '0')
      = List.replicate (ds.reverse.takeWhile (· == '0')).length '0' :=
    List.eq_replicate_iff.mpr ⟨rfl, fun c hc => by
      simpa using List.all_eq_true.mp List.all_takeWhile c hc⟩
  have hsplit := congrArg List.reverse
    (List.takeWhile_append_dropWhile (p := (· == '0')) (l := ds.reverse))
  rw [List.reverse_append, List.reverse_reverse, hzeros, List.reverse_replicate] at hsplit
  rw [stripZeros, hsplit]

/-- The decimal of a positive number of grid steps has the size of those steps. -/
theorem strip_spec {n : Nat} (hn : 0 < n) (last : Int) :
    let d : Decimal := ⟨stripZeros (digitsOf n), last + (digitsOf n).length - 1⟩
    d.Proper ∧ d.size = n * 10 ^ last := by
  intro d
  obtain ⟨zeros, hzeros⟩ := stripZeros_append (digitsOf n)
  have hnatural : n = DecimalLiteral.natural d.digits * 10 ^ zeros := by
    rw [← DecimalLiteral.natural_append_zeros, ← hzeros, digitsOf, DecimalLiteral.natural_toDigits]
  have hne : d.digits ≠ [] := by
    intro hnil
    rw [hnil, DecimalLiteral.natural, List.foldl_nil, Nat.zero_mul] at hnatural
    omega
  have hlength : (digitsOf n).length = d.digits.length + zeros := by
    rw [hzeros, List.length_append, List.length_replicate]
  refine ⟨⟨hne, fun c hc => ?_, ?_⟩, ?_⟩
  · refine isDigit_toDigits (n := n) ?_
    rw [show Nat.toDigits 10 n = _ from hzeros]
    exact List.mem_append_left _ hc
  · have hhead := head_toDigits hn
    rw [show Nat.toDigits 10 n = _ from hzeros, head?_append_of_ne_nil hne] at hhead
    exact hhead
  · have hexponent : d.exponent + 1 - d.digits.length = zeros + last := by
      change last + (digitsOf n).length - 1 + 1 - _ = _
      rw [hlength]
      omega
    rw [size, hexponent, zpow_add₀ (by norm_num), zpow_natCast, ← mul_assoc]
    congr 1
    exact_mod_cast hnatural.symm

/-- The power of ten of the first digit is at most the number. -/
theorem pow_exponentOf_le {num den : Nat} (hnum : 0 < num) (hden : 0 < den) :
    (10 : ℚ) ^ exponentOf num den ≤ num / den := by
  have hden' : (0 : ℚ) < den := Nat.cast_pos.mpr hden
  rw [le_div_iff₀ hden']
  unfold exponentOf
  split
  · next hle =>
    obtain ⟨k, hk⟩ : ∃ k, (digitsOf (num / den)).length = k + 1 :=
      Nat.exists_eq_add_one.mpr Nat.length_toDigits_pos
    have hpow : 10 ^ k ≤ num / den := by
      cases k with
      | zero => exact (Nat.one_le_div_iff hden).mpr hle
      | succ k =>
        by_contra hlt
        have hshort := (Nat.length_toDigits_le_iff (by decide) (Nat.succ_pos k)).mpr
          (Nat.lt_of_not_le hlt)
        rw [digitsOf] at hk
        omega
    have hmul : 10 ^ k * den ≤ num := (Nat.le_div_iff_mul_le hden).mp hpow
    rw [hk, Nat.cast_add, Nat.cast_one, add_sub_cancel_right, zpow_natCast]
    exact_mod_cast hmul
  · have hshort : (den - 1) / num < 10 ^ (digitsOf ((den - 1) / num)).length :=
      (Nat.length_toDigits_le_iff (by decide) Nat.length_toDigits_pos).mp le_rfl
    have hmul : den ≤ num * 10 ^ (digitsOf ((den - 1) / num)).length := by
      have := (Nat.div_lt_iff_lt_mul hnum).mp hshort
      rw [Nat.mul_comm]
      omega
    rw [zpow_neg, zpow_natCast, inv_mul_le_iff₀ (by positivity), mul_comm]
    exact_mod_cast hmul

/-! ## Grids -/

section

variable {m : Nat} {q last : Int}

/-- The hit on the grid of the multiples of a power of ten. -/
def gridHit? (m : Nat) (q last : Int) : Option Nat :=
  (((Interval.around m q).scale (1 <<< (q - 2).toNat)).scale (Nat.pow 10 (-last).toNat)).hit?
    ((1 <<< (-(q - 2)).toNat) * Nat.pow 10 last.toNat)

/-- A shift of one is a power of two. -/
theorem shiftLeft_one (n : Nat) : ((1 <<< n : Nat) : ℚ) = 2 ^ n := by
  rw [Nat.one_shiftLeft]
  push_cast
  rfl

/-- The common unit in which a grid and an interval are measured. -/
def gridUnit (q last : Int) : ℚ := ((2 : ℚ) ^ (-(q - 2)).toNat * 10 ^ (-last).toNat)⁻¹

/-- The unit of the grid is positive. -/
theorem gridUnit_pos (q last : Int) : 0 < gridUnit q last := by
  unfold gridUnit
  positivity

/-- In units of the grid the decimal step is a power of ten. -/
theorem step_gridUnit (q last : Int) :
    (((1 <<< (-(q - 2)).toNat) * Nat.pow 10 last.toNat : Nat) : ℚ) * gridUnit q last
      = 10 ^ last := by
  rw [zpow_eq_div (by norm_num) last, Nat.cast_mul, shiftLeft_one, gridUnit, Nat.pow_eq,
    Nat.cast_pow]
  field_simp
  norm_num

/-- In units of the grid a quarter of the binary step is a power of two. -/
theorem quarter_gridUnit (q last : Int) :
    ((1 <<< (q - 2).toNat : Nat) : ℚ) * ((Nat.pow 10 (-last).toNat : Nat) * gridUnit q last)
      = 2 ^ (q - 2) := by
  rw [zpow_eq_div (by norm_num) (q - 2), shiftLeft_one, gridUnit, Nat.pow_eq, Nat.cast_pow]
  field_simp
  norm_num

/-- A hit of the grid lies in the interval. -/
theorem covers_gridHit {d : Nat} (h : gridHit? m q last = some d) :
    (Interval.around m q).Covers (2 ^ (q - 2)) (d * 10 ^ last) := by
  have hcovers := (Interval.contains_iff (gridUnit_pos q last) _).mp
    (Interval.contains_hit h)
  rw [Interval.covers_scale, Interval.covers_scale, quarter_gridUnit, Nat.cast_mul, mul_assoc,
    step_gridUnit] at hcovers
  exact hcovers

/-- A grid that is fine enough hits the interval. -/
theorem gridHit_of_fine (hm : 0 < m) (hfine : (10 : ℚ) ^ last < 2 ^ (q - 2)) :
    gridHit? m q last ≠ none := by
  have hstep : (1 <<< (-(q - 2)).toNat) * Nat.pow 10 last.toNat
      < 1 <<< (q - 2).toNat * Nat.pow 10 (-last).toNat := by
    rw [← step_gridUnit q last, ← quarter_gridUnit q last, ← mul_assoc] at hfine
    exact_mod_cast (mul_lt_mul_iff_of_pos_right (gridUnit_pos q last)).mp hfine
  generalize hquarter : 1 <<< (q - 2).toNat * Nat.pow 10 (-last).toNat = quarter at hstep
  have hlow := (Interval.low_around hm q).2.1
  refine Interval.hit_of_room ?_ ?_ ?_
  · exact Nat.mul_pos (Nat.shiftLeft_pos_iff.mpr Nat.one_pos) (Nat.pow_pos (by decide))
  · change (Interval.around m q).low * _ * _ + _ ≤ 4 * m * _ * _
    rw [mul_assoc, mul_assoc, hquarter]
    have := Nat.mul_le_mul_right quarter hlow
    rw [Nat.add_mul] at this
    omega
  · change 4 * m * _ * _ < (4 * m + 2) * _ * _
    rw [mul_assoc (4 * m), mul_assoc (4 * m + 2), hquarter]
    exact Nat.mul_lt_mul_of_pos_right (by omega) (by omega)

/-- Eight digits behind the first one make a grid that is fine enough for twenty-four bits. -/
theorem pow_nine_digits (hm : 0 < m) (hmax : m < 2 ^ 24) :
    (10 : ℚ) ^ (exponentOf (4 * m * (1 <<< (q - 2).toNat)) (1 <<< (-(q - 2)).toNat) - (8 : Nat))
      < 2 ^ (q - 2) := by
  have hnum : 0 < 4 * m * (1 <<< (q - 2).toNat) :=
    Nat.mul_pos (by omega) (Nat.shiftLeft_pos_iff.mpr Nat.one_pos)
  have hden : 0 < 1 <<< (-(q - 2)).toNat := Nat.shiftLeft_pos_iff.mpr Nat.one_pos
  have hfirst := pow_exponentOf_le hnum hden
  have hvalue : ((4 * m * (1 <<< (q - 2).toNat) : Nat) : ℚ) / (1 <<< (-(q - 2)).toNat : Nat)
      = 4 * m * 2 ^ (q - 2) := by
    rw [zpow_eq_div (by norm_num) (q - 2), Nat.cast_mul, shiftLeft_one, shiftLeft_one]
    push_cast
    rw [mul_div_assoc]
  have hm' : (4 * m : ℚ) < 2 ^ 26 := by
    have : 4 * m < 2 ^ 26 := by omega
    exact_mod_cast this
  have hunit := two_zpow_pos (q - 2)
  rw [hvalue] at hfirst
  rw [zpow_sub₀ (by norm_num), zpow_natCast, div_lt_iff₀ (by norm_num)]
  calc (10 : ℚ) ^ exponentOf (4 * m * (1 <<< (q - 2).toNat)) (1 <<< (-(q - 2)).toNat)
      ≤ 4 * m * 2 ^ (q - 2) := hfirst
    _ < 2 ^ 26 * 2 ^ (q - 2) := mul_lt_mul_of_pos_right hm' hunit
    _ ≤ 10 ^ 8 * 2 ^ (q - 2) := mul_le_mul_of_nonneg_right (by norm_num) hunit.le
    _ = 2 ^ (q - 2) * 10 ^ 8 := mul_comm _ _

/-- **The shortest decimal rounds to its number.** -/
theorem shortest_spec (hm : 0 < m) (hmax : m < 2 ^ 24) :
    (shortest m q).Proper
      ∧ (Interval.around m q).Covers (2 ^ (q - 2)) (shortest m q).size := by
  let first := exponentOf (4 * m * (1 <<< (q - 2).toNat)) (1 <<< (-(q - 2)).toNat)
  let onGrid (k : Nat) : Option Decimal := (gridHit? m q (first - k)).map fun d =>
    ⟨stripZeros (digitsOf d), first - k + (digitsOf d).length - 1⟩
  have hshortest : shortest m q = ((List.range 9).findSome? onGrid).getD ⟨['0'], 0⟩ := rfl
  cases hfound : (List.range 9).findSome? onGrid with
  | none =>
    have hmiss := List.findSome?_eq_none_iff.mp hfound 8 (by decide)
    exact absurd (Option.map_eq_none_iff.mp hmiss) (gridHit_of_fine hm (pow_nine_digits hm hmax))
  | some found =>
    obtain ⟨k, -, hk⟩ := List.exists_of_findSome?_eq_some hfound
    obtain ⟨d, hd, rfl⟩ := Option.map_eq_some_iff.mp hk
    have hcovers := covers_gridHit hd
    have hpos : 0 < d := by
      have hsize := Interval.pos_of_covers hm (two_zpow_pos _) hcovers
      exact Nat.cast_pos.mp (pos_of_mul_pos_left hsize (zpow_nonneg (by norm_num) _))
    obtain ⟨hproper, hsize⟩ := strip_spec hpos (first - k)
    rw [hshortest, hfound, Option.getD_some]
    exact ⟨hproper, hsize ▸ hcovers⟩

end

end Decimal

end SessionReplay
