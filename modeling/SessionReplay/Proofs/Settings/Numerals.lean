import Mathlib.Data.List.DropRight
import SessionReplay.Proofs.Number.Literal
import SessionReplay.Settings.Numeral
import SessionReplay.Text.Blank

/-!
# Which texts are numbers

What a setting may be given as, said without its reader. `Writes` is the grammar: one or more digits, and
a sign in front of them if there is one. `NumberRange.Gives` puts white space around it and the limits of
a range on the number.

* The two readers accept these texts and no others, and read the number that is written
  (`NumberRange.signed?_trim`, `NumberRange.unsigned?_trim`).
* A number that is printed is written (`writes_toString`, `writes_toString_int`), and white space around
  it is what is trimmed (`Text.Padded.trim_eq`, `Text.padded_trim`).

Leading zeros are allowed, however many, and so is the minus sign of a zero. A blank behind a sign is not.
-/

namespace SessionReplay

namespace Text

/-- A text with white space around it. There need not be any. -/
def Padded (core text : List Char) : Prop :=
  ∃ before after, text = before ++ core ++ after ∧ (∀ c ∈ before, isBlank c = true) ∧
    (∀ c ∈ after, isBlank c = true)

/-- White space around a text without any is what is trimmed. -/
theorem Padded.trim_eq {core text : List Char} (h : Padded core text)
    (hcore : ∀ c ∈ core, isBlank c = false) : trim text = core := by
  obtain ⟨before, after, rfl, hbefore, hafter⟩ := h
  have hreverse : ∀ c ∈ after.reverse, isBlank c = true := by
    intro c hc
    exact hafter c (List.mem_reverse.mp hc)
  have hstop : core.reverse.dropWhile isBlank = core.reverse := by
    apply List.dropWhile_eq_self_iff.mpr
    intro hpos
    rw [hcore _ (List.mem_reverse.mp (List.getElem_mem hpos))]
    exact Bool.false_ne_true
  unfold trim
  rw [List.append_assoc, List.dropWhile_append_of_pos hbefore]
  cases core with
  | nil =>
    rw [List.nil_append, List.dropWhile_eq_nil_iff.mpr hafter]
    rfl
  | cons c core =>
    rw [List.cons_append, List.dropWhile_cons_of_neg (by simp [hcore c List.mem_cons_self]),
      ← List.cons_append, List.reverse_append, List.dropWhile_append_of_pos hreverse, hstop,
      List.reverse_reverse]

/-- Only white space is trimmed. -/
theorem padded_trim (text : List Char) : Padded (trim text) text := by
  have hrest : text.dropWhile isBlank = trim text ++ (text.dropWhile isBlank).rtakeWhile isBlank :=
    List.rdropWhile_append_rtakeWhile.symm
  refine ⟨text.takeWhile isBlank, (text.dropWhile isBlank).rtakeWhile isBlank, ?_, ?_, ?_⟩
  · rw [List.append_assoc, ← hrest, List.takeWhile_append_dropWhile]
  · intro c hc
    exact List.mem_takeWhile_imp hc
  · intro c hc
    exact List.mem_rtakeWhile_imp hc

end Text

namespace Numeral

/-! ## The grammar -/

/-- One or more digits. -/
structure Digits (cs : List Char) : Prop where
  ne_nil : cs ≠ []
  isDigit : ∀ c ∈ cs, c.isDigit = true

/-- What digits stand for: each as many ones, tens, hundreds and so on as its place says. -/
def positional : List Char → Nat
  | [] => 0
  | c :: rest => (c.toNat - 48) * 10 ^ rest.length + positional rest

/-- How a number is written. A minus sign is allowed where there are negative numbers. -/
inductive Writes (signed : Bool) : List Char → Int → Prop
  | plain {ds : List Char} : Digits ds → Writes signed ds (positional ds)
  | plus {ds : List Char} : Digits ds → Writes signed ('+' :: ds) (positional ds)
  | minus {ds : List Char} : signed = true → Digits ds → Writes signed ('-' :: ds) (-positional ds)

variable {signed : Bool} {cs : List Char} {n : Int}

/-- Digit by digit, from the first one on, the same number comes out. -/
theorem value_eq_positional (cs : List Char) : value cs = positional cs := by
  show DecimalLiteral.natural cs = positional cs
  induction cs with
  | nil => rfl
  | cons c rest ih =>
    rw [← List.singleton_append, DecimalLiteral.natural_append, ih, List.singleton_append, positional]
    simp [DecimalLiteral.natural]

/-- Digits are read as the number that they stand for, and nothing else is read. -/
theorem digits?_eq_some_iff {m : Nat} : digits? cs = some m ↔ Digits cs ∧ positional cs = m := by
  unfold digits?
  rw [value_eq_positional]
  constructor
  · intro h
    split at h
    next hdigits =>
      simp only [Bool.and_eq_true, Bool.not_eq_eq_eq_not, Bool.not_true, List.isEmpty_eq_false_iff,
        List.all_eq_true] at hdigits
      exact ⟨⟨hdigits.1, hdigits.2⟩, Option.some.inj h⟩
    next => cases h
  · rintro ⟨⟨hne, hall⟩, rfl⟩
    simp [hne, List.all_eq_true.mpr hall]

/-- A digit is no sign. -/
theorem Digits.head_ne {c : Char} {rest : List Char} (h : Digits (c :: rest)) : c ≠ '+' ∧ c ≠ '-' := by
  have hc := h.isDigit c List.mem_cons_self
  constructor <;> (rintro rfl; exact absurd hc (by decide))

/-- A digit is not blank. -/
theorem isBlank_of_isDigit {c : Char} (h : c.isDigit = true) : Text.isBlank c = false := by
  simp only [Char.isDigit, Bool.and_eq_true, decide_eq_true_eq, UInt32.le_iff_toNat_le] at h
  have hrange : 48 ≤ c.toNat ∧ c.toNat ≤ 57 := h
  simp [Text.isBlank, Text.inRanges, Text.blankRanges]
  omega

/-- There is no white space in a number. -/
theorem Writes.not_blank (h : Writes signed cs n) : ∀ c ∈ cs, Text.isBlank c = false := by
  have hdigits : ∀ {ds : List Char}, Digits ds → ∀ c ∈ ds, Text.isBlank c = false :=
    fun h c hc => isBlank_of_isDigit (h.isDigit c hc)
  cases h with
  | plain h => exact hdigits h
  | plus h => exact List.forall_mem_cons.mpr ⟨by decide, hdigits h⟩
  | minus _ h => exact List.forall_mem_cons.mpr ⟨by decide, hdigits h⟩

/-- A text is a number with a plus sign, one with a minus sign, or one without a sign. -/
theorem writes_iff : Writes signed cs n ↔ match (motive := List Char → Prop) cs with
    | '+' :: rest => Digits rest ∧ positional rest = n
    | '-' :: rest => signed = true ∧ Digits rest ∧ -positional rest = n
    | cs => Digits cs ∧ positional cs = n := by
  constructor
  · intro h
    cases h with
    | plain h =>
      split
      next => exact absurd rfl h.head_ne.1
      next => exact absurd rfl h.head_ne.2
      next => exact ⟨h, rfl⟩
    | plus h => exact ⟨h, rfl⟩
    | minus hsigned h => exact ⟨hsigned, h, rfl⟩
  · intro h
    split at h
    next =>
      obtain ⟨h, rfl⟩ := h
      exact .plus h
    next =>
      obtain ⟨hsigned, h, rfl⟩ := h
      exact .minus hsigned h
    next =>
      obtain ⟨h, rfl⟩ := h
      exact .plain h

/-- **Integers are read by the grammar.** -/
theorem signed?_eq_some_iff :
    signed? cs = some n ↔ Writes true cs n ∧ minInt64 ≤ n ∧ n ≤ maxInt64 := by
  unfold signed?
  rw [Option.filter_eq_some_iff, Bool.and_eq_true, decide_eq_true_eq, decide_eq_true_eq, writes_iff]
  apply and_congr_left'
  split <;> simp [digits?_eq_some_iff, Option.bind_eq_some_iff]

/-- **Natural numbers are read by the grammar.** -/
theorem unsigned?_eq_some_iff {n : Nat} :
    unsigned? cs = some n ↔ Writes false cs n ∧ n ≤ maxUInt64 := by
  unfold unsigned?
  rw [Option.filter_eq_some_iff, decide_eq_true_eq, writes_iff]
  apply and_congr_left'
  split
  next rest => simp [digits?_eq_some_iff]
  next hplus =>
    rw [digits?_eq_some_iff]
    split
    next => exact absurd rfl (hplus _)
    next rest =>
      have hsign : ¬Digits ('-' :: rest) := fun h => h.head_ne.2 rfl
      simp [hsign]
    next => simp

/-- The digits of a number are digits, and stand for it. -/
theorem digits_toString (n : Nat) :
    Digits (toString n).toList ∧ positional (toString n).toList = n := by
  have hdigits : (toString n).toList = Nat.toDigits 10 n := Nat.toList_repr
  rw [hdigits, ← value_eq_positional]
  exact ⟨⟨Nat.toDigits_ne_nil, fun _ => isDigit_toDigits⟩, DecimalLiteral.natural_toDigits n⟩

/-- A natural number is printed as it is written, whether there are negative numbers or not. -/
theorem writes_toString (n : Nat) : Writes signed (toString n).toList n := by
  obtain ⟨hdigits, hvalue⟩ := digits_toString n
  have hplain : Writes signed (toString n).toList (positional (toString n).toList) := .plain hdigits
  rwa [hvalue] at hplain

/-- So is an integer where there are. -/
theorem writes_toString_int (n : Int) : Writes true (toString n).toList n := by
  cases n with
  | ofNat n => exact writes_toString n
  | negSucc n =>
    obtain ⟨hdigits, hvalue⟩ := digits_toString (n + 1)
    have hminus : Writes true ('-' :: (toString (n + 1)).toList)
        (-positional (toString (n + 1)).toList) := .minus rfl hdigits
    have hprinted : (toString (Int.negSucc n)).toList = '-' :: (toString (n + 1)).toList := by
      show ("-" ++ toString (n + 1)).toList = _
      rw [String.toList_append]
      rfl
    rw [hvalue] at hminus
    rwa [hprinted]

end Numeral

/-! ## Numbers of a range -/

/-- The numbers that a setting can have. -/
structure NumberRange where
  /-- Whether a minus sign is allowed. -/
  signed : Bool
  /-- The least of them. -/
  least : Int
  /-- The greatest of them. -/
  greatest : Int

namespace NumberRange

open Numeral

/-- The integers of 64 bits. -/
def int64 : NumberRange := ⟨true, minInt64, maxInt64⟩

/-- The natural numbers of 64 bits. -/
def uint64 : NumberRange := ⟨false, 0, maxUInt64⟩

/-- A text gives a number: it is written there with nothing but white space around it, and it is in the
range. -/
def Gives (r : NumberRange) (text : List Char) (n : Int) : Prop :=
  (∃ core, Text.Padded core text ∧ Writes r.signed core n) ∧ r.least ≤ n ∧ n ≤ r.greatest

variable {r : NumberRange} {text : List Char} {n : Int}

/-- What is left when the white space is trimmed is the number as it is written. -/
theorem gives_iff :
    r.Gives text n ↔ Writes r.signed (Text.trim text) n ∧ r.least ≤ n ∧ n ≤ r.greatest := by
  unfold Gives
  apply and_congr_left'
  constructor
  · rintro ⟨core, hpadded, hwrites⟩
    rwa [hpadded.trim_eq hwrites.not_blank]
  · intro hwrites
    exact ⟨Text.trim text, Text.padded_trim text, hwrites⟩

/-- **What is read as an integer is what the text gives.** -/
theorem signed?_trim : signed? (Text.trim text) = some n ↔ int64.Gives text n := by
  rw [signed?_eq_some_iff, gives_iff]
  rfl

/-- **What is read as a natural number is what the text gives.** -/
theorem unsigned?_trim {m : Nat} : unsigned? (Text.trim text) = some m ↔ uint64.Gives text m := by
  rw [unsigned?_eq_some_iff, gives_iff]
  apply and_congr_right'
  show m ≤ maxUInt64 ↔ 0 ≤ (m : Int) ∧ (m : Int) ≤ (maxUInt64 : Int)
  omega

end NumberRange

end SessionReplay
