import SessionReplay.Json.Printer
import SessionReplay.Json.Reader

/-!
# What is written is read back

The reader undoes the writer: a text that was written as JSON is read as the value that was written,
and all of it is read (`parse_print`). What has to be asked of the value is that its numbers are
numbers as they are written (`Numeric`); of what stands behind it, that it does not go on with a number
(`Stops`). Strings can hold anything (`readText_quote`).
-/

namespace SessionReplay.Json

/-! ## Strings -/

/-- A character that needs no escape is read as it is. -/
theorem readText_plain {c : Char} (hquote : c ≠ '"') (hescape : c ≠ '\\') (hshown : 32 ≤ c.toNat)
    (seen rest : List Char) : readText seen (c :: rest) = readText (c :: seen) rest := by
  rw [readText.eq_def]
  split
  case h_6 heq =>
    cases heq
    exact if_neg (Nat.not_lt.mpr hshown)
  case h_1 heq => cases heq
  all_goals rename_i heq; cases heq; contradiction

/-- A one-letter escape is read as the character that it stands for. -/
theorem readText_short {e c : Char} (hshort : shortEscape? e = some c) (seen rest : List Char) :
    readText seen ('\\' :: e :: rest) = readText (c :: seen) rest := by
  rw [readText.eq_def]
  split
  case h_5 heq =>
    cases heq
    simp [hshort]
  case h_6 hother heq =>
    cases heq
    exact (hother _ _ rfl rfl).elim
  case h_1 heq => cases heq
  case h_2 heq => cases heq
  all_goals rename_i heq; cases heq; cases hshort

/-- A character given by its number is read as such, whatever stands behind it. -/
theorem readText_unicode {a b c d : Char} {unit : Nat} (hunit : codeUnit? a b c d = some unit)
    (hplain : unit < 0xd800) (seen rest : List Char) :
    readText seen ('\\' :: 'u' :: a :: b :: c :: d :: rest)
      = readText (Char.ofNat unit :: seen) rest := by
  have hsurrogate : ¬(0xd800 ≤ unit ∧ unit < 0xe000) := fun h => by omega
  rw [readText.eq_def]
  split
  case h_3 heq =>
    cases heq
    simp [hunit, hsurrogate]
  case h_4 heq =>
    cases heq
    simp [hunit, hsurrogate]
  case h_5 hother heq =>
    cases heq
    exact (hother _ _ _ _ _ rfl rfl).elim
  case h_6 hother heq =>
    cases heq
    exact (hother _ _ rfl rfl).elim
  all_goals rename_i heq; cases heq

/-- The two hexadecimal digits of a control character stand for it. -/
theorem codeUnit?_control : ∀ n < 32,
    codeUnit? '0' '0' (hexDigit (n / 16)) (hexDigit (n % 16)) = some n := by
  decide

/-- A character in its written form is read as that character. -/
theorem readText_escape (c : Char) (seen rest : List Char) :
    readText seen (escape c ++ rest) = readText (c :: seen) rest := by
  have hc : Char.ofNat c.toNat = c := Char.ofNat_toNat c
  unfold escape
  split
  · next h =>
    subst h
    exact readText_short rfl seen rest
  split
  · next h =>
    subst h
    exact readText_short rfl seen rest
  split
  · next h => exact hc ▸ h ▸ readText_short rfl seen rest
  split
  · next h => exact hc ▸ h ▸ readText_short rfl seen rest
  split
  · next h => exact hc ▸ h ▸ readText_short rfl seen rest
  split
  · next h => exact hc ▸ h ▸ readText_short rfl seen rest
  split
  · next h => exact hc ▸ h ▸ readText_short rfl seen rest
  split
  · next h =>
    have hread := readText_unicode (codeUnit?_control c.toNat h) (by omega) seen rest
    rw [hc] at hread
    exact hread
  · next hquote hescape _ _ _ _ _ h =>
    exact readText_plain hquote hescape (Nat.le_of_not_lt h) seen rest

/-- **A string is read back**, whatever it holds, up to its closing quote. -/
theorem readText_quote (text : List Char) (seen rest : List Char) :
    readText seen (text.flatMap escape ++ '"' :: rest) = some (seen.reverse ++ text, rest) := by
  induction text generalizing seen with
  | nil => rw [List.flatMap_nil, List.nil_append, readText, List.append_nil]
  | cons c text ih =>
    rw [List.flatMap_cons, List.append_assoc, readText_escape, ih, List.reverse_cons,
      List.append_assoc]
    rfl

/-! ## Numbers -/

/-- A digit can occur in a number. -/
theorem isNumberChar_of_isDigit {c : Char} (h : c.isDigit = true) : isNumberChar c = true := by
  unfold isNumberChar
  rw [h]
  rfl

/-- What begins with digits is digits and the rest. -/
theorem all_of_dropWhile {p : Char → Bool} {cs : List Char}
    (hdigits : ∀ c, c.isDigit = true → p c = true)
    (hrest : ∀ c ∈ cs.dropWhile Char.isDigit, p c = true) : ∀ c ∈ cs, p c = true := by
  intro c hc
  rw [← List.takeWhile_append_dropWhile (p := Char.isDigit) (l := cs)] at hc
  rcases List.mem_append.mp hc with hc | hc
  · exact hdigits c (List.all_eq_true.mp List.all_takeWhile c hc)
  · exact hrest c hc

/-- A power is made of the characters of numbers. -/
theorem all_of_isExponent {cs : List Char} (h : isExponent cs = true) :
    ∀ c ∈ cs, isNumberChar c = true := by
  cases cs with
  | nil => exact fun _ hc => (List.not_mem_nil hc).elim
  | cons e rest =>
    simp only [isExponent, Bool.and_eq_true, Bool.or_eq_true, beq_iff_eq] at h
    obtain ⟨he, -, hdigits⟩ := h
    refine List.forall_mem_cons.mpr ⟨?_, ?_⟩
    · rcases he with rfl | rfl <;> rfl
    · have hall : ∀ ds : List Char, ds.all Char.isDigit = true → ∀ c ∈ ds, isNumberChar c = true :=
        fun ds hds c hc => isNumberChar_of_isDigit (List.all_eq_true.mp hds c hc)
      split at hdigits
      · exact List.forall_mem_cons.mpr ⟨rfl, hall _ hdigits⟩
      · exact List.forall_mem_cons.mpr ⟨rfl, hall _ hdigits⟩
      · exact hall _ hdigits

/-- So is a fraction. -/
theorem all_of_isFraction {cs : List Char} (h : isFraction cs = true) :
    ∀ c ∈ cs, isNumberChar c = true := by
  unfold isFraction at h
  split at h
  · simp only [Bool.and_eq_true] at h
    exact List.forall_mem_cons.mpr
      ⟨rfl, all_of_dropWhile (fun _ => isNumberChar_of_isDigit) (all_of_isExponent h.2)⟩
  · exact all_of_isExponent h

/-- So is a number without a sign. -/
theorem all_of_isUnsigned {cs : List Char} (h : isUnsigned cs = true) :
    ∀ c ∈ cs, isNumberChar c = true := by
  unfold isUnsigned at h
  split at h
  · cases h
  · exact List.forall_mem_cons.mpr ⟨rfl, all_of_isFraction h⟩
  · simp only [Bool.and_eq_true] at h
    exact List.forall_mem_cons.mpr ⟨isNumberChar_of_isDigit h.1,
      all_of_dropWhile (fun _ => isNumberChar_of_isDigit) (all_of_isFraction h.2)⟩

/-- A number has nothing in it that cannot occur in a number. -/
theorem all_of_isNumber {cs : List Char} (h : isNumber cs = true) :
    ∀ c ∈ cs, isNumberChar c = true := by
  unfold isNumber at h
  split at h
  · exact List.forall_mem_cons.mpr ⟨rfl, all_of_isUnsigned h⟩
  · exact all_of_isUnsigned h

/-- A number begins with a minus sign or a digit. -/
theorem head_of_isNumber {cs : List Char} (h : isNumber cs = true) :
    ∃ c rest, cs = c :: rest ∧ (c = '-' ∨ c.isDigit = true) := by
  unfold isNumber at h
  split at h
  · exact ⟨_, _, rfl, .inl rfl⟩
  · unfold isUnsigned at h
    split at h
    · cases h
    · exact ⟨_, _, rfl, .inr rfl⟩
    · simp only [Bool.and_eq_true] at h
      exact ⟨_, _, rfl, .inr h.1⟩

/-! ## Values -/

/-- All numbers in a value are numbers as they are written. -/
inductive Numeric : Json → Prop
  | null : Numeric .null
  | bool (b : Bool) : Numeric (.bool b)
  | number (literal : List Char) (valid : isNumber literal = true) : Numeric (.number literal)
  | string (text : String) : Numeric (.string text)
  | array (items : List Json) (all : ∀ j ∈ items, Numeric j) : Numeric (.array items)
  | object (fields : List (String × Json)) (all : ∀ f ∈ fields, Numeric f.2) :
    Numeric (.object fields)

/-- What stands behind a value does not go on with a number. -/
def Stops (rest : List Char) : Prop := ∀ c ∈ rest.head?, isNumberChar c = false

/-- A character that is no blank is not skipped. -/
theorem skipBlanks_cons {c : Char} (h : isBlank c = false) (cs : List Char) :
    skipBlanks (c :: cs) = c :: cs := by
  unfold skipBlanks
  rw [List.dropWhile_cons_of_neg (by simp [h])]

/-- The characters that open anything but a number, or close an array. -/
def marks : List Char := ['n', 't', 'f', '"', '[', ']', '\x7b', ' ', '\n', '\r', '\t']

/-- A number begins with none of them. -/
theorem not_mem_marks {c : Char} (h : c = '-' ∨ c.isDigit = true) : c ∉ marks := by
  intro hmem
  have hnone : (marks.all fun m => m != '-' && !m.isDigit) = true := rfl
  have hc := List.all_eq_true.mp hnone c hmem
  rw [Bool.and_eq_true, bne_iff_ne, Bool.not_eq_true'] at hc
  obtain ⟨hminus, hdigit⟩ := hc
  rcases h with h | h
  · exact hminus h
  · rw [hdigit] at h
    cases h

/-- No blank is left that is not among the marks. -/
theorem isBlank_eq_false {c : Char} (h : c ∉ marks) : isBlank c = false := by
  refine Bool.eq_false_iff.mpr fun hblank => h ?_
  simp only [isBlank, Bool.or_eq_true, beq_iff_eq] at hblank
  rcases hblank with ((rfl | rfl) | rfl) | rfl <;> decide

/-- The written form of a value does not begin with a blank or a closing bracket. -/
theorem head_print {j : Json} (h : Numeric j) :
    ∃ c cs, j.print = c :: cs ∧ isBlank c = false ∧ c ≠ ']' := by
  cases h with
  | bool b => cases b <;> exact ⟨_, _, rfl, rfl, by decide⟩
  | number literal valid =>
    obtain ⟨c, cs, rfl, hc⟩ := head_of_isNumber valid
    have hmarks := not_mem_marks hc
    refine ⟨c, cs, rfl, isBlank_eq_false hmarks, ?_⟩
    rintro rfl
    exact hmarks (by decide)
  | _ => exact ⟨_, _, rfl, rfl, by decide⟩

/-- A number is read as it is written. -/
theorem readValue_number {literal rest : List Char} (h : isNumber literal = true)
    (hrest : Stops rest) (fuel : Nat) :
    readValue (fuel + 1) (literal ++ rest) = some (.number literal, rest) := by
  have hchars := all_of_isNumber h
  have htake : (literal ++ rest).takeWhile isNumberChar = literal := by
    rw [List.takeWhile_append_of_pos hchars]
    cases rest with
    | nil => simp
    | cons c rest => rw [List.takeWhile_cons_of_neg (by simp [hrest c rfl]), List.append_nil]
  have hdrop : (literal ++ rest).dropWhile isNumberChar = rest := by
    rw [List.dropWhile_append_of_pos hchars]
    cases rest with
    | nil => rfl
    | cons c rest => rw [List.dropWhile_cons_of_neg (by simp [hrest c rfl])]
  obtain ⟨c, cs, rfl, hc⟩ := head_of_isNumber h
  have hmarks := not_mem_marks hc
  have hskip : skipBlanks (c :: cs ++ rest) = c :: cs ++ rest :=
    skipBlanks_cons (isBlank_eq_false hmarks) (cs ++ rest)
  rw [readValue, hskip]
  split
  case h_7 =>
    dsimp only
    rw [htake, hdrop, if_pos h]
  all_goals
    rename_i heq
    obtain ⟨rfl, -⟩ := List.cons.inj heq
    exact (hmarks (by decide)).elim

/-! ## Reading with some fuel -/

/-- A fuel is enough to read every value that is written with fewer characters. -/
def ReadsValues (fuel : Nat) : Prop :=
  ∀ j rest, Numeric j → Stops rest → j.print.length < fuel →
    readValue fuel (j.print ++ rest) = some (j, rest)

/-- A fuel is enough to read all items of an array, of which there are some. -/
def ReadsItems (fuel : Nat) : Prop :=
  ∀ x xs rest, (∀ j ∈ x :: xs, Numeric j) → (printItems (x :: xs)).length + 1 < fuel →
    readItems fuel (printItems (x :: xs) ++ ']' :: rest) = some (x :: xs, rest)

/-- A fuel is enough to read all fields of an object, of which there are some. -/
def ReadsFields (fuel : Nat) : Prop :=
  ∀ x xs rest, (∀ f ∈ x :: xs, Numeric (Prod.snd f)) → (printFields (x :: xs)).length + 1 < fuel →
    readFields fuel (printFields (x :: xs) ++ '\x7d' :: rest) = some (x :: xs, rest)

/-- A number ends where a character follows that is not one of a number. -/
theorem stops_cons {c : Char} (h : isNumberChar c = false) (rest : List Char) :
    Stops (c :: rest) := by
  rintro _ ⟨⟩
  exact h

/-- A quote opens a string. -/
theorem readValue_quote (fuel : Nat) (rest : List Char) : readValue (fuel + 1) ('"' :: rest)
    = (readText [] rest).bind fun (text, rest) => some (.string (String.ofList text), rest) := by
  rw [readValue, skipBlanks_cons rfl]
  rfl

/-- A bracket opens an array, which is not empty if no other bracket follows. -/
theorem readValue_bracket (fuel : Nat) {c : Char} (hblank : isBlank c = false) (hc : c ≠ ']')
    (rest : List Char) : readValue (fuel + 1) ('[' :: c :: rest)
      = (readItems fuel (c :: rest)).bind fun (items, rest) => some (.array items, rest) := by
  rw [readValue, skipBlanks_cons rfl]
  simp only [skipBlanks_cons hblank]
  split
  · next heq => exact absurd (List.cons.inj heq).1 hc
  · rfl

/-- A brace opens an object, which is not empty if a quote follows. -/
theorem readValue_brace (fuel : Nat) (rest : List Char) :
    readValue (fuel + 1) ('\x7b' :: '"' :: rest)
      = (readFields fuel ('"' :: rest)).bind fun (fields, rest) => some (.object fields, rest) := by
  rw [readValue, skipBlanks_cons rfl]
  rfl

/-- With one unit of fuel more one item more is read. -/
theorem readItems_print {fuel : Nat} (hvalues : ReadsValues fuel) (hitems : ReadsItems fuel) :
    ReadsItems (fuel + 1) := by
  intro x xs rest hall hfuel
  have hx := hall x List.mem_cons_self
  cases xs with
  | nil =>
    rw [printItems] at hfuel ⊢
    rw [readItems, hvalues x _ hx (stops_cons rfl _) (by omega)]
    rfl
  | cons y ys =>
    rw [printItems] at hfuel ⊢
    rw [List.length_append, List.length_cons] at hfuel
    have hrest := hitems y ys rest (fun j hj => hall j (List.mem_cons_of_mem _ hj)) (by omega)
    rw [List.append_assoc, List.cons_append, readItems,
      hvalues x _ hx (stops_cons rfl _) (by omega)]
    change (readItems fuel (printItems (y :: ys) ++ ']' :: rest)).bind _ = _
    rw [hrest]
    rfl

/-- A field is read as it is written, up to what stands behind its value. -/
theorem readFields_field {fuel : Nat} (hvalues : ReadsValues fuel) {key : String} {value : Json}
    (hvalue : Numeric value) {rest : List Char} (hrest : Stops rest)
    (hfuel : value.print.length < fuel) :
    readFields (fuel + 1) (quote key ++ ':' :: value.print ++ rest)
      = match skipBlanks rest with
        | ',' :: rest => do
          let (fields, rest) ← readFields fuel rest
          return ((key, value) :: fields, rest)
        | '\x7d' :: rest => some ([(key, value)], rest)
        | _ => none := by
  have hquote : quote key ++ ':' :: value.print ++ rest
      = '"' :: (key.toList.flatMap escape ++ '"' :: ':' :: (value.print ++ rest)) := by
    simp [quote]
  rw [hquote, readFields, skipBlanks_cons rfl]
  change (readText [] (key.toList.flatMap escape ++ '"' :: ':' :: (value.print ++ rest))).bind _ = _
  rw [readText_quote, List.reverse_nil, List.nil_append]
  change (readValue fuel (value.print ++ rest)).bind _ = _
  rw [hvalues value rest hvalue hrest hfuel]
  change (match skipBlanks rest with
    | ',' :: rest => (readFields fuel rest).bind _
    | '\x7d' :: rest => some ([(String.ofList key.toList, value)], rest)
    | _ => none) = _
  rw [String.ofList_toList]
  rfl

/-- With one unit of fuel more one field more is read. -/
theorem readFields_print {fuel : Nat} (hvalues : ReadsValues fuel) (hfields : ReadsFields fuel) :
    ReadsFields (fuel + 1) := by
  intro x xs rest hall hfuel
  obtain ⟨key, value⟩ := x
  have hvalue : Numeric value := hall _ List.mem_cons_self
  cases xs with
  | nil =>
    rw [printFields] at hfuel ⊢
    rw [List.length_append, List.length_cons] at hfuel
    rw [readFields_field hvalues hvalue (stops_cons rfl _) (by omega)]
    rfl
  | cons f fs =>
    rw [printFields] at hfuel ⊢
    rw [List.length_append, List.length_append, List.length_cons, List.length_cons] at hfuel
    have hrest := hfields f fs rest (fun g hg => hall g (List.mem_cons_of_mem _ hg)) (by omega)
    rw [List.append_assoc, List.cons_append,
      readFields_field hvalues hvalue (stops_cons rfl _) (by omega)]
    change (readFields fuel (printFields (f :: fs) ++ '\x7d' :: rest)).bind _ = _
    rw [hrest]
    rfl

/-- With one unit of fuel more values are read whose items and fields are. -/
theorem readValue_print {fuel : Nat} (hitems : ReadsItems fuel) (hfields : ReadsFields fuel) :
    ReadsValues (fuel + 1) := by
  intro j rest hj hrest hfuel
  cases hj with
  | null => rfl
  | bool b => cases b <;> rfl
  | number literal valid => exact readValue_number valid hrest fuel
  | string text =>
    have hquote : (Json.string text).print ++ rest
        = '"' :: (text.toList.flatMap escape ++ '"' :: rest) := by
      simp [print, quote]
    rw [hquote, readValue_quote, readText_quote, List.reverse_nil, List.nil_append]
    change some (Json.string (String.ofList text.toList), rest) = _
    rw [String.ofList_toList]
  | array items all =>
    cases items with
    | nil => rfl
    | cons x xs =>
      obtain ⟨c, cs, hprint, hblank, hc⟩ := head_print (all x List.mem_cons_self)
      obtain ⟨cs, hitem⟩ : ∃ cs, printItems (x :: xs) ++ ']' :: rest = c :: cs := by
        cases xs <;> rw [printItems, hprint] <;> exact ⟨_, rfl⟩
      have hopen : (Json.array (x :: xs)).print ++ rest
          = '[' :: (printItems (x :: xs) ++ ']' :: rest) := by
        simp [print]
      have hlength : (Json.array (x :: xs)).print.length = (printItems (x :: xs)).length + 2 := by
        simp [print]
      rw [hopen, hitem, readValue_bracket fuel hblank hc, ← hitem,
        hitems x xs rest all (by omega)]
      rfl
  | object fields all =>
    cases fields with
    | nil => rfl
    | cons x xs =>
      obtain ⟨cs, hfield⟩ : ∃ cs, printFields (x :: xs) ++ '\x7d' :: rest = '"' :: cs := by
        cases xs <;> rw [printFields, quote] <;> exact ⟨_, rfl⟩
      have hopen : (Json.object (x :: xs)).print ++ rest
          = '\x7b' :: (printFields (x :: xs) ++ '\x7d' :: rest) := by
        simp [print]
      have hlength : (Json.object (x :: xs)).print.length
          = (printFields (x :: xs)).length + 2 := by
        simp [print]
      rw [hopen, hfield, readValue_brace, ← hfield, hfields x xs rest all (by omega)]
      rfl

/-- Any fuel is enough for what is written with fewer characters. -/
theorem reads (fuel : Nat) : ReadsValues fuel ∧ ReadsItems fuel ∧ ReadsFields fuel := by
  induction fuel with
  | zero => exact ⟨nofun, nofun, nofun⟩
  | succ fuel ih =>
    obtain ⟨hvalues, hitems, hfields⟩ := ih
    exact ⟨readValue_print hitems hfields, readItems_print hvalues hitems,
      readFields_print hvalues hfields⟩

/-- **A value that was written is read back**, and its text is read to the end. -/
theorem parse_print {j : Json} (h : Numeric j) : parse? j.print = some j := by
  have hread := (reads (j.print.length + 1)).1 j [] h (by rintro _ ⟨⟩) (Nat.lt_succ_self _)
  rw [List.append_nil] at hread
  unfold parse?
  rw [hread]
  rfl

end SessionReplay.Json
