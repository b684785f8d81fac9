import SessionReplay.Proofs.Settings.Numerals
import SessionReplay.Settings.Environment

/-!
# Settings that are loaded

Which settings an environment asks for, and whether they are accepted, said without readers and checks.
The variables are bytes, if they are set at all (`Variables`).

* `Reads` says what a variable comes to: the value that its text means, and the default if it is not set,
  is no text, or its text means nothing. It is the same for all seven settings (`reads_iff`), which differ
  in what a text means.
* `Settings.AskedFor` lists the settings with their variables, and there is exactly one such record.
* They are loaded exactly if they are valid, and otherwise the first fault is reported, in the order of
  `Settings.checks` (`load_iff`).

So a number that is out of range is passed over, and one that is in range but not allowed is an error. A
minus sign makes no number at all of a natural one, and an error of an integer.
-/

namespace SessionReplay

/-- The bytes of the variables that are set. -/
abbrev Variables := String → Option ByteArray

/-- The environment of some variables. -/
def Environment.ofBytes (vars : Variables) : Environment :=
  fun name => (vars name).bind textOfBytes?

/-- Bytes have the text that they are the bytes of. -/
theorem Environment.textOfBytes?_eq_some_iff {bytes : ByteArray} {text : String} :
    textOfBytes? bytes = some text ↔ bytes = text.toUTF8 := by
  unfold textOfBytes? String.fromUTF8?
  constructor
  · intro h
    split at h
    next =>
      cases h
      rfl
    next => cases h
  · rintro rfl
    exact dif_pos text.isValidUTF8

section Reading

variable {α : Type}

/-- What a variable comes to, if each text means one value or none. -/
inductive Reads (vars : Variables) (name : String) (Means : String → α → Prop) (default : α) : α → Prop
  | unset : vars name = none → Reads vars name Means default default
  | notText {bytes : ByteArray} : vars name = some bytes → (∀ text : String, bytes ≠ text.toUTF8) →
      Reads vars name Means default default
  | meaningless {text : String} : vars name = some text.toUTF8 → (∀ a, ¬Means text a) →
      Reads vars name Means default default
  | value {text : String} {a : α} : vars name = some text.toUTF8 → Means text a →
      Reads vars name Means default a

variable {vars : Variables} {name : String} {Means : String → α → Prop} {default a : α}

/-- A reader that reads what texts mean reads what the variable comes to. -/
theorem reads_iff (read : String → Option α) (hread : ∀ text a, read text = some a ↔ Means text a) :
    Reads vars name Means default a ↔ ((Environment.ofBytes vars name).bind read).getD default = a := by
  have htext : ∀ text : String, Environment.textOfBytes? text.toUTF8 = some text :=
    fun text => Environment.textOfBytes?_eq_some_iff.mpr rfl
  unfold Environment.ofBytes
  constructor
  · intro h
    cases h with
    | unset hvar =>
      rw [hvar]
      rfl
    | notText hvar hnone =>
      have hfails : Environment.textOfBytes? _ = none :=
        Option.eq_none_iff_forall_ne_some.mpr fun text h =>
          hnone text (Environment.textOfBytes?_eq_some_iff.mp h)
      rw [hvar, Option.bind_some, hfails]
      rfl
    | @meaningless text hvar hnone =>
      have hfails : read text = none :=
        Option.eq_none_iff_forall_ne_some.mpr fun a h => hnone a ((hread text a).mp h)
      rw [hvar, Option.bind_some, htext, Option.bind_some, hfails]
      rfl
    | value hvar hmeans =>
      rw [hvar, Option.bind_some, htext, Option.bind_some, (hread _ _).mpr hmeans]
      rfl
  · rintro rfl
    cases hvar : vars name with
    | none => exact .unset hvar
    | some bytes =>
      rw [Option.bind_some]
      cases hbytes : Environment.textOfBytes? bytes with
      | none =>
        apply Reads.notText hvar
        intro text heq
        rw [Environment.textOfBytes?_eq_some_iff.mpr heq] at hbytes
        cases hbytes
      | some text =>
        obtain rfl := Environment.textOfBytes?_eq_some_iff.mp hbytes
        rw [Option.bind_some]
        cases hvalue : read text with
        | none =>
          apply Reads.meaningless hvar
          intro a hmeans
          rw [(hread text a).mpr hmeans] at hvalue
          cases hvalue
        | some a => exact .value hvar ((hread text a).mp hvalue)

end Reading

/-! ## The settings -/

/-- The texts that mean an integer of 64 bits. -/
def MeansInteger (text : String) (n : Int) : Prop := NumberRange.int64.Gives text.toList n

/-- The texts that mean a natural number of 64 bits. -/
def MeansNatural (text : String) (n : Nat) : Prop := NumberRange.uint64.Gives text.toList n

/-- An integer setting is read as its grammar says. -/
theorem reads_integer_iff {vars : Variables} {name : String} {default n : Int} :
    Reads vars name MeansInteger default n
      ↔ (Environment.ofBytes vars).integer name default = n :=
  reads_iff _ fun _ _ => NumberRange.signed?_trim

/-- A natural setting is read as its grammar says. -/
theorem reads_natural_iff {vars : Variables} {name : String} {default n : Nat} :
    Reads vars name MeansNatural default n
      ↔ (Environment.ofBytes vars).natural name default = n :=
  reads_iff _ fun _ _ => NumberRange.unsigned?_trim

namespace Settings

/-- The settings that variables ask for: each comes from a variable of its own, and delays are given in
milliseconds. -/
structure AskedFor (vars : Variables) (s : Settings) : Prop where
  maxItemDelay :
    Reads vars "DD_SESSION_REPLAY_MAX_ITEM_DELAY_MS" MeansInteger 200 s.maxItemDelay
  debounce : ∃ millis, Reads vars "DD_SESSION_REPLAY_DEBOUNCE_MS" MeansNatural 64 millis ∧
    s.debounce = millis * nanosPerMilli
  maxRecordDelay : ∃ millis, Reads vars "DD_SESSION_REPLAY_MAX_RECORD_DELAY_MS" MeansNatural 64 millis ∧
    s.maxRecordDelay = millis * nanosPerMilli
  maxQueueSize :
    Reads vars "DD_SESSION_REPLAY_MAX_QUEUE_SIZE" MeansNatural 128 s.maxQueueSize
  imageSideLimit :
    Reads vars "DD_SESSION_REPLAY_IMAGE_SIZE_LIMIT_DP" MeansInteger 120 s.imageSideLimit
  imageByteLimit :
    Reads vars "DD_SESSION_REPLAY_BITMAP_SIZE_LIMIT_BYTES" MeansNatural 15000 s.imageByteLimit
  logLevel :
    Reads vars "DD_LOG_LEVEL" (fun text level => level = Text.lower text) "info" s.logLevel

variable {vars : Variables} {s : Settings} {f : SettingsFault}

/-- They are the ones that are read. -/
theorem askedFor_iff : AskedFor vars s ↔ s = ofEnvironment (.ofBytes vars) := by
  have hlevel : ∀ level, Reads vars "DD_LOG_LEVEL" (fun text level => level = Text.lower text) "info" level
      ↔ ((Environment.ofBytes vars "DD_LOG_LEVEL").map Text.lower).getD "info" = level := by
    intro level
    rw [reads_iff (fun text => some (Text.lower text)) fun text level => by simp [eq_comm],
      Option.map_eq_bind]
    rfl
  constructor
  · rintro ⟨hdelay, ⟨quiet, hquiet, hdebounce⟩, ⟨burst, hburst, hrecord⟩, hqueue, hside, hbytes, hlog⟩
    rw [reads_integer_iff] at hdelay hside
    rw [reads_natural_iff] at hquiet hburst hqueue hbytes
    rw [hlevel] at hlog
    cases s
    simp_all [ofEnvironment]
  · rintro rfl
    constructor
    · exact reads_integer_iff.mpr rfl
    · exact ⟨_, reads_natural_iff.mpr rfl, rfl⟩
    · exact ⟨_, reads_natural_iff.mpr rfl, rfl⟩
    · exact reads_natural_iff.mpr rfl
    · exact reads_integer_iff.mpr rfl
    · exact reads_natural_iff.mpr rfl
    · exact (hlevel _).mpr rfl

/-! ## The checks -/

/-- Settings that a recording can start with. -/
structure Valid (s : Settings) : Prop where
  maxItemDelay : 0 < s.maxItemDelay
  debounce : s.debounce ≠ 0
  maxRecordDelay : s.maxRecordDelay ≠ 0
  maxQueueSize : s.maxQueueSize ≠ 0
  imageSideLimit : 0 < s.imageSideLimit
  imageByteLimit : s.imageByteLimit ≠ 0
  logLevel : s.logLevel ∈ levelNames

/-- What each fault says about the settings. -/
def Fails (s : Settings) : SettingsFault → Prop
  | .itemDelay => s.maxItemDelay ≤ 0
  | .debounceDelays => s.debounce = 0 ∨ s.maxRecordDelay = 0
  | .queueSize => s.maxQueueSize = 0
  | .imageLimits => s.imageSideLimit ≤ 0 ∨ s.imageByteLimit = 0
  | .logLevel name => s.logLevel = name ∧ name ∉ levelNames

instance (s : Settings) : DecidablePred s.Fails
  | .itemDelay => inferInstanceAs (Decidable (s.maxItemDelay ≤ 0))
  | .debounceDelays => inferInstanceAs (Decidable (s.debounce = 0 ∨ s.maxRecordDelay = 0))
  | .queueSize => inferInstanceAs (Decidable (s.maxQueueSize = 0))
  | .imageLimits => inferInstanceAs (Decidable (s.imageSideLimit ≤ 0 ∨ s.imageByteLimit = 0))
  | .logLevel name => inferInstanceAs (Decidable (s.logLevel = name ∧ name ∉ levelNames))

/-- The faults in the order in which they are checked for. -/
def checks (s : Settings) : List SettingsFault :=
  [.itemDelay, .debounceDelays, .queueSize, .imageLimits, .logLevel s.logLevel]

/-- A fault such that none that is checked for before it applies. -/
def FirstFault (s : Settings) (f : SettingsFault) : Prop :=
  s.Fails f ∧ ∃ before after, s.checks = before ++ f :: after ∧ ∀ g ∈ before, ¬s.Fails g

/-- One check is made, and then the others. -/
theorem find?_fails_cons (f : SettingsFault) (fs : List SettingsFault) :
    (f :: fs).find? (fun g => decide (s.Fails g))
      = if s.Fails f then some f else fs.find? fun g => decide (s.Fails g) := by
  rw [List.find?_cons]
  split <;> simp_all

/-- The checks are made in this order. -/
theorem fault?_eq_find? (s : Settings) : s.fault? = s.checks.find? (fun f => decide (s.Fails f)) := by
  simp only [checks, find?_fails_cons, List.find?_nil]
  simp [fault?, Fails]

/-- The fault that is reported is the first one. -/
theorem fault?_eq_some_iff : s.fault? = some f ↔ s.FirstFault f := by
  rw [fault?_eq_find?, List.find?_eq_some_iff_append]
  simp [FirstFault]

/-- There is no fault exactly in valid settings. -/
theorem fault?_eq_none_iff : s.fault? = none ↔ s.Valid := by
  have hchecks : s.fault? = none ↔ ∀ f ∈ s.checks, ¬s.Fails f := by
    rw [fault?_eq_find?, List.find?_eq_none]
    simp
  rw [hchecks]
  constructor
  · intro h
    simp only [checks, List.forall_mem_cons, Fails] at h
    obtain ⟨hdelay, hdelays, hqueue, himage, hlevel, -⟩ := h
    constructor <;> simp_all
  · intro h
    simp [checks, Fails, h.maxItemDelay, h.debounce, h.maxRecordDelay, h.maxQueueSize, h.imageSideLimit,
      h.imageByteLimit, h.logLevel]

/-! ## What is loaded -/

/-- Settings are loaded exactly if they are asked for and valid. -/
theorem load_eq_ok_iff : load (.ofBytes vars) = .ok s ↔ AskedFor vars s ∧ s.Valid := by
  rw [askedFor_iff]
  unfold load validate
  constructor
  · intro h
    split at h
    next => cases h
    next hnone =>
      cases h
      exact ⟨rfl, fault?_eq_none_iff.mp hnone⟩
  · rintro ⟨rfl, hvalid⟩
    rw [fault?_eq_none_iff.mpr hvalid]

/-- Loading fails exactly with the first fault of the settings that are asked for. -/
theorem load_eq_error_iff :
    load (.ofBytes vars) = .error f ↔ ∃ s, AskedFor vars s ∧ s.FirstFault f := by
  simp only [askedFor_iff, exists_eq_left, ← fault?_eq_some_iff]
  unfold load validate
  split
  next g hg => simp [hg]
  next hnone => simp [hnone]

/-- **The settings that are asked for are loaded, unless a check fails.** There are such settings, and no
others. What is loaded is valid, and what is reported instead is the first fault. A number that is printed
is read back, whatever white space is around it. -/
theorem load_iff (vars : Variables) :
    (∃! s, AskedFor vars s) ∧
    (∀ s, load (.ofBytes vars) = .ok s ↔ AskedFor vars s ∧ s.Valid) ∧
    (∀ f, load (.ofBytes vars) = .error f ↔ ∃ s, AskedFor vars s ∧ s.FirstFault f) ∧
    (∀ (name text : String) (default n : Int), vars name = some text.toUTF8 →
      Text.Padded (toString n).toList text.toList → minInt64 ≤ n → n ≤ maxInt64 →
      (Environment.ofBytes vars).integer name default = n) ∧
    (∀ (name text : String) (default n : Nat), vars name = some text.toUTF8 →
      Text.Padded (toString n).toList text.toList → n ≤ maxUInt64 →
      (Environment.ofBytes vars).natural name default = n) := by
  refine ⟨⟨_, askedFor_iff.mpr rfl, fun s => askedFor_iff.mp⟩, fun s => load_eq_ok_iff,
    fun f => load_eq_error_iff, ?_, ?_⟩
  · intro name text default n hvar hpadded hleast hgreatest
    apply reads_integer_iff.mp
    apply Reads.value hvar
    exact ⟨⟨_, hpadded, Numeral.writes_toString_int n⟩, hleast, hgreatest⟩
  · intro name text default n hvar hpadded hgreatest
    apply reads_natural_iff.mp
    apply Reads.value hvar
    exact ⟨⟨_, hpadded, Numeral.writes_toString n⟩, Int.natCast_nonneg n, Int.ofNat_le.mpr hgreatest⟩

/-- The defaults are those of the record, and they are accepted. -/
example : load (.ofBytes fun _ => none) = .ok {} := by decide

end Settings

end SessionReplay
