import SessionReplay.Proofs.Output.Additions

/-!
# What is decided about a snapshot

A snapshot that shows something is either no news, or it is reported in full, after the end of the
view before it if there is one (`plan?_cases`); the report announces a new view or screen first
(`report_of_plan?`). Whatever fails then, no other batches are written for it (`process_writes`).
-/

namespace SessionReplay

namespace Item

/-- The screen that a snapshot was taken of: where it is and how the device is held. -/
def screen? (i : Item) : Option (Bounds × Orientation) :=
  match i.content with
  | .snapshot s => some (s.screen.bounds, s.screen.orientation)
  | .touch _ => none

/-- The item is a snapshot that shows something. -/
def Shows (i : Item) : Prop := i.wireframes ≠ []

instance (i : Item) : Decidable i.Shows :=
  decidable_of_iff (i.wireframes.isEmpty = false) List.isEmpty_eq_false_iff

/-- A snapshot ends the view of the item before it. -/
def Ends (i : Item) : Prop :=
  i.data.previous ≠ i.data.current ∧ i.data.previous.isValid = true

instance (i : Item) : Decidable i.Ends := inferInstanceAs (Decidable (_ ∧ _))

/-- A snapshot announces its view and its screen: it is taken in another view than the item before it,
or of another screen than the given one. -/
def Announces (i : Item) (screen : Option (Bounds × Orientation)) : Prop :=
  i.data.previous ≠ i.data.current ∨ screen ≠ i.screen?

instance (i : Item) (screen : Option (Bounds × Orientation)) : Decidable (i.Announces screen) :=
  inferInstanceAs (Decidable (_ ∨ _))

/-- The record of all wireframes that an item shows. -/
def fullRecord (i : Item) : Record Slot := ⟨i.data.timestamp, .fullSnapshot i.wireframes⟩

/-- The report of a snapshot: all its wireframes, behind what announces its view and its screen if it
does so. -/
def report (i : Item) (screen : ScreenInfo) (last : Option (Bounds × Orientation)) : Batch Slot where
  context := i.data.current
  records :=
    (if i.Announces last then ScreenHistory.announcement i.data.timestamp screen else [])
      ++ [i.fullRecord]

/-- A batch that reports a snapshot in its own view: all its wireframes, behind the records that
announce the view or the screen if these have changed. -/
def Reports (i : Item) (b : Batch Slot) : Prop :=
  b.context = i.data.current ∧ ∃ rs, (rs = [] ∨
    ∃ screen, rs = ScreenHistory.announcement i.data.timestamp screen) ∧
    b.records = rs ++ [i.fullRecord]

end Item

namespace ScreenHistory

/-- A snapshot is no news: it was taken in the view of the item before it and of the screen that is
remembered, all wireframes were written not long ago, and those that are remembered are like its
own. -/
def Knows (h : ScreenHistory) (gallery : Gallery) (item : Item) : Prop :=
  item.data.previous = item.data.current ∧ h.screen = item.screen? ∧
    (∃ last, h.lastFull = some last ∧ elapsed last item.data.timestamp < fullSnapshotInterval) ∧
    sameWireframes gallery h.wireframes item.wireframes = true

/-- What is remembered is a snapshot, and when all wireframes were written last. -/
structure Remembers (h : ScreenHistory) (item : Item) (lastFull : Option Int) : Prop where
  /-- Its wireframes. -/
  wireframes : h.wireframes = item.wireframes
  /-- Its screen. -/
  screen : h.screen = item.screen?
  /-- When all wireframes were written last. -/
  lastFull : h.lastFull = lastFull

/-- A full snapshot is not due exactly if the last one is younger than the interval, as ages are counted. -/
theorem fullDue_eq_false (h : ScreenHistory) (now : Int) : h.fullDue now = false ↔
    ∃ last, h.lastFull = some last ∧ elapsed last now < fullSnapshotInterval := by
  unfold fullDue
  cases h.lastFull with
  | none => simp
  | some last => simp

/-- Whether a view or a screen is announced with an item, as the code has it. -/
def announced (h : ScreenHistory) (item : Item) : Bool :=
  item.data.previous != item.data.current || h.screen != item.screen?

/-- Whether all wireframes of an item are written, as the code has it. -/
def full (h : ScreenHistory) (gallery : Gallery) (item : Item) : Bool :=
  h.announced item || h.fullDue item.data.timestamp
    || !sameWireframes gallery h.wireframes item.wireframes

/-- Whether an item announces its screen can be computed. -/
theorem announced_iff (h : ScreenHistory) (item : Item) :
    h.announced item = true ↔ item.Announces h.screen := by
  unfold announced Item.Announces
  simp

/-- A report is not full exactly if the snapshot is no news. -/
theorem full_eq_false (h : ScreenHistory) (gallery : Gallery) (item : Item) :
    h.full gallery item = false ↔ h.Knows gallery item := by
  unfold full announced Knows
  simp only [Bool.or_eq_false_iff, bne_eq_false_iff_eq, Bool.not_eq_false', fullDue_eq_false,
    and_assoc]

/-- The plan of a snapshot that shows something. -/
theorem plan?_eq (h : ScreenHistory) (gallery : Gallery) {item : Item} {snapshot : Snapshot}
    (hsnapshot : item.content = .snapshot snapshot) (hshows : item.Shows) :
    ∃ plan, h.plan? gallery item.data snapshot.screen item.wireframes = some plan ∧
      plan.farewell = (if item.Ends then some (item.farewell item.data.previous) else none) ∧
      plan.history = ⟨item.wireframes,
        if h.full gallery item then some item.data.timestamp else h.lastFull, item.screen?⟩ ∧
      plan.report =
        (let records :=
          (if h.announced item then announcement item.data.timestamp snapshot.screen else [])
            ++ (if h.full gallery item then [item.fullRecord] else [])
        if records.isEmpty then none else some ⟨item.data.current, records⟩) := by
  have hscreen : item.screen? = some (snapshot.screen.bounds, snapshot.screen.orientation) := by
    unfold Item.screen?
    rw [hsnapshot]
  have hne : item.wireframes.isEmpty = false := List.isEmpty_eq_false_iff.mpr hshows
  simp only [plan?, hne, Bool.false_eq_true, if_false, full, announced, hscreen]
  refine ⟨_, rfl, ?_, rfl, rfl⟩
  refine ite_congr (propext ?_) (fun _ => rfl) fun _ => rfl
  rw [Bool.and_eq_true, bne_iff_ne]
  rfl

/-- **What is decided about a snapshot that shows something.** Nothing is written if it is no news.
Otherwise the end of the view of the item before it is written if there is one, and then a report. -/
theorem plan?_cases (h : ScreenHistory) (gallery : Gallery) {item : Item} {snapshot : Snapshot}
    (hsnapshot : item.content = .snapshot snapshot) (hshows : item.Shows) :
    ∃ plan, h.plan? gallery item.data snapshot.screen item.wireframes = some plan ∧
      plan.farewell = (if item.Ends then some (item.farewell item.data.previous) else none) ∧
      ((h.Knows gallery item ∧ plan.report = none ∧ plan.history.Remembers item h.lastFull) ∨
        (¬h.Knows gallery item ∧ plan.history.Remembers item (some item.data.timestamp) ∧
          ∃ b, item.Reports b ∧ plan.report = some b)) := by
  obtain ⟨plan, heq, hfarewell, hhistory, hreport⟩ := h.plan?_eq gallery hsnapshot hshows
  refine ⟨plan, heq, hfarewell, ?_⟩
  rw [← full_eq_false, hhistory, hreport]
  cases hfull : h.full gallery item with
  | false =>
    have hquiet : h.announced item = false := by
      have hsplit := hfull
      unfold full at hsplit
      simp only [Bool.or_eq_false_iff] at hsplit
      exact hsplit.1.1
    refine .inl ⟨rfl, ?_, rfl, rfl, rfl⟩
    rw [hquiet]
    rfl
  | true =>
    let announcing :=
      if h.announced item then announcement item.data.timestamp snapshot.screen else []
    refine .inr ⟨Bool.noConfusion, ⟨rfl, rfl, rfl⟩,
      ⟨item.data.current, announcing ++ [item.fullRecord]⟩, ⟨rfl, announcing, ?_, rfl⟩, ?_⟩
    · unfold announcing
      split
      · exact .inr ⟨_, rfl⟩
      · exact .inl rfl
    · simp [announcing]

/-- What is news is reported. -/
theorem report_of_plan? {h : ScreenHistory} {gallery : Gallery} {item : Item} {snapshot : Snapshot}
    {plan : SnapshotPlan} (hsnapshot : item.content = .snapshot snapshot) (hshows : item.Shows)
    (hplan : h.plan? gallery item.data snapshot.screen item.wireframes = some plan)
    (hnews : ¬h.Knows gallery item) :
    plan.report = some (item.report snapshot.screen h.screen) := by
  obtain ⟨plan', heq, -, -, hreport⟩ := h.plan?_eq gallery hsnapshot hshows
  obtain rfl := Option.some.inj (hplan.symm.trans heq)
  have hfull : h.full gallery item = true := by
    rw [← full_eq_false] at hnews
    exact eq_true_of_ne_false hnews
  rw [hreport, hfull]
  simp only [announced_iff, if_true]
  exact if_neg (by simp)

end ScreenHistory

/-! ## What a snapshot leaves behind -/

/-- A list that is the beginning of a single entry is empty or has this entry. -/
theorem eq_nil_or_singleton_of_isPrefix {α : Type} {as : List α} {a : α} (h : as <+: [a]) :
    as = [] ∨ as = [a] := by
  rcases List.prefix_cons_iff.mp h with hnil | ⟨rest, rfl, hrest⟩
  · exact .inl hnil
  · exact .inr (congrArg _ (List.prefix_nil.mp hrest))

/-- What can be written for an item: touches as they are; for a snapshot at most the end of the view of
the item before it, and a report. -/
inductive Item.Writes (i : Item) : List (Batch Slot) → Prop
  /-- Of a batch of touches. -/
  | touch (records : List (Record Slot)) (bs : List (Batch Slot)) (content : i.content = .touch records)
      (all : ∀ b ∈ bs, b = ⟨i.data.current, records⟩) : Writes i bs
  /-- Of a snapshot. -/
  | snapshot (s : Snapshot) (farewells reports : List (Batch Slot)) (content : i.content = .snapshot s)
      (ends : farewells = [] ∨ i.Ends ∧ farewells = [i.farewell i.data.previous])
      (tells : reports = [] ∨ ∃ b, i.Reports b ∧ reports = [b]) : Writes i (farewells ++ reports)

/-- **What is written for an item, whatever fails.** The wireframes that are remembered afterwards are
its own or those remembered before. -/
theorem Station.process_writes (s : Station Output) (item : Item) :
    ∃ bs history, Adds bs history s.output (process item s).1.output ∧ item.Writes bs ∧
      (history.wireframes = s.output.history.wireframes ∨ history.wireframes = item.wireframes) := by
  cases hcontent : item.content with
  | touch records =>
    refine ⟨_, _, process_touch_adds s hcontent, .touch records _ hcontent fun b hb => ?_, .inl rfl⟩
    exact List.mem_singleton.mp ((s.output.storage.keeps_prefix _).subset hb)
  | snapshot snapshot =>
    by_cases hshows : item.Shows
    · obtain ⟨plan, hplan, hfarewell, hreport⟩ :=
        s.output.history.plan?_cases s.output.gallery hcontent hshows
      have hfarewells : ∀ {fs : List (Batch Slot)}, fs <+: plan.farewell.toList →
          fs = [] ∨ item.Ends ∧ fs = [item.farewell item.data.previous] := by
        intro fs hfs
        rw [hfarewell] at hfs
        split at hfs
        · next hends => exact (eq_nil_or_singleton_of_isPrefix hfs).imp_right fun h => ⟨hends, h⟩
        · exact .inl (List.prefix_nil.mp hfs)
      rcases process_snapshot_adds s hcontent hplan with ⟨b, hb, -, hadds⟩ | ⟨-, bs, hbs, -, hadds⟩
      · have hkept : s.output.storage.keeps b <+: plan.farewell.toList := by
          rw [hb]
          exact s.output.storage.keeps_prefix b
        rw [← List.append_nil (s.output.storage.keeps b)] at hadds
        exact ⟨_, _, hadds, .snapshot snapshot _ _ hcontent (hfarewells hkept) (.inl rfl), .inl rfl⟩
      · refine ⟨_, _, hadds, .snapshot snapshot _ _ hcontent (hfarewells List.prefix_rfl) ?_, ?_⟩
        · rcases hreport with ⟨-, hnone, -⟩ | ⟨-, -, b, hb, hsome⟩
          · rw [hnone] at hbs
            exact .inl (List.prefix_nil.mp hbs)
          · rw [hsome] at hbs
            exact (eq_nil_or_singleton_of_isPrefix hbs).imp_right fun h => ⟨b, hb, h⟩
        · rcases hreport with ⟨-, -, hremembers⟩ | ⟨-, hremembers, -⟩ <;>
            exact .inr hremembers.wireframes
    · rw [process_of_nil hcontent (Classical.not_not.mp hshows)]
      exact ⟨_, _, .refl _, .snapshot snapshot [] [] hcontent (.inl rfl) (.inl rfl), .inl rfl⟩

end SessionReplay
