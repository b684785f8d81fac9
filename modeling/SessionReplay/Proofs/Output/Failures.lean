import SessionReplay.Proofs.Output.Skipping

/-!
# What a failed snapshot leaves behind

Two batches can be written for a snapshot, the end of the view before it and its report, and either
write can fail, or the message to the view that follows it. A failure of the first one comes before
anything is remembered, so it leaves no trace. A failure of the second one comes afterwards: then the
snapshot is remembered as if it had been written in full (`history_of_failed`). So the same screen a
little later is taken for no news and skipped, though no player has seen it
(`failed_report_is_remembered`): a failed snapshot does leave a trace
(`failed_snapshot_leaves_a_trace`).
-/

namespace SessionReplay

/-- What is remembered of a snapshot whose wireframes are all reported. -/
def Item.memory (i : Item) : ScreenHistory where
  wireframes := i.wireframes
  lastFull := some i.data.timestamp
  screen := i.screen?

/-- A history that remembers an item as reported is the memory of the item. -/
theorem ScreenHistory.Remembers.eq_memory {h : ScreenHistory} {item : Item}
    (hremembers : h.Remembers item (some item.data.timestamp)) : h = item.memory := by
  obtain ⟨wireframes, lastFull, screen⟩ := h
  obtain ⟨rfl, rfl, rfl⟩ := hremembers
  rfl

namespace Station

/-- A plan with nothing to write does not fail. -/
theorem carryOut_of_quiet (s : Station Output) (now : Int) {plan : SnapshotPlan}
    (hfarewell : plan.farewell = none) (hreport : plan.report = none) :
    (s.carryOut now plan).2 = false ∧
      (s.carryOut now plan).1.output = { s.output with history := plan.history } := by
  unfold carryOut
  rw [hfarewell, hreport]
  refine ⟨rfl, ?_⟩
  simp only [write?, remember]
  split <;> rfl

/-- What is no news is skipped: nothing is written, and nothing fails. -/
theorem process_of_knows {s : Station Output} {item : Item} (hshows : item.Shows)
    (hknows : s.output.history.Knows s.output.gallery item) :
    (process item s).2 = false ∧ (process item s).1.output.storage = s.output.storage := by
  obtain ⟨snapshot, hsnapshot⟩ := Item.snapshot_of_wireframes hshows
  obtain ⟨plan, hplan, hfarewell, hreport⟩ :=
    s.output.history.plan?_cases s.output.gallery hsnapshot hshows
  have hstays : ¬item.Ends := fun hends => hends.1 hknows.1
  rw [if_neg hstays] at hfarewell
  rcases hreport with ⟨-, hnone, -⟩ | ⟨hnews, -⟩
  · obtain ⟨hdone, houtput⟩ := s.carryOut_of_quiet item.data.timestamp hfarewell hnone
    rw [process_eq_carryOut hsnapshot hplan]
    exact ⟨hdone, by rw [houtput]⟩
  · exact absurd hknows hnews

/-- **What is remembered after a snapshot that failed**: what was remembered before, if the end of the
view before it could not be told; otherwise the snapshot, as if all its wireframes had been written. -/
theorem history_of_failed {s : Station Output} {item : Item} {snapshot : Snapshot}
    (hsnapshot : item.content = .snapshot snapshot) (hfailed : (process item s).2 = true) :
    item.Shows ∧ (process item s).1.output.history =
      if item.BreaksOff s.output.storage then s.output.history else item.memory := by
  have hshows : item.Shows := fun hnone => by
    rw [process_of_nil hsnapshot hnone] at hfailed
    cases hfailed
  have hnews : ¬s.output.history.Knows s.output.gallery item := fun hknows => by
    rw [(process_of_knows hshows hknows).1] at hfailed
    cases hfailed
  obtain ⟨plan, hplan, hfarewell, hreport⟩ :=
    s.output.history.plan?_cases s.output.gallery hsnapshot hshows
  have hmemory : plan.history = item.memory := by
    rcases hreport with ⟨hknows, -⟩ | ⟨-, hremembers, -⟩
    · exact absurd hknows hnews
    · exact hremembers.eq_memory
  refine ⟨hshows, ?_⟩
  rcases process_snapshot_adds s hsnapshot hplan with
    ⟨b, hb, hfalters, hadds⟩ | ⟨hsure, bs, -, -, hadds⟩
  · have hends : item.Ends := Decidable.of_not_not fun hstays => by
      rw [hfarewell, if_neg hstays] at hb
      cases hb
    rw [if_pos ⟨hshows, hends, hfalters⟩]
    exact hadds.remembers
  · have hkept : ¬item.BreaksOff s.output.storage := by
      rintro ⟨-, hends, hfalters⟩
      rw [hfarewell, if_pos hends] at hsure
      exact hsure.elim (Option.some_ne_none _) fun hsure => hsure hfalters
    rw [if_neg hkept, ← hmemory]
    exact hadds.remembers

/-- **A snapshot whose report failed is remembered.** After a snapshot that failed, and that the drain
dropped, what is remembered is what was remembered before, if telling the end of the view before
failed, and otherwise the snapshot itself, written in full at its time. As long as that is remembered,
a snapshot of the same screen with the same wireframes, taken in one view less than the interval
later, is skipped. -/
theorem failed_report_is_remembered {s : Station Output} {item : Item} {snapshot : Snapshot}
    (hsnapshot : item.content = .snapshot snapshot) (hfailed : (process item s).2 = true) :
    let after := s.afterHandling engine item
    after.output.history =
        (if item.BreaksOff s.output.storage then s.output.history else item.memory) ∧
      (¬item.BreaksOff s.output.storage → ∀ (t : Station Output) (next : Item),
        t.output.history = after.output.history → next.data.previous = next.data.current →
        next.Shows → next.screen? = item.screen? →
        elapsed item.data.timestamp next.data.timestamp < fullSnapshotInterval →
        ScreenHistory.sameWireframes t.output.gallery item.wireframes next.wireframes = true →
        (process next t).2 = false ∧
          (t.afterHandling engine next).output.storage.written = t.output.storage.written) := by
  intro after
  have hhistory : after.output.history =
      if item.BreaksOff s.output.storage then s.output.history else item.memory := by
    unfold after
    rw [output_afterHandling]
    exact (history_of_failed hsnapshot hfailed).2
  refine ⟨hhistory, fun hkept t next hsame hstays hshows hscreen hrecent hlike => ?_⟩
  rw [hhistory, if_neg hkept] at hsame
  have hknows : t.output.history.Knows t.output.gallery next := by
    rw [hsame]
    exact ⟨hstays, hscreen.symm, ⟨_, rfl, hrecent⟩, hlike⟩
  obtain ⟨hdone, hstorage⟩ := process_of_knows hshows hknows
  refine ⟨hdone, ?_⟩
  rw [output_afterHandling]
  exact congrArg Storage.written hstorage

/-- A station where nothing has happened, and whose next write fails. -/
def stranded : Station Output :=
  { Exhibition.blank.station with output := { storage := { script := [{ fault := .write }] } } }

/-- The first snapshot is lost, and the same screen a little later is skipped, so that nothing is
written for either. -/
theorem failed_report_is_remembered_first :
    let lost := Exhibition.oneShape 0 {} ⟨"a", "s", "v"⟩ 1
    let next := Exhibition.oneShape 100 ⟨"a", "s", "v"⟩ ⟨"a", "s", "v"⟩ 1
    let after := stranded.afterHandling engine lost
    (process lost stranded).2 = true ∧ ¬lost.BreaksOff stranded.output.storage ∧
      after.output.history = lost.memory ∧ (process next after).2 = false ∧
      (after.afterHandling engine next).output.storage.written = #[] := by
  intro lost next after
  have hfailed : (process lost stranded).2 = true := rfl
  have hkept : ¬lost.BreaksOff stranded.output.storage := by decide
  obtain ⟨hhistory, hskips⟩ := failed_report_is_remembered rfl hfailed
  rw [if_neg hkept] at hhistory
  obtain ⟨hdone, hwritten⟩ :=
    hskips hkept after next rfl rfl (by decide) rfl (by decide) (by decide)
  exact ⟨hfailed, hkept, hhistory, hdone, hwritten⟩

/-- **A failed snapshot can leave a trace.** When the write of a first snapshot fails, that snapshot is
remembered. -/
theorem failed_snapshot_leaves_a_trace :
    ¬∀ (s : Station Output) (item : Item) (snapshot : Snapshot),
      item.content = .snapshot snapshot → (process item s).2 = true →
        (s.afterHandling engine item).output.history = s.output.history := by
  intro hclaim
  have hsame := hclaim stranded (Exhibition.oneShape 0 {} ⟨"a", "s", "v"⟩ 1) _ rfl rfl
  exact absurd (congrArg ScreenHistory.lastFull hsame) (by decide)

end Station

end SessionReplay
