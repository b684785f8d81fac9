import SessionReplay.Proofs.Output.Writing

/-!
# What is written for an item

If the host lets no write fail, processing an item writes the batches that are planned for it and
nothing else (`process_wrote`). A snapshot that shows something is planned from what it remembers of
the view before it, not from what was written before. So it announces a change of view exactly when
the item accepted just before it belongs to the view that was shown last (`announces_iff`).
-/

namespace SessionReplay

/-- The wireframes that an item shows, in the order in which they are painted. -/
def Item.wireframes (i : Item) : List (Wireframe Slot) := Node.flattenAll i.nodes

/-- What shows something is a snapshot. -/
theorem Item.snapshot_of_wireframes {i : Item} (h : i.wireframes ≠ []) :
    ∃ snapshot, i.content = .snapshot snapshot := by
  obtain ⟨data, content⟩ := i
  cases content with
  | snapshot snapshot => exact ⟨snapshot, rfl⟩
  | touch records => exact absurd rfl h

/-- A batch as it is written while the gallery is as given. -/
def Gallery.written (g : Gallery) (b : Batch Slot) : Written := ⟨b, b.map g.picture?⟩

/-- Written batches tell which batches were written. -/
theorem Gallery.map_written_inj {g : Gallery} {bs cs : List (Batch Slot)}
    (h : bs.map g.written = cs.map g.written) : bs = cs := by
  have hbatches := congrArg (List.map Written.batch) h
  simpa only [List.map_map, Function.comp_def, written, List.map_id'] using hbatches

/-- The host lets none of the writes to come fail. -/
def Storage.Faultless (s : Storage) : Prop := ∀ turn ∈ s.script, turn.fault = .none

/-- A write of a faultless storage succeeds, is kept, and leaves the storage faultless. -/
theorem Storage.Faultless.write {s : Storage} (h : s.Faultless) (g : Gallery) (b : Batch Slot) :
    s.turn.fault = .none ∧ (s.write g b).1.written.toList = s.written.toList ++ [g.written b] ∧
      (s.write g b).1.Faultless := by
  have hturn : s.turn.fault = .none := by
    unfold turn
    cases hscript : s.script with
    | nil => rfl
    | cons turn script => exact h turn (hscript ▸ List.mem_cons_self)
  refine ⟨hturn, ?_, ?_⟩
  · have hfault : (s.script.head?.getD {}).fault = .none := hturn
    simp only [Storage.write, hfault, Array.toList_push]
    rfl
  · intro turn hmem
    rw [script_write] at hmem
    exact h turn (List.mem_of_mem_tail hmem)

/-- What the worker writes to before and after some batches were written, when `history` is what is
remembered by then. -/
structure Wrote (bs : List (Batch Slot)) (history : ScreenHistory) (s t : Output) : Prop where
  /-- The batches come after those that were written before. -/
  written : t.storage.written.toList = s.storage.written.toList ++ bs.map s.gallery.written
  /-- The writes to come will not fail. -/
  faultless : t.storage.Faultless
  /-- This is remembered. -/
  remembers : t.history = history
  /-- The pictures are the same. -/
  gallery : t.gallery = s.gallery

/-- Batches can be written after others. -/
theorem Wrote.trans {bs cs : List (Batch Slot)} {h h' : ScreenHistory} {s t u : Output}
    (hst : Wrote bs h s t) (htu : Wrote cs h' t u) : Wrote (bs ++ cs) h' s u where
  written := by
    rw [htu.written, hst.written, hst.gallery, List.map_append, List.append_assoc]
  faultless := htu.faultless
  remembers := htu.remembers
  gallery := htu.gallery.trans hst.gallery

/-! ## Plans -/

/-- The records that announce a snapshot in a new view: the screen, the focus and all wireframes. -/
def Item.introduction (i : Item) (screen : ScreenInfo) : Batch Slot where
  context := i.data.current
  records := ScreenHistory.announcement i.data.timestamp screen
    ++ [⟨i.data.timestamp, .fullSnapshot i.wireframes⟩]

/-- The record that ends a view at the time of an item. -/
def Item.farewell (i : Item) (view : ViewContext) : Batch Slot where
  context := view
  records := [⟨i.data.timestamp, .viewEnd⟩]

/-- What tells of the change from the view that was shown last, if there is one, to the view of an
item: the end of the one, and the introduction of the other. -/
def Item.transition (i : Item) (shown : Option ViewContext) (screen : ScreenInfo) :
    List (Batch Slot) :=
  (shown.map i.farewell).toList ++ [i.introduction screen]

namespace ScreenHistory

variable (h : ScreenHistory) (gallery : Gallery) (screen : ScreenInfo) {item : Item}

/-- A snapshot that shows nothing is passed over. -/
theorem plan?_of_nil (hnone : item.wireframes = []) :
    h.plan? gallery item.data screen item.wireframes = none := by
  simp only [plan?, hnone, List.isEmpty_nil, if_true]

/-- A snapshot that shows something ends the view of the item before it, if that was another one,
and the screen is remembered. -/
theorem plan?_of_ne_nil (hshows : item.wireframes ≠ []) :
    ∃ plan, h.plan? gallery item.data screen item.wireframes = some plan ∧
      plan.farewell = (if item.data.previous ≠ item.data.current ∧
        item.data.previous.isValid = true then some (item.farewell item.data.previous) else none) ∧
      plan.history.screen.isSome = true ∧
      (item.data.previous ≠ item.data.current ∨ h.screen = none →
        plan.report = some (item.introduction screen)) := by
  have hne : item.wireframes.isEmpty = false := by
    cases hw : item.wireframes with
    | nil => exact absurd hw hshows
    | cons w ws => rfl
  simp only [plan?, hne, Bool.false_eq_true, if_false]
  refine ⟨_, rfl, ?farewell, rfl, ?report⟩
  case farewell =>
    simp only [Bool.and_eq_true, bne_iff_ne, Item.farewell]
  case report =>
    intro hannounced
    have hnews : (item.data.previous != item.data.current
        || h.screen != some (screen.bounds, screen.orientation)) = true := by
      rcases hannounced with hchanged | hfirst
      · simp only [bne_iff_ne.mpr hchanged, Bool.true_or]
      · simp [hfirst]
    simp only [hnews, Bool.true_or, if_true, Item.introduction]
    rfl

end ScreenHistory

namespace Station

variable {s : Station Output}

/-! ## Writes that do not fail -/

/-- A batch is written, whatever the host records meanwhile. -/
theorem write_wrote (h : s.output.storage.Faultless) (b : Batch Slot) :
    (s.write b).2 = false ∧ Wrote [b] s.output.history s.output (s.write b).1.output := by
  obtain ⟨hfault, hwritten, hfaultless⟩ := h.write s.output.gallery b
  obtain ⟨log, hstore⟩ := s.store_eq b
  obtain ⟨houtput, -⟩ := (s.store b).recordAll_frame s.output.storage.turn.touches
  rw [write_eq]
  refine ⟨by rw [hfault]; rfl, ?_⟩
  dsimp only
  rw [houtput, hstore]
  exact ⟨hwritten, hfaultless, rfl, rfl⟩

/-- Without faults a batch that may be left out is written. -/
theorem write?_wrote (h : s.output.storage.Faultless) (b : Option (Batch Slot)) :
    (s.write? b).2 = false ∧ Wrote b.toList s.output.history s.output (s.write? b).1.output := by
  cases b with
  | none => exact ⟨rfl, by simp [write?], h, rfl, rfl⟩
  | some b => exact write_wrote h b

/-- Both parts of a plan are written, and the snapshot is remembered. -/
theorem carryOut_wrote (h : s.output.storage.Faultless) (now : Int) (plan : SnapshotPlan) :
    (s.carryOut now plan).2 = false ∧
      Wrote (plan.farewell.toList ++ plan.report.toList) plan.history s.output
        (s.carryOut now plan).1.output := by
  obtain ⟨hok, hfarewell⟩ := write?_wrote h plan.farewell
  rcases hwrite : s.write? plan.farewell with ⟨t, failed⟩
  rw [hwrite] at hok hfarewell
  dsimp only at hok hfarewell
  subst hok
  let noted : Station Output := if plan.unchanged then t.note (.unchangedSnapshot now) else t
  have hnoted : noted.output = t.output := by
    unfold noted
    split <;> rfl
  have hcarry : s.carryOut now plan = (noted.remember plan.history).write? plan.report := by
    unfold carryOut
    rw [hwrite]
  have hremember : Wrote [] plan.history t.output (noted.remember plan.history).output := by
    unfold remember
    rw [hnoted]
    exact ⟨by simp, hfarewell.faultless, rfl, rfl⟩
  obtain ⟨hok, hreport⟩ := write?_wrote hremember.faultless plan.report
  rw [hcarry]
  refine ⟨hok, ?_⟩
  have hall := (hfarewell.trans hremember).trans hreport
  rw [List.append_nil, hremember.remembers] at hall
  exact hall

/-! ## Items -/

/-- Processing a batch of touches writes that batch. -/
theorem process_touches_wrote (h : s.output.storage.Faultless) {item : Item}
    {records : List (Record Slot)} (htouch : item.content = .touch records) :
    (process item s).2 = false ∧
      Wrote [⟨item.data.current, records⟩] s.output.history s.output
        (process item s).1.output := by
  unfold process
  rw [htouch]
  exact write_wrote h _

/-- Processing a snapshot that shows nothing does nothing. -/
theorem process_of_nil {item : Item} {snapshot : Snapshot}
    (hsnapshot : item.content = .snapshot snapshot) (hnone : item.wireframes = []) :
    process item s = (s, false) := by
  have hplan := s.output.history.plan?_of_nil s.output.gallery snapshot.screen hnone
  unfold Item.wireframes Item.nodes at hplan
  rw [hsnapshot] at hplan
  unfold process
  rw [hsnapshot]
  dsimp only at hplan ⊢
  rw [hplan]

/-- Processing a snapshot that shows something is carrying out its plan. -/
theorem process_eq_carryOut {item : Item} {snapshot : Snapshot} {plan : SnapshotPlan}
    (hsnapshot : item.content = .snapshot snapshot)
    (hplan : s.output.history.plan? s.output.gallery item.data snapshot.screen item.wireframes
      = some plan) : process item s = s.carryOut item.data.timestamp plan := by
  unfold Item.wireframes Item.nodes at hplan
  rw [hsnapshot] at hplan
  unfold process
  rw [hsnapshot]
  dsimp only at hplan ⊢
  rw [hplan]

/-- Processing a snapshot that shows something writes the two parts of its plan. -/
theorem process_wrote (h : s.output.storage.Faultless) {item : Item} {snapshot : Snapshot}
    {plan : SnapshotPlan} (hsnapshot : item.content = .snapshot snapshot)
    (hplan : s.output.history.plan? s.output.gallery item.data snapshot.screen item.wireframes
      = some plan) :
    (process item s).2 = false ∧
      Wrote (plan.farewell.toList ++ plan.report.toList) plan.history s.output
        (process item s).1.output := by
  rw [process_eq_carryOut hsnapshot hplan]
  exact carryOut_wrote h _ plan

end Station

/-! ## Changes of view -/

/-- The item accepted just before an item belongs to the view that was shown last. If none was
shown, there was no change of view, or no view before. -/
def Item.Follows (i : Item) : Option ViewContext → Prop
  | some view => i.data.previous = view
  | none => i.data.previous = i.data.current ∨ i.data.previous.isValid = false

/-- **When a change of view is told.** A snapshot that shows something, in another view than the one
shown last, is written as the transition between the two exactly if the item accepted just before it
belongs to the view shown last. -/
theorem Station.announces_iff {s : Station Output} (h : s.output.storage.Faultless) {item : Item}
    {snapshot : Snapshot} (hsnapshot : item.content = .snapshot snapshot)
    (hshows : item.wireframes ≠ []) {shown : Option ViewContext}
    (hvalid : ∀ view ∈ shown, view.isValid = true)
    (hchange : ∀ view ∈ shown, view ≠ item.data.current)
    (hfirst : shown = none → s.output.history.screen = none) :
    (process item s).1.output.storage.written.toList = s.output.storage.written.toList
        ++ (item.transition shown snapshot.screen).map s.output.gallery.written ↔
      item.Follows shown := by
  obtain ⟨plan, hplan, hfarewell, -, hreport⟩ :=
    s.output.history.plan?_of_ne_nil s.output.gallery snapshot.screen hshows
  obtain ⟨-, hwrote⟩ := process_wrote h hsnapshot hplan
  have hiff : (process item s).1.output.storage.written.toList = s.output.storage.written.toList
        ++ (item.transition shown snapshot.screen).map s.output.gallery.written ↔
      plan.farewell.toList ++ plan.report.toList = item.transition shown snapshot.screen := by
    rw [hwrote.written, List.append_cancel_left_eq]
    exact ⟨Gallery.map_written_inj, fun heq => by rw [heq]⟩
  rw [hiff, hfarewell]
  unfold Item.transition
  cases shown with
  | none =>
    rw [hreport (.inr (hfirst rfl))]
    change _ ↔ item.data.previous = item.data.current ∨ item.data.previous.isValid = false
    split
    next hends =>
      refine ⟨fun heq => ?_, fun hno => ?_⟩
      · cases congrArg List.length heq
      · rcases hno with hsame | hinvalid
        · exact absurd hsame hends.1
        · exact absurd hends.2 (by simp [hinvalid])
    next hends =>
      refine ⟨fun _ => ?_, fun _ => rfl⟩
      by_cases hsame : item.data.previous = item.data.current
      · exact .inl hsame
      · exact .inr (Bool.eq_false_iff.mpr fun hv => hends ⟨hsame, hv⟩)
  | some view =>
    change _ ↔ item.data.previous = view
    refine ⟨fun heq => ?_, fun hfollows => ?_⟩
    · split at heq
      next hends =>
        have hfirst := (List.cons.inj heq).1
        exact congrArg Batch.context hfirst
      next hends =>
        have hlength := congrArg List.length heq
        cases hr : plan.report with
        | none =>
          rw [hr] at hlength
          cases hlength
        | some report =>
          rw [hr] at hlength
          cases hlength
    · have hne : view ≠ item.data.current := hchange view rfl
      rw [hfollows, if_pos ⟨hne, hvalid view rfl⟩, hreport (.inl (hfollows ▸ hne))]
      rfl

end SessionReplay
