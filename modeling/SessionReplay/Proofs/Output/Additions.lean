import SessionReplay.Proofs.Output.News

/-!
# What an item adds to what was written

While an item is processed any write can fail, and so can the message to the view that something was
written for it. Whatever fails, the batches that are kept come after those that were written before
(`Adds`), and they are the first ones of those that are planned for the item:

* `process_touch_adds`: a batch of touches adds that batch, unless the write fails.
* `process_of_nil`: a snapshot that shows nothing adds nothing.
* `process_snapshot_adds`: a snapshot that shows something is broken off where the end of the view
  before could not be told; if it is not, it is remembered, and adds what is planned unless the last
  write fails.

A storage is `Lasting` if every write is kept; messages to views can fail even so.
-/

namespace SessionReplay

/-! ## Writes -/

namespace Storage

/-- What is kept of a batch that is written next. -/
def keeps (s : Storage) (b : Batch Slot) : List (Batch Slot) :=
  if s.turn.fault = .write then [] else [b]

/-- The next write fails, or the message that follows it. -/
def Falters (s : Storage) : Prop := s.turn.fault ≠ .none

instance (s : Storage) : Decidable s.Falters := inferInstanceAs (Decidable (_ ≠ _))

/-- Every write to come is kept. -/
def Lasting (s : Storage) : Prop := ∀ turn ∈ s.script, turn.fault ≠ .write

/-- What the next write keeps comes after what was written before. -/
theorem written_write (s : Storage) (g : Gallery) (b : Batch Slot) :
    (s.write g b).1.written.toList = s.written.toList ++ (s.keeps b).map g.written := by
  unfold write keeps turn
  dsimp only
  cases (s.script.head?.getD {}).fault with
  | write => simp
  | none => simp [Gallery.written]
  | notify => simp [Gallery.written]

/-- A lasting storage keeps the next batch. -/
theorem Lasting.keeps {s : Storage} (h : s.Lasting) (b : Batch Slot) : s.keeps b = [b] := by
  unfold Storage.keeps turn
  cases hscript : s.script with
  | nil => rfl
  | cons turn script => exact if_neg (h turn (hscript ▸ List.mem_cons_self))

/-- A write keeps its batch or nothing. -/
theorem keeps_prefix (s : Storage) (b : Batch Slot) : s.keeps b <+: [b] := by
  unfold keeps
  split
  · exact List.nil_prefix
  · exact List.prefix_rfl

end Storage

/-- What the worker writes to before and after some batches were kept, when `history` is what is
remembered by then. -/
structure Adds (bs : List (Batch Slot)) (history : ScreenHistory) (s t : Output) : Prop where
  /-- The batches come after those that were written before. -/
  written : t.storage.written.toList = s.storage.written.toList ++ bs.map s.gallery.written
  /-- This is remembered. -/
  remembers : t.history = history
  /-- The pictures are the same. -/
  gallery : t.gallery = s.gallery
  /-- What the host does during the writes to come was to come before. -/
  script : t.storage.script <:+ s.storage.script

namespace Adds

variable {bs cs : List (Batch Slot)} {h h' : ScreenHistory} {s t u : Output}

/-- Nothing is added to what stays as it is. -/
theorem refl (s : Output) : Adds [] s.history s s := ⟨by simp, rfl, rfl, List.suffix_rfl⟩

/-- Batches can be added after others. -/
theorem trans (hst : Adds bs h s t) (htu : Adds cs h' t u) : Adds (bs ++ cs) h' s u where
  written := by
    rw [htu.written, hst.written, hst.gallery, List.map_append, List.append_assoc]
  remembers := htu.remembers
  gallery := htu.gallery.trans hst.gallery
  script := htu.script.trans hst.script

/-- A storage that keeps every write still does so. -/
theorem lasting (hst : Adds bs h s t) (hs : s.storage.Lasting) : t.storage.Lasting :=
  fun turn hmem => hs turn (hst.script.mem hmem)

end Adds

namespace Station

variable {s : Station Output}

/-- What writing a batch does to what the worker writes to, whatever the host records meanwhile. -/
theorem write_adds (s : Station Output) (b : Batch Slot) :
    ((s.write b).2 = true ↔ s.output.storage.Falters) ∧
      Adds (s.output.storage.keeps b) s.output.history s.output (s.write b).1.output := by
  obtain ⟨log, hstore⟩ := s.store_eq b
  obtain ⟨houtput, -⟩ := (s.store b).recordAll_frame s.output.storage.turn.touches
  rw [write_eq]
  refine ⟨bne_iff_ne, ?_⟩
  dsimp only
  rw [houtput, hstore]
  refine ⟨s.output.storage.written_write s.output.gallery b, rfl, rfl, ?_⟩
  change (s.output.storage.write s.output.gallery b).1.script <:+ s.output.storage.script
  rw [Storage.script_write]
  exact List.tail_suffix _

/-- What writing a batch that may be left out adds. -/
theorem write?_adds (s : Station Output) (b : Option (Batch Slot)) :
    ∃ bs, bs <+: b.toList ∧ (s.output.storage.Lasting → bs = b.toList) ∧
      Adds bs s.output.history s.output (s.write? b).1.output := by
  cases b with
  | none => exact ⟨[], List.prefix_rfl, fun _ => rfl, .refl _⟩
  | some b =>
    exact ⟨s.output.storage.keeps b, s.output.storage.keeps_prefix b, fun h => h.keeps b,
      (s.write_adds b).2⟩

/-- A batch, if there is one, is written, or the write or the message that follows it fails. -/
theorem write?_cases (s : Station Output) (b : Option (Batch Slot)) :
    ((s.write? b).2 = true ∧ ∃ b', b = some b' ∧ s.output.storage.Falters ∧
      Adds (s.output.storage.keeps b') s.output.history s.output (s.write? b).1.output) ∨
    ((s.write? b).2 = false ∧ (b = none ∨ ¬s.output.storage.Falters) ∧
      Adds b.toList s.output.history s.output (s.write? b).1.output) := by
  cases b with
  | none => exact .inr ⟨rfl, .inl rfl, .refl _⟩
  | some b =>
    obtain ⟨hfailed, hadds⟩ := s.write_adds b
    by_cases hfalters : s.output.storage.Falters
    · exact .inl ⟨hfailed.mpr hfalters, b, rfl, hfalters, hadds⟩
    · have hkept : s.output.storage.keeps b = [b] := by
        unfold Storage.Falters at hfalters
        unfold Storage.keeps
        rw [Classical.not_not.mp hfalters]
        rfl
      rw [hkept] at hadds
      exact .inr ⟨Bool.eq_false_iff.mpr fun h => hfalters (hfailed.mp h), .inr hfalters, hadds⟩

/-! ## Items -/

/-- **Everything that carrying out a plan can do.** It is broken off where the end of the view before
could not be told, and then nothing is remembered. Or the snapshot is remembered, and what is planned
is written unless the last write fails. -/
theorem carryOut_adds (s : Station Output) (now : Int) (plan : SnapshotPlan) :
    (∃ b, plan.farewell = some b ∧ s.output.storage.Falters ∧
      Adds (s.output.storage.keeps b) s.output.history s.output (s.carryOut now plan).1.output) ∨
    ((plan.farewell = none ∨ ¬s.output.storage.Falters) ∧ ∃ bs, bs <+: plan.report.toList ∧
      (s.output.storage.Lasting → bs = plan.report.toList) ∧
      Adds (plan.farewell.toList ++ bs) plan.history s.output
        (s.carryOut now plan).1.output) := by
  have hcases := s.write?_cases plan.farewell
  rcases hwrite : s.write? plan.farewell with ⟨t, failed⟩
  rw [hwrite] at hcases
  unfold carryOut
  rw [hwrite]
  rcases hcases with ⟨rfl, hfarewell⟩ | ⟨rfl, hsure, hfarewell⟩
  · exact .inl hfarewell
  · dsimp only at hfarewell ⊢
    let noted : Station Output := if plan.unchanged then t.note (.unchangedSnapshot now) else t
    have hnoted : noted.output = t.output := by
      unfold noted
      split <;> rfl
    have hremember : Adds plan.farewell.toList plan.history s.output
        (noted.remember plan.history).output := by
      unfold remember
      rw [hnoted]
      exact ⟨hfarewell.written, rfl, hfarewell.gallery, hfarewell.script⟩
    obtain ⟨bs, hplanned, hall, hreport⟩ := write?_adds (noted.remember plan.history) plan.report
    rw [hremember.remembers] at hreport
    exact .inr ⟨hsure, bs, hplanned, fun h => hall (hremember.lasting h),
      hremember.trans hreport⟩

/-- A batch of touches adds that batch, unless the write fails. -/
theorem process_touch_adds (s : Station Output) {item : Item} {records : List (Record Slot)}
    (htouch : item.content = .touch records) :
    Adds (s.output.storage.keeps ⟨item.data.current, records⟩) s.output.history s.output
      (process item s).1.output := by
  unfold process
  rw [htouch]
  exact (s.write_adds _).2

/-- A snapshot that shows something is broken off, or it is remembered and written as planned. -/
theorem process_snapshot_adds (s : Station Output) {item : Item} {snapshot : Snapshot}
    {plan : SnapshotPlan} (hsnapshot : item.content = .snapshot snapshot)
    (hplan : s.output.history.plan? s.output.gallery item.data snapshot.screen item.wireframes
      = some plan) :
    (∃ b, plan.farewell = some b ∧ s.output.storage.Falters ∧
      Adds (s.output.storage.keeps b) s.output.history s.output (process item s).1.output) ∨
    ((plan.farewell = none ∨ ¬s.output.storage.Falters) ∧ ∃ bs, bs <+: plan.report.toList ∧
      (s.output.storage.Lasting → bs = plan.report.toList) ∧
      Adds (plan.farewell.toList ++ bs) plan.history s.output (process item s).1.output) := by
  rw [process_eq_carryOut hsnapshot hplan]
  exact s.carryOut_adds _ plan

end Station

end SessionReplay
