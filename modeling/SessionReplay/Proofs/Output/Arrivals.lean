import SessionReplay.Proofs.Output.Additions
import SessionReplay.Proofs.Queue.Items

/-!
# Items that join the queue

While the worker processes an item, it writes, and the host may record touches (`process_chores`), so
nothing but touches joins the queue (`process_joined`). Whatever the worker does, the snapshots in the
queue's books stay as they are (`work_joined`).
-/

namespace SessionReplay

namespace Storage

/-- All touches that the host is going to report are of one kind. -/
def Foresees (ok : List (Record Slot) → Prop) (s : Storage) : Prop :=
  ∀ turn ∈ s.script, ∀ records ∈ turn.touches, ok records

/-- Nothing is known of the touches that the host is going to report. -/
theorem foresees_any (s : Storage) : s.Foresees fun _ => True := fun _ _ _ _ => trivial

/-- So are those that it reports during the next write. -/
theorem Foresees.turn {ok : List (Record Slot) → Prop} {s : Storage} (h : s.Foresees ok) :
    ∀ records ∈ s.turn.touches, ok records := by
  unfold Storage.turn
  cases hscript : s.script with
  | nil => exact nofun
  | cons turn script => exact h turn (hscript ▸ List.mem_cons_self)

end Storage

namespace Station

variable {σ : Type}

/-- Touches that are recorded join the queue at most. -/
theorem recordTouches_joined (s : Station σ) (records : List (Record Slot)) :
    s.queue.Joined (s.recordTouches records).2.queue := by
  have hadd : s.queue.Joined (s.addTouches records).2.queue := by
    change s.queue.Joined (s.addItem (.touch records)).2.queue
    rcases s.addItem_cases (.touch records) with ⟨view, -, h⟩ | ⟨-, event, h⟩ <;> rw [h]
    · refine ⟨fun hfound => Queue.item?_add_of_some hfound _, fun hfound => ?_⟩
      rcases Queue.item?_of_add hfound with hfound | ⟨-, rfl⟩
      · exact .inl hfound
      · exact .inr ⟨records, rfl⟩
    · exact .refl _
  rcases s.recordTouches_cases records with ⟨-, h⟩ | ⟨-, h⟩ <;> rw [h]
  · rw [queue_requestDrain]
    exact hadd
  · exact hadd

/-! ## What happens while an item is processed -/

/-- One thing that happens while an item is processed, if the host reports touches of one kind only. -/
inductive Chore (ok : List (Record Slot) → Prop) (s : Station Output) : Station Output → Prop
  /-- The worker writes, remembers and logs. -/
  | write (output : Output) (log : Array Log.Event) :
    Chore ok s { s with output := output, log := log }
  /-- The host reports touches. -/
  | record (records : List (Record Slot)) (reported : ok records) :
    Chore ok s (s.recordTouches records).2

/-- Such things one after the other. -/
abbrev Chores (ok : List (Record Slot) → Prop) : Station Output → Station Output → Prop :=
  Relation.ReflTransGen (Chore ok)

/-- What is kept by each of them is kept by several. -/
theorem chores_induction {ok : List (Record Slot) → Prop} {P : Station Output → Prop}
    (hchore : ∀ s t, Chore ok s t → P s → P t) {s t : Station Output} (h : P s)
    (hchores : Chores ok s t) : P t := by
  induction hchores with
  | refl => exact h
  | tail _ hlast ih => exact hchore _ _ hlast ih

section Chores

variable {ok : List (Record Slot) → Prop} {s : Station Output}

/-- Reporting touches of one kind is such chores. -/
theorem recordAll_chores {batches : List (List (Record Slot))} (h : ∀ records ∈ batches, ok records)
    (s : Station Output) : Chores ok s (s.recordAll batches) := by
  induction batches generalizing s with
  | nil => exact .refl
  | cons records batches ih =>
    have hrest := ih (fun _ hmem => h _ (List.mem_cons_of_mem _ hmem)) (s.recordTouches records).2
    exact .head (.record records (h _ List.mem_cons_self)) hrest

/-- So is a write during which the host reports touches of this kind only. -/
theorem write_chores (h : s.output.storage.Foresees ok) (b : Batch Slot) :
    Chores ok s (s.write b).1 := by
  obtain ⟨log, hstore⟩ := s.store_eq b
  rw [write_eq]
  refine .head (hstore ▸ .write _ log) (recordAll_chores (fun records hmem => ?_) (s.store b))
  exact h.turn records hmem

/-- The host still does only what it was going to do. -/
theorem write?_chores (h : s.output.storage.Foresees ok) (b : Option (Batch Slot)) :
    Chores ok s (s.write? b).1 ∧ (s.write? b).1.output.storage.Foresees ok := by
  obtain ⟨bs, -, -, hadds⟩ := s.write?_adds b
  refine ⟨?_, fun turn hmem => h turn (hadds.script.mem hmem)⟩
  cases b with
  | none => exact .refl
  | some b => exact write_chores h b

/-- So is carrying out a plan. -/
theorem carryOut_chores (h : s.output.storage.Foresees ok) (now : Int) (plan : SnapshotPlan) :
    Chores ok s (s.carryOut now plan).1 := by
  obtain ⟨hfarewell, hforesees⟩ := write?_chores h plan.farewell
  unfold carryOut
  split
  next t heq =>
    rw [heq] at hfarewell
    exact hfarewell
  next t heq =>
    rw [heq] at hfarewell hforesees
    let noted : Station Output := if plan.unchanged then t.note (.unchangedSnapshot now) else t
    have hnoted : ∃ log, noted = { t with log := log } := by
      unfold noted
      split
      · exact ⟨_, rfl⟩
      · exact ⟨t.log, rfl⟩
    obtain ⟨log, hlog⟩ := hnoted
    have hremembered : (noted.remember plan.history).output.storage.Foresees ok := by
      rw [hlog]
      exact hforesees
    refine (hfarewell.tail ?_).trans (write?_chores hremembered plan.report).1
    change Chore ok t (noted.remember plan.history)
    rw [hlog]
    exact .write { t.output with history := plan.history } log

/-- **While an item is processed**, the worker writes and logs, and the host reports the touches that
it was going to report. -/
theorem process_chores (h : s.output.storage.Foresees ok) (item : Item) :
    Chores ok s (process item s).1 := by
  unfold process
  split
  · exact write_chores h _
  · dsimp only
    split
    · exact .refl
    · exact carryOut_chores h _ _

end Chores

/-- While an item is processed, touches join the queue at most. -/
theorem process_joined (item : Item) (s : Station Output) :
    s.queue.Joined (process item s).1.queue := by
  refine chores_induction (P := fun t => s.queue.Joined t.queue) ?_ (.refl _)
    (process_chores (Storage.foresees_any _) item)
  intro t u hchore ht
  cases hchore with
  | write output log => exact ht
  | record records reported => exact ht.trans (t.recordTouches_joined records)

/-- Whatever the worker does in one step, touches join the queue at most. -/
theorem work_joined {s t : Station Output} (h : s.step? engine = some t) :
    s.queue.Joined t.queue := by
  refine work_induction (P := fun u => s.queue.Joined u.queue) ?_ ?_ (.refl _) h
  · intro u v hu _ hqueue _ _ _
    rw [hqueue]
    exact hu
  · intro u v hturn hu
    have htaken : s.queue.Joined u.takeHead.queue := hu.trans (.of_items rfl)
    cases hturn with
    | stale id item head verdict => exact htaken
    | invalid id item head verdict => exact htaken
    | ready id item head verdict =>
      have hhandled := htaken.trans (process_joined item u.takeHead)
      unfold afterHandling
      split <;> exact hhandled

/-- An item that is accepted for a snapshot is a new one without nodes. -/
theorem addSnapshot_frame {s t : Station Output} {screen : ScreenInfo} {id : ItemId}
    (accepted : s.addSnapshot screen = (some id, t)) :
    t.output = s.output ∧
      ∃ item, t.queue.item? id = some item ∧ item.awaitsNodes = true ∧ item.nodes = [] ∧
        (∀ {i old}, s.queue.item? i = some old → t.queue.item? i = some old ∧ i ≠ id) ∧
        ∀ {i old}, t.queue.item? i = some old → s.queue.item? i = some old ∨ i = id ∧ old = item := by
  rcases s.addItem_cases (.snapshot { screen := screen }) with ⟨view, -, hadd⟩ | ⟨-, event, hadd⟩
  · cases hadd.symm.trans accepted
    refine ⟨rfl, s.newItem view (.snapshot { screen := screen }), s.queue.item?_add_self _, rfl, rfl,
      fun hfound => ⟨Queue.item?_add_of_some hfound _, ?_⟩, fun hfound => Queue.item?_of_add hfound⟩
    rintro rfl
    exact Nat.lt_irrefl _ (Array.getElem?_eq_some_iff.mp hfound).1
  · cases hadd.symm.trans accepted

end Station

end SessionReplay
