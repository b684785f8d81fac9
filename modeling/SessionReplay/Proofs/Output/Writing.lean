import SessionReplay.Output.Processing
import SessionReplay.Proofs.Station.Turns

/-!
# What processing does to the station

Processing an item writes at most two batches, and while a batch is written the host may record
touches. So the worker of a recording does nothing to its station but call it (`engine_orderly`),
and each batch of touches that a script announces is recorded at most once (`engine_honest`).
-/

namespace SessionReplay

namespace Storage

/-- What the host does while the next batch is written. -/
def turn (s : Storage) : WriteTurn := s.script.head?.getD {}

/-- A write tells what the host does meanwhile. -/
theorem turn_of_write (s : Storage) (gallery : Gallery) (b : Batch Slot) :
    (s.write gallery b).2.1 = s.turn := by
  unfold write turn
  dsimp only
  split <;> rfl

/-- A write takes one turn of the host off the script. -/
theorem script_write (s : Storage) (gallery : Gallery) (b : Batch Slot) :
    (s.write gallery b).1.script = s.script.tail := by
  unfold write
  dsimp only
  split <;> rfl

/-- A write uses up what the host does meanwhile. -/
theorem budget_write (s : Storage) (gallery : Gallery) (b : Batch Slot) :
    (s.write gallery b).1.budget + s.turn.touches.length = s.budget := by
  unfold budget turn
  rw [script_write]
  cases s.script with
  | nil => rfl
  | cons turn script => exact Nat.add_comm _ _

end Storage

namespace Station

variable {σ : Type}

/-! ## Sequences of calls -/

/-- What becomes of a station by calls. -/
def ByCalls (s t : Station σ) : Prop := ∃ cs : List (Call σ), t = s.calls cs

namespace ByCalls

variable {s t u : Station σ}

/-- A station becomes itself by no calls. -/
theorem refl (s : Station σ) : ByCalls s s := ⟨[], rfl⟩

/-- One call is calls. -/
theorem call (s : Station σ) (c : Call σ) : ByCalls s (s.call c) := ⟨[c], rfl⟩

/-- Calls are made one after the other. -/
theorem trans (h : ByCalls s t) (h' : ByCalls t u) : ByCalls s u := by
  obtain ⟨cs, rfl⟩ := h
  obtain ⟨cs', rfl⟩ := h'
  exact ⟨cs ++ cs', (List.foldl_append ..).symm⟩

/-- What is kept by each call is kept by a sequence of them. -/
theorem induction {P : Station σ → Prop} (hcall : ∀ c s, P s → P (s.call c))
    (hby : ByCalls s t) (h : P s) : P t := by
  obtain ⟨cs, rfl⟩ := hby
  exact calls_induction (fun c _ => hcall c) h

/-- Several steps are calls if each is. -/
theorem foldl {α : Type} {f : Station σ → α → Station σ} (hf : ∀ s a, ByCalls s (f s a))
    (as : List α) (s : Station σ) : ByCalls s (as.foldl f s) := by
  induction as generalizing s with
  | nil => exact refl s
  | cons a as ih => exact (hf s a).trans (ih (f s a))

end ByCalls

/-- Recording touches is making an item and, if that is accepted, requesting a drain. -/
theorem recordTouches_cases (s : Station σ) (records : List (Record Slot)) :
    ((s.addTouches records).1.isSome = true ∧
      s.recordTouches records = (true, (s.addTouches records).2.requestDrain)) ∨
    ((s.addTouches records).1 = none ∧
      s.recordTouches records = (false, (s.addTouches records).2)) := by
  unfold recordTouches
  rcases s.addTouches records with ⟨_ | id, t⟩
  · exact .inr ⟨rfl, rfl⟩
  · exact .inl ⟨rfl, rfl⟩

/-- Recording touches is calls. -/
theorem recordTouches_byCalls (s : Station σ) (records : List (Record Slot)) :
    ByCalls s (s.recordTouches records).2 := by
  have hadd : ByCalls s (s.addTouches records).2 := .call s (.add (.touch records))
  rcases s.recordTouches_cases records with ⟨-, h⟩ | ⟨-, h⟩
  · rw [h]
    exact hadd.trans (.call _ .requestDrain)
  · rw [h]
    exact hadd

/-- Recording touches again and again. -/
def recordAll (s : Station σ) (batches : List (List (Record Slot))) : Station σ :=
  batches.foldl (fun s records => (s.recordTouches records).2) s

/-- Recording touches again and again is calls. -/
theorem recordAll_byCalls (s : Station σ) (batches : List (List (Record Slot))) :
    ByCalls s (s.recordAll batches) :=
  .foldl recordTouches_byCalls batches s

/-- Notes are calls. -/
theorem noteAll_byCalls (s : Station σ) (events : List Log.Event) :
    ByCalls s (s.noteAll events) :=
  .foldl (fun s event => .call s (.note event)) events s

/-! ## Processing is calls -/

/-- The station with a batch written, before the host records anything. -/
def store (s : Station Output) (b : Batch Slot) : Station Output :=
  noteAll
    { s with
      output := { s.output with storage := (s.output.storage.write s.output.gallery b).1 } }
    (s.output.storage.write s.output.gallery b).2.2

/-- Writing a batch is storing it and then recording what the host reports, whether it failed or
not. -/
theorem write_eq (s : Station Output) (b : Batch Slot) :
    s.write b = ((s.store b).recordAll s.output.storage.turn.touches,
      s.output.storage.turn.fault != .none) := by
  have hturn := s.output.storage.turn_of_write s.output.gallery b
  unfold write
  rw [← hturn]
  rfl

/-- Writing a batch is calls. -/
theorem write_byCalls (s : Station Output) (b : Batch Slot) : ByCalls s (s.write b).1 := by
  rw [write_eq]
  have hput := ByCalls.call s
    (.put { s.output with storage := (s.output.storage.write s.output.gallery b).1 })
  exact (hput.trans (noteAll_byCalls _ _)).trans (recordAll_byCalls _ _)

/-- So is a write that may be left out. -/
theorem write?_byCalls (s : Station Output) (b : Option (Batch Slot)) :
    ByCalls s (s.write? b).1 := by
  cases b with
  | none => exact .refl s
  | some b => exact s.write_byCalls b

/-- Carrying out a plan is calls. -/
theorem carryOut_byCalls (s : Station Output) (now : Int) (plan : SnapshotPlan) :
    ByCalls s (s.carryOut now plan).1 := by
  have hfarewell := s.write?_byCalls plan.farewell
  unfold carryOut
  split
  next t heq =>
    rw [heq] at hfarewell
    exact hfarewell
  next t heq =>
    rw [heq] at hfarewell
    refine hfarewell.trans ?_
    have hremember : ∀ t : Station Output, ByCalls t (t.remember plan.history) :=
      fun t => .call t (.put { t.output with history := plan.history })
    split
    · exact ((ByCalls.call t (.note (.unchangedSnapshot now))).trans (hremember _)).trans
        (write?_byCalls _ _)
    · exact (hremember t).trans (write?_byCalls _ _)

/-- Processing an item is calls. -/
theorem process_byCalls (item : Item) (s : Station Output) : ByCalls s (process item s).1 := by
  unfold process
  split
  · exact s.write_byCalls _
  · dsimp only
    split
    · exact .refl s
    · exact s.carryOut_byCalls _ _

/-- The worker of a recording uses its station through calls only. -/
theorem engine_orderly : Orderly engine := process_byCalls

/-! ## What is left to do -/

/-- The items that wait and those that the host will still have made. -/
def load (s : Station Output) : Nat := s.queue.length + engine.budget s

/-- Making an item leaves alone what the worker writes to. -/
theorem output_addItem (s : Station σ) (content : ItemContent) :
    (s.addItem content).2.output = s.output := by
  rcases s.addItem_cases content with ⟨view, -, h⟩ | ⟨-, event, h⟩ <;> rw [h] <;> rfl

/-- Making an item lets at most one more wait. -/
theorem length_addItem_le (s : Station σ) (content : ItemContent) :
    (s.addItem content).2.queue.length ≤ s.queue.length + 1 := by
  rcases s.addItem_cases content with ⟨view, -, h⟩ | ⟨-, event, h⟩
  · rw [h]
    exact Nat.le_of_eq (Queue.length_append _ _)
  · rw [h]
    exact Nat.le_succ _

/-- Recording touches does not touch what the worker writes to, and lets at most one more item
wait. -/
theorem recordTouches_frame (s : Station σ) (records : List (Record Slot)) :
    (s.recordTouches records).2.output = s.output ∧
      (s.recordTouches records).2.queue.length ≤ s.queue.length + 1 := by
  have houtput := s.output_addItem (.touch records)
  have hlength := s.length_addItem_le (.touch records)
  rcases s.recordTouches_cases records with ⟨-, h⟩ | ⟨-, h⟩
  · rw [h, output_requestDrain, queue_requestDrain]
    exact ⟨houtput, hlength⟩
  · rw [h]
    exact ⟨houtput, hlength⟩

/-- Recording touches again and again lets at most one more item wait each time. -/
theorem recordAll_frame (s : Station σ) (batches : List (List (Record Slot))) :
    (s.recordAll batches).output = s.output ∧
      (s.recordAll batches).queue.length ≤ s.queue.length + batches.length := by
  induction batches generalizing s with
  | nil => exact ⟨rfl, Nat.le_refl _⟩
  | cons records batches ih =>
    obtain ⟨houtput, hlength⟩ := s.recordTouches_frame records
    obtain ⟨houtputs, hlengths⟩ := ih (s.recordTouches records).2
    refine ⟨houtputs.trans houtput, ?_⟩
    change ((s.recordTouches records).2.recordAll batches).queue.length ≤ _
    rw [List.length_cons]
    omega

/-- Logging several events changes nothing but the log. -/
theorem noteAll_eq (s : Station σ) (events : List Log.Event) :
    ∃ log, s.noteAll events = { s with log := log } := by
  unfold noteAll
  induction events generalizing s with
  | nil => exact ⟨s.log, rfl⟩
  | cons event events ih =>
    obtain ⟨log, h⟩ := ih (s.note event)
    exact ⟨log, h⟩

/-- Storing a batch changes nothing but the storage and the log. -/
theorem store_eq (s : Station Output) (b : Batch Slot) :
    ∃ log, s.store b =
      { s with
        output := { s.output with storage := (s.output.storage.write s.output.gallery b).1 }
        log := log } := by
  obtain ⟨log, h⟩ := noteAll_eq
    { s with
      output := { s.output with storage := (s.output.storage.write s.output.gallery b).1 } }
    (s.output.storage.write s.output.gallery b).2.2
  exact ⟨log, h⟩

/-- Writing a batch leaves no more to do than before. -/
theorem load_write_le (s : Station Output) (b : Batch Slot) : (s.write b).1.load ≤ s.load := by
  obtain ⟨log, hstore⟩ := s.store_eq b
  obtain ⟨houtput, hlength⟩ := (s.store b).recordAll_frame s.output.storage.turn.touches
  have hbudget := s.output.storage.budget_write s.output.gallery b
  rw [write_eq]
  unfold load engine
  dsimp only
  rw [houtput]
  rw [hstore] at hlength ⊢
  dsimp only at hlength ⊢
  omega

/-- A write that may be left out leaves as much to do as before, or less. -/
theorem load_write?_le (s : Station Output) (b : Option (Batch Slot)) :
    (s.write? b).1.load ≤ s.load := by
  cases b with
  | none => exact Nat.le_refl _
  | some b => exact s.load_write_le b

/-- Processing an item leaves no more to do than before. -/
theorem load_process_le (item : Item) (s : Station Output) : (process item s).1.load ≤ s.load := by
  unfold process
  split
  · exact s.load_write_le _
  · dsimp only
    split
    · exact Nat.le_refl _
    · next plan _ =>
      have hfarewell := s.load_write?_le plan.farewell
      unfold carryOut
      split
      next t heq =>
        rw [heq] at hfarewell
        exact hfarewell
      next t heq =>
        rw [heq] at hfarewell
        refine Nat.le_trans (load_write?_le _ _) (Nat.le_trans ?_ hfarewell)
        split <;> exact Nat.le_refl _

/-- Every turn of the worker of a recording leaves less to do. -/
theorem engine_honest : Honest engine := by
  intro now s t hturn
  have hhead : ∀ {id item}, s.queue.head? = some (id, item) →
      s.takeHead.load + 1 = s.load := by
    intro id item head
    have hwaiting := Queue.waiting_eq_cons_of_head? head
    unfold load takeHead Queue.length engine
    rw [hwaiting, List.length_cons]
    dsimp only
    omega
  change t.load < s.load
  cases hturn with
  | stale id item head verdict => exact Nat.lt_of_succ_le (Nat.le_of_eq (hhead head))
  | invalid id item head verdict => exact Nat.lt_of_succ_le (Nat.le_of_eq (hhead head))
  | ready id item head verdict =>
    have hprocess := load_process_le item s.takeHead
    have htaken := hhead head
    have hafter : (s.takeHead.afterHandling engine item).load
        = (process item s.takeHead).1.load := by
      unfold afterHandling
      split <;> rfl
    omega

end Station

end SessionReplay
