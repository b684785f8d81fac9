import SessionReplay.Proofs.Recording.Deeds

/-!
# What nobody reads

Neither the log nor the answers to flushes are read by anything that a station does. So two stations
that differ in nothing else (`silent`) go on differing in nothing else, whatever is done with both:
`deaf_act` says so for all acts, and `deafTry_process` for the items that the worker is handed.
-/

namespace SessionReplay.Station

/-- The station without its log and without the answers to flushes. -/
def silent {σ : Type} (s : Station σ) : Station σ := { s with log := #[], replies := [] }

section Fields

variable {σ : Type} (s : Station σ)

/-- A note is silent. -/
@[simp] theorem silent_note (event : Log.Event) : (s.note event).silent = s.silent := rfl

/-- Answers are silent. -/
@[simp] theorem silent_dropReplies (commands : List Command) :
    (s.dropReplies commands).silent = s.silent := by
  obtain ⟨replies, h⟩ := s.dropReplies_eq commands
  rw [h]
  rfl

/-- Something that is done with a station does not read the log and the answers. -/
def Deaf (f : Station σ → Station σ) : Prop := ∀ s, (f s).silent = (f s.silent).silent

/-- What is deaf does the same to stations that differ in what was said only. -/
theorem Deaf.eq {f : Station σ → Station σ} (hf : Deaf f) {s t : Station σ}
    (h : s.silent = t.silent) : (f s).silent = (f t).silent := by
  rw [hf s, h, ← hf t]

/-- Deaf things done one after the other are deaf. -/
theorem Deaf.comp {f g : Station σ → Station σ} (hf : Deaf f) (hg : Deaf g) :
    Deaf fun s => f (g s) :=
  fun s => hf.eq (hg s)

/-- The same over a list. -/
theorem Deaf.foldl {α : Type} {f : Station σ → α → Station σ} (hf : ∀ a, Deaf (f · a)) (as : List α) :
    Deaf fun s => as.foldl f s := by
  intro s
  induction as generalizing s with
  | nil => rfl
  | cons a as ih =>
    simp only [List.foldl_cons]
    rw [ih (f s a), hf a s, ← ih (f s.silent a)]

/-- A note is deaf. -/
theorem deaf_note (event : Log.Event) : Deaf (σ := σ) (·.note event) := fun _ => rfl

/-- A change of an item is deaf. -/
theorem deaf_modifyItem (id : ItemId) (f : Item → Item) : Deaf (σ := σ) (·.modifyItem id f) :=
  fun _ => rfl

/-- Taking the head is deaf. -/
theorem deaf_takeHead : Deaf (σ := σ) takeHead := fun _ => rfl

/-- A request for a drain leaves a command: something waits, none has been left yet, and there is
somebody who takes it. -/
def leavesDrain (s : Station σ) : Bool :=
  !s.queue.isEmpty && !s.drainRequested && s.worker.takesCommands

/-- What a request for a drain does without being heard. -/
theorem silent_requestDrain : s.requestDrain.silent =
    if s.leavesDrain then { s.silent with mailbox := s.mailbox ++ [.drain], drainRequested := true }
    else s.silent := by
  unfold requestDrain send leavesDrain
  cases s.queue.isEmpty <;> cases s.drainRequested <;> cases s.worker.takesCommands <;> rfl

/-- A request for a drain is deaf. -/
theorem deaf_requestDrain : Deaf (σ := σ) requestDrain := by
  intro s
  rw [silent_requestDrain, silent_requestDrain]
  rfl

/-- So is an item that gets to know that a picture is done. -/
theorem deaf_finishJob (id : ItemId) : Deaf (σ := σ) (·.finishJob id) := by
  intro s
  have hmodified := deaf_modifyItem (σ := σ) id Item.finishJob s
  have hjobs : (s.silent.modifyItem id Item.finishJob).pendingJobs id
      = (s.modifyItem id Item.finishJob).pendingJobs id := rfl
  unfold finishJob
  simp only [hjobs]
  split
  · exact deaf_requestDrain.eq hmodified
  · exact hmodified

/-- Whether an item is accepted, and as which one, does not depend on the log and the answers. -/
theorem silent_addItem (content : ItemContent) :
    (s.silent.addItem content).1 = (s.addItem content).1 ∧
      (s.addItem content).2.silent = (s.silent.addItem content).2.silent := by
  unfold addItem
  simp only [silent, readClock]
  split
  · exact ⟨rfl, rfl⟩
  · split <;> exact ⟨rfl, rfl⟩

end Fields

/-! ## Acts and the worker -/

/-- So are touches that are reported. -/
theorem deaf_recordTouches (records : List (Record Slot)) :
    Deaf (σ := Output) fun s => (s.recordTouches records).2 := by
  intro s
  obtain ⟨hid, hadded⟩ := s.silent_addItem (.touch records)
  change (s.recordTouches records).2.silent = (s.silent.recordTouches records).2.silent
  unfold recordTouches addTouches
  generalize s.addItem (.touch records) = added at hid hadded ⊢
  generalize s.silent.addItem (.touch records) = added' at hid hadded ⊢
  obtain ⟨id, t⟩ := added
  obtain ⟨id', t'⟩ := added'
  obtain rfl : id' = id := hid
  cases id' with
  | none => exact hadded
  | some id => exact deaf_requestDrain.eq hadded

/-- **No act reads the log or the answers.** -/
theorem deaf_act (a : Act) : Deaf (·.act a) := by
  intro s
  cases a with
  | addSnapshot screen => exact (s.silent_addItem (.snapshot { screen := screen })).2
  | finishJob id => exact deaf_finishJob id s
  | attachNodes id nodes => exact deaf_requestDrain.comp (deaf_modifyItem id (Item.attachNodes nodes)) s
  | recordTouches records => exact deaf_recordTouches records s
  | startWorker =>
    cases hworker : s.worker <;> simp [act, startWorker, silent, hworker]
  | sendFlush =>
    cases htakes : s.worker.takesCommands <;> simp [act, call, sendFlush, send, silent, htakes]
  | sendShutdown =>
    cases htakes : s.worker.takesCommands <;> simp [act, sendShutdown, send, silent, htakes]
  | _ => rfl

/-- Whether something fails, and what it leaves behind, does not depend on the log and the answers. -/
def DeafTry (f : Station Output → Station Output × Bool) : Prop :=
  ∀ s, (f s.silent).2 = (f s).2 ∧ (f s).1.silent = (f s.silent).1.silent

/-- A write is deaf. -/
theorem deafTry_write (b : Batch Slot) : DeafTry (·.write b) := by
  intro s
  refine ⟨rfl, ?_⟩
  unfold write
  dsimp only
  refine (Deaf.foldl deaf_recordTouches _).eq ((Deaf.foldl deaf_note _).eq ?_)
  rfl

/-- So is one that may be left out. -/
theorem deafTry_write? (b : Option (Batch Slot)) : DeafTry (·.write? b) := by
  cases b with
  | none => exact fun s => ⟨rfl, rfl⟩
  | some b => exact deafTry_write b

/-- What is deaf and may fail does and fails the same. -/
theorem DeafTry.eq {f : Station Output → Station Output × Bool} (hf : DeafTry f) {s t : Station Output}
    (h : s.silent = t.silent) : (f s).2 = (f t).2 ∧ (f s).1.silent = (f t).1.silent := by
  rw [← (hf s).1, (hf s).2, h, (hf t).1, ← (hf t).2]
  exact ⟨rfl, rfl⟩

/-- Carrying out a plan is deaf. -/
theorem deafTry_carryOut (now : Int) (plan : SnapshotPlan) : DeafTry (·.carryOut now plan) := by
  intro s
  obtain ⟨hfails, hleaves⟩ := deafTry_write? plan.farewell s
  dsimp only at hfails hleaves ⊢
  unfold carryOut
  generalize s.write? plan.farewell = said at hfails hleaves ⊢
  generalize s.silent.write? plan.farewell = said' at hfails hleaves ⊢
  obtain ⟨t, failed⟩ := said
  obtain ⟨t', failed'⟩ := said'
  obtain rfl : failed' = failed := hfails
  cases failed' with
  | true => exact ⟨rfl, hleaves⟩
  | false =>
    dsimp only
    have hremembered : (Station.remember (if plan.unchanged then t'.note (.unchangedSnapshot now) else t')
          plan.history).silent
        = (Station.remember (if plan.unchanged then t.note (.unchangedSnapshot now) else t)
          plan.history).silent := by
      have hremember : Deaf (σ := Output) (·.remember plan.history) := fun _ => rfl
      apply hremember.eq
      cases plan.unchanged <;> exact hleaves.symm
    obtain ⟨hsame, hleft⟩ := (deafTry_write? plan.report).eq hremembered
    exact ⟨hsame, hleft.symm⟩

/-- **Processing an item reads neither the log nor the answers.** -/
theorem deafTry_process (item : Item) : DeafTry (process item) := by
  intro s
  unfold process
  cases item.content with
  | touch records => exact deafTry_write _ s
  | snapshot snapshot =>
    dsimp only
    have hplan : s.silent.output = s.output := rfl
    rw [hplan]
    split
    · exact ⟨rfl, rfl⟩
    · exact deafTry_carryOut _ _ s

/-- What the worker does about an item is deaf. -/
theorem deaf_afterHandling (item : Item) : Deaf (afterHandling engine item) := by
  intro s
  obtain ⟨hfails, hleaves⟩ := deafTry_process item s
  have hengine : engine.handle = process := rfl
  unfold afterHandling
  rw [hengine, hfails]
  split
  · exact (deaf_note .processingFailed).eq hleaves
  · exact hleaves

end SessionReplay.Station
