import SessionReplay.Proofs.Queue.Head
import SessionReplay.Station.Worker

/-!
# Calls to a station

Everything that can be done with a station besides letting its worker work, whoever does it: the
application, a picture that is done, or the host while its worker has an item. Later modules argue
about these calls through the following lemmas only:

* `addItem_cases`: an item is accepted exactly in a valid view with room in the queue, and a refusal
  leaves everything behind as it was but for the log.
* `requestDrain_cases`: a request leaves one command in the mailbox, or there is no need for one, or
  nobody who could serve it.
-/

namespace SessionReplay

namespace Tracker

/-- A new item remembers the active view and the one before it, exactly if the active view is
valid. -/
theorem create_cases (t : Tracker) (now : Int) (active : Option ViewContext) :
    (∃ view, active = some view ∧ view.isValid = true ∧
      t.create now active = .ok (⟨now, t.last, view⟩, ⟨view⟩)) ∨
    ((∀ view, active = some view → view.isValid = false) ∧
      ∃ event, t.create now active = .error event) := by
  unfold create
  cases active with
  | none => exact .inr ⟨nofun, _, rfl⟩
  | some view =>
    cases hvalid : view.isValid with
    | true => exact .inl ⟨view, rfl, hvalid, by simp only [hvalid, if_true]⟩
    | false =>
      refine .inr ⟨?_, .invalidContext view.view, by simp [hvalid]⟩
      rintro _ ⟨⟩
      exact hvalid

/-- A change of view that is handed on is as if no item had been made. -/
@[simp] theorem restore_create (t : Tracker) (now : Int) (view : ViewContext) :
    restore ⟨view⟩ ⟨now, t.last, view⟩ = t := by
  simp only [restore, if_true]

end Tracker

namespace Station

variable {σ : Type}

/-- What can be done with a station besides letting its worker work. -/
inductive Call (σ : Type) where
  /-- Makes an item. -/
  | add (content : ItemContent)
  /-- Requests a drain. -/
  | requestDrain
  /-- Requests a drain and an answer. -/
  | sendFlush
  /-- One more picture of an item is being made. -/
  | startJob (id : ItemId)
  /-- One picture less of an item is being made. -/
  | finishJob (id : ItemId)
  /-- Attaches the nodes of a snapshot. -/
  | attachNodes (id : ItemId) (nodes : List (Node Slot))
  /-- A view becomes active, or none is. -/
  | activate (view : Option ViewContext)
  /-- The device's clock is set. -/
  | setClock (millis : Int)
  /-- Logs an event. -/
  | note (event : Log.Event)
  /-- What the worker writes to changes. -/
  | put (output : σ)

/-- The station after a call. -/
def call (s : Station σ) : Call σ → Station σ
  | .add content => (s.addItem content).2
  | .requestDrain => s.requestDrain
  | .sendFlush =>
    match s.sendFlush with
    | .ok (_, sent) => sent
    | .error _ => s
  | .startJob id => s.startJob id
  | .finishJob id => s.finishJob id
  | .attachNodes id nodes => (s.attachNodes id nodes).2
  | .activate view => { s with activeView := view }
  | .setClock millis => { s with clock := millis }
  | .note event => s.note event
  | .put output => { s with output := output }

/-- The station after several calls. -/
def calls (s : Station σ) (cs : List (Call σ)) : Station σ := cs.foldl call s

/-- What holds before several calls and is kept by each holds after them. -/
theorem calls_induction {P : Station σ → Prop} {cs : List (Call σ)} {s : Station σ}
    (hcall : ∀ c ∈ cs, ∀ s, P s → P (s.call c)) (h : P s) : P (s.calls cs) := by
  induction cs generalizing s with
  | nil => exact h
  | cons c cs ih =>
    have hrest : ∀ c ∈ cs, ∀ s, P s → P (s.call c) := fun c hc =>
      hcall c (List.mem_cons_of_mem _ hc)
    exact ih hrest (hcall c List.mem_cons_self s h)

/-! ## Making items -/

/-- The item that is made in a view. -/
def newItem (s : Station σ) (view : ViewContext) (content : ItemContent) : Item where
  data := { timestamp := s.clock, previous := s.tracker.last, current := view }
  content := content

/-- The station once an item made in a view has been accepted. -/
def accept (s : Station σ) (view : ViewContext) (content : ItemContent) : Station σ :=
  { s.readClock with
    queue := (s.queue.add (s.newItem view content)).append s.queue.nextId
    tracker := ⟨view⟩ }

/-- An item can be accepted: there is a valid view and room in the queue. -/
def Accepts (s : Station σ) (view : ViewContext) : Prop :=
  s.activeView = some view ∧ view.isValid = true ∧ s.queue.length < s.queue.capacity

/-- **Everything that making an item can do.** It is accepted in the active view, or it is refused,
and then nothing but the log has changed. -/
theorem addItem_cases (s : Station σ) (content : ItemContent) :
    (∃ view, s.Accepts view ∧
      s.addItem content = (some s.queue.nextId, s.accept view content)) ∨
    ((∀ view, ¬s.Accepts view) ∧ ∃ event, s.addItem content = (none, s.readClock.note event)) := by
  rcases s.tracker.create_cases s.clock s.activeView with
    ⟨view, hactive, hvalid, hcreate⟩ | ⟨hinvalid, event, hcreate⟩
  · by_cases hroom : s.queue.length < s.queue.capacity
    · have hok : (s.queue.add (s.newItem view content)).offer s.queue.nextId
          = .ok ((s.queue.add (s.newItem view content)).append s.queue.nextId) :=
        Queue.offer_eq_ok_iff.mpr ⟨hroom, rfl⟩
      refine .inl ⟨view, ⟨hactive, hvalid, hroom⟩, ?_⟩
      simp only [newItem] at hok
      simp only [addItem, accept, readClock, newItem, hcreate, hok]
    · have herror : (s.queue.add (s.newItem view content)).offer s.queue.nextId
          = .error (.full s.queue.capacity) :=
        Queue.offer_eq_error_iff.mpr ⟨Nat.le_of_not_lt hroom, rfl⟩
      refine .inr ⟨fun _ haccepts => hroom haccepts.2.2, .offerRefused (.full s.queue.capacity), ?_⟩
      simp only [newItem] at herror
      simp only [addItem, readClock, hcreate, herror, Tracker.restore_create]
  · refine .inr ⟨?_, event, by simp only [addItem, readClock, hcreate]⟩
    rintro view ⟨hactive, hvalid, -⟩
    exact absurd hvalid (by simp [hinvalid view hactive])

/-! ## Requests -/

/-- **Everything that a request for a drain can do.** There is no need for a command, or one is left
in the mailbox, or there is nobody who takes it. -/
theorem requestDrain_cases (s : Station σ) :
    ((s.queue.waiting = [] ∨ s.drainRequested = true) ∧ s.requestDrain = s) ∨
    (s.worker.takesCommands = true ∧
      s.requestDrain = { s with mailbox := s.mailbox ++ [.drain], drainRequested := true }) ∨
    (s.worker.takesCommands = false ∧ s.requestDrain = s.note .drainRequestFailed) := by
  unfold requestDrain
  by_cases hskip : (s.queue.isEmpty || s.drainRequested) = true
  · refine .inl ⟨?_, if_pos hskip⟩
    simpa [Queue.isEmpty, List.isEmpty_iff] using hskip
  · refine .inr ?_
    rw [if_neg hskip, send]
    cases htakes : s.worker.takesCommands with
    | true => exact .inl ⟨rfl, rfl⟩
    | false => exact .inr ⟨rfl, rfl⟩

/-- Whatever a request for a drain does, it is done to the mailbox, the flag and the log. -/
theorem requestDrain_eq (s : Station σ) : ∃ mailbox requested log, s.requestDrain =
    { s with mailbox := mailbox, drainRequested := requested, log := log } := by
  rcases s.requestDrain_cases with ⟨-, h⟩ | ⟨-, h⟩ | ⟨-, h⟩
  · exact ⟨s.mailbox, s.drainRequested, s.log, h⟩
  · exact ⟨s.mailbox ++ [.drain], true, s.log, h⟩
  · exact ⟨s.mailbox, s.drainRequested, s.log.push .drainRequestFailed, h⟩

/-- A request for a drain leaves the queue alone. -/
@[simp] theorem queue_requestDrain (s : Station σ) : s.requestDrain.queue = s.queue := by
  obtain ⟨_, _, _, h⟩ := s.requestDrain_eq
  rw [h]

/-- It leaves alone the view that the next item follows. -/
@[simp] theorem tracker_requestDrain (s : Station σ) : s.requestDrain.tracker = s.tracker := by
  obtain ⟨_, _, _, h⟩ := s.requestDrain_eq
  rw [h]

/-- It leaves alone what the worker writes to. -/
@[simp] theorem output_requestDrain (s : Station σ) : s.requestDrain.output = s.output := by
  obtain ⟨_, _, _, h⟩ := s.requestDrain_eq
  rw [h]

/-- **Everything that sending a flush can do.** One command is left in the mailbox, or there is
nobody who takes it. -/
theorem call_sendFlush_cases (s : Station σ) :
    (s.worker.takesCommands = true ∧ s.call .sendFlush =
      { s with mailbox := s.mailbox ++ [.flush s.nextTicket], nextTicket := s.nextTicket + 1 }) ∨
    (s.worker.takesCommands = false ∧ s.call .sendFlush = s) := by
  unfold call sendFlush send
  cases htakes : s.worker.takesCommands with
  | true => exact .inl ⟨rfl, rfl⟩
  | false => exact .inr ⟨rfl, rfl⟩

/-- The end of a picture is its removal from those being made, and possibly a request. -/
theorem finishJob_cases (s : Station σ) (id : ItemId) :
    s.finishJob id = (s.modifyItem id Item.finishJob).requestDrain ∨
    ((s.modifyItem id Item.finishJob).pendingJobs id ≠ 0 ∧
      s.finishJob id = s.modifyItem id Item.finishJob) := by
  unfold finishJob
  by_cases h : (s.modifyItem id Item.finishJob).pendingJobs id = 0
  · exact .inl (if_pos h)
  · exact .inr ⟨h, if_neg h⟩

end Station

end SessionReplay
