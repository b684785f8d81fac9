import Mathlib.Logic.Relation
import SessionReplay.Proofs.Station.Calls

/-!
# Turns of the worker

A drain of the worker is a sequence of turns, each of which takes the head out of the station's
queue and drops it or processes it. Later modules argue about the worker through `Turn` only:

* `drain_turns`: draining is some turns after a look at the clock, and perhaps a note.
* `drain_ends`: with an honest budget no further turn is left.
* `step?_cases`: everything that the worker can do in one step, and `work_induction` with it.
* `Step` and `Reaches`: the runs of a station, with calls at any time.
-/

namespace SessionReplay

/-- What a drain of a station is about: the station with the queue as it is by then. -/
def Scan.station {σ : Type} (s : Scan (Station σ)) : Station σ :=
  { s.state with queue := s.queue }

namespace Station

variable {σ : Type} {e : Engine σ}

/-- The station without the head of its queue. -/
def takeHead (s : Station σ) : Station σ := { s with queue := s.queue.dropHead }

/-- The station once an item was processed; a failure is noted. -/
def afterHandling (e : Engine σ) (item : Item) (s : Station σ) : Station σ :=
  if (e.handle item s).2 then (e.handle item s).1.note .processingFailed else (e.handle item s).1

/-- What the worker writes to is what the engine leaves there. -/
theorem output_afterHandling (e : Engine σ) (item : Item) (s : Station σ) :
    (s.afterHandling e item).output = (e.handle item s).1.output := by
  unfold afterHandling
  split <;> rfl

/-- One turn of a drain at a given time. -/
inductive Turn (e : Engine σ) (now : Int) : Station σ → Station σ → Prop
  /-- The head is too old. -/
  | stale (s : Station σ) (id : ItemId) (item : Item) (head : s.queue.head? = some (id, item))
      (verdict : item.verdict now s.queue.maxItemDelay = .stale) :
    Turn e now s (s.takeHead.note (.staleItem item.data.timestamp now))
  /-- The head holds nothing. -/
  | invalid (s : Station σ) (id : ItemId) (item : Item) (head : s.queue.head? = some (id, item))
      (verdict : item.verdict now s.queue.maxItemDelay = .invalid) :
    Turn e now s (s.takeHead.note .invalidItem)
  /-- The head is processed. -/
  | ready (s : Station σ) (id : ItemId) (item : Item) (head : s.queue.head? = some (id, item))
      (verdict : item.verdict now s.queue.maxItemDelay = .ready) :
    Turn e now s (s.takeHead.afterHandling e item)

/-- Some turns one after the other. -/
abbrev Turns (e : Engine σ) (now : Int) : Station σ → Station σ → Prop :=
  Relation.ReflTransGen (Turn e now)

/-! ## A drain is a sequence of turns -/

/-- Processing on the worker's side of a drain is handling on the station. -/
theorem station_process (e : Engine σ) (s : Scan (Station σ)) (id : ItemId) (item : Item) :
    (s.process (processor e) id item).station = s.station.takeHead.afterHandling e item := by
  have hhandle : (processor e).handle item s.queue.dropHead s.state
      = ⟨(e.handle item s.station.takeHead).1.queue, (e.handle item s.station.takeHead).1,
          (e.handle item s.station.takeHead).2⟩ := rfl
  unfold Scan.process afterHandling
  rw [hhandle]
  cases (e.handle item s.station.takeHead).2 <;> rfl

/-- What the worker's side of a drain does in a turn is a turn of the station. -/
theorem turn_of_step? {now : Int} {s next : Scan (Station σ)}
    (h : s.step? (processor e) now = some next) : Turn e now s.station next.station := by
  obtain ⟨id, item, hhead, hcases⟩ := Scan.step?_eq_some_iff.mp h
  obtain ⟨hverdict, rfl⟩ | ⟨hverdict, rfl⟩ | ⟨hverdict, rfl⟩ := hcases
  · exact .stale s.station id item hhead hverdict
  · exact .invalid s.station id item hhead hverdict
  · rw [station_process]
    exact .ready s.station id item hhead hverdict

/-- What the worker's side of a drain does at all is some turns of the station. -/
theorem turns_of_run {now : Int} (fuel : Nat) (s : Scan (Station σ)) :
    Turns e now s.station (s.run (processor e) now fuel).station := by
  induction fuel generalizing s with
  | zero => exact .refl
  | succ fuel ih =>
    cases hstep : s.step? (processor e) now with
    | none =>
      rw [Scan.run_of_step?_eq_none _ hstep]
    | some next =>
      rw [Scan.run_succ_of_step? hstep]
      exact .head (turn_of_step? hstep) (ih next)

/-- The station at the end of a drain, before it is noted what was done. -/
def drained (e : Engine σ) (s : Station σ) : Station σ :=
  (s.queue.drain (processor e) s.clock s.readClock).station

/-- Draining is some turns after a look at the clock. -/
theorem drain_turns (e : Engine σ) (s : Station σ) :
    Turns e s.clock s.readClock (s.drained e) :=
  turns_of_run _ { queue := s.queue, state := s.readClock }

/-- Apart from a note of what was done there is nothing after the turns. -/
theorem drain_eq (e : Engine σ) (s : Station σ) :
    (s.drain e).1 = s.drained e ∨ ∃ event, (s.drain e).1 = (s.drained e).note event := by
  unfold drain
  dsimp only
  split
  · exact .inr ⟨_, rfl⟩
  · exact .inl rfl

/-- What a drain of the worker reports is what its side of the drain did. -/
theorem outcome_drain (e : Engine σ) (s : Station σ) :
    (s.drain e).2 = (s.queue.drain (processor e) s.clock s.readClock).outcome := by
  unfold drain
  dsimp only
  split <;> rfl

/-- The note of what was done leaves the queue alone. -/
theorem queue_drain (e : Engine σ) (s : Station σ) :
    (s.drain e).1.queue = (s.drained e).queue := by
  rcases drain_eq e s with heq | ⟨event, heq⟩ <;> rw [heq]
  rfl

/-- What holds of turns one after the other if it is kept by each. -/
theorem turns_induction {P : Station σ → Prop} {now : Int} {s t : Station σ}
    (hturn : ∀ s t, Turn e now s t → P s → P t) (h : P s) (hturns : Turns e now s t) : P t := by
  induction hturns with
  | refl => exact h
  | tail _ hlast ih => exact hturn _ _ hlast ih

/-- What holds before a drain, and is kept by every turn at that time and by notes, holds after
it. -/
theorem drain_induction {P : Station σ → Prop} {s : Station σ}
    (hturn : ∀ u v, Turn e s.clock u v → P u → P v) (hnote : ∀ s event, P s → P (s.note event))
    (h : P s.readClock) : P (s.drain e).1 := by
  have hdrained : P (s.drained e) := turns_induction hturn h (drain_turns e s)
  rcases drain_eq e s with heq | ⟨event, heq⟩
  · rw [heq]
    exact hdrained
  · rw [heq]
    exact hnote _ event hdrained

/-! ## Where a drain ends -/

/-- The budget of a worker's engine is honest: every turn uses up some of what waits and what will
still be made. -/
def Honest (e : Engine σ) : Prop :=
  ∀ now s t, Turn e now s t → t.queue.length + e.budget t < s.queue.length + e.budget s

/-- With an honest engine the worker's side of a drain is honest. -/
theorem processor_honest (he : Honest e) : (processor e).Honest :=
  fun now _ _ h => he now _ _ (turn_of_step? h)

/-- Once the turns are over, nothing waits or the head is blocked. -/
theorem drained_ends (he : Honest e) (s : Station σ) {id : ItemId} {item : Item}
    (h : (s.drained e).queue.head? = some (id, item)) :
    item.verdict s.clock (s.drained e).queue.maxItemDelay = .blocked := by
  have hend := Queue.drain_ended (processor_honest he) s.clock s.queue s.readClock
  exact Scan.step?_eq_none_iff.mp hend id item h

/-- **At the end of a drain nothing waits, or the head is blocked.** -/
theorem drain_ends (he : Honest e) (s : Station σ) {id : ItemId} {item : Item}
    (h : (s.drain e).1.queue.head? = some (id, item)) :
    item.verdict s.clock (s.drain e).1.queue.maxItemDelay = .blocked := by
  rw [queue_drain] at h ⊢
  exact drained_ends he s h

/-! ## Steps of the worker -/

/-- Dropping answers changes nothing but the answers. -/
theorem dropReplies_eq (s : Station σ) (commands : List Command) :
    ∃ replies, s.dropReplies commands = { s with replies := replies } := by
  unfold dropReplies
  induction commands generalizing s with
  | nil => exact ⟨s.replies, rfl⟩
  | cons command commands ih =>
    cases command with
    | flush ticket =>
      obtain ⟨replies, h⟩ := ih (s.reply ticket (.error .responseDropped))
      exact ⟨replies, h⟩
    | drain => exact ih s
    | shutdown => exact ih s

/-- **Everything that the worker can do in one step**: begin, drain for a request, drain for an
answer, or stop. -/
theorem step?_cases {s t : Station σ} (h : s.step? e = some t) :
    (s.worker = .starting ∧ t = { s with worker := .serving }.note .workerStarted) ∨
    (∃ rest, s.worker = .serving ∧ s.mailbox = .drain :: rest ∧
      t = ({ s with mailbox := rest, drainRequested := false }.drain e).1) ∨
    (∃ ticket rest answer, s.worker = .serving ∧ s.mailbox = .flush ticket :: rest ∧
      t = ({ s with mailbox := rest }.drain e).1.reply ticket answer) ∨
    (∃ rest, s.worker = .serving ∧ s.mailbox = .shutdown :: rest ∧
      t = ((({ s with mailbox := [], worker := .stopped }.dropReplies rest).note
        .workerStopping).note .workerStopped)) := by
  unfold step? at h
  cases hworker : s.worker with
  | starting =>
    rw [hworker] at h
    exact .inl ⟨rfl, (Option.some.inj h).symm⟩
  | serving =>
    rw [hworker] at h
    cases hmailbox : s.mailbox with
    | nil =>
      rw [hmailbox] at h
      cases h
    | cons command rest =>
      rw [hmailbox] at h
      cases command with
      | drain =>
        have ht := Option.some.inj h
        exact .inr (.inl ⟨rest, rfl, rfl, ht.symm⟩)
      | flush ticket =>
        have ht := Option.some.inj h
        exact .inr (.inr (.inl ⟨ticket, rest, _, rfl, rfl, ht.symm⟩))
      | shutdown =>
        have ht := Option.some.inj h
        exact .inr (.inr (.inr ⟨rest, rfl, rfl, ht.symm⟩))
  | _ =>
    rw [hworker] at h
    cases h

/-- **What holds before a step of the worker holds after it** if it is about nothing but the clock,
the items, the tracker, what the worker writes to and the active view, and is kept by every turn at
that time. -/
theorem work_induction {P : Station σ → Prop} {s t : Station σ}
    (hsame : ∀ {u v : Station σ}, P u → v.clock = u.clock → v.queue = u.queue →
      v.tracker = u.tracker → v.output = u.output → v.activeView = u.activeView → P v)
    (hturn : ∀ u v, Turn e s.clock u v → P u → P v) (h : P s) (hstep : s.step? e = some t) :
    P t := by
  have hdrain : ∀ u : Station σ, u.clock = s.clock → P u → P (u.drain e).1 := by
    intro u hclock hu
    rw [← hclock] at hturn
    exact drain_induction hturn (fun _ _ hv => hsame hv rfl rfl rfl rfl rfl)
      (hsame hu rfl rfl rfl rfl rfl)
  rcases step?_cases hstep with ⟨-, rfl⟩ | ⟨rest, -, -, rfl⟩ | ⟨ticket, rest, answer, -, -, rfl⟩ |
    ⟨rest, -, -, rfl⟩
  · exact hsame h rfl rfl rfl rfl rfl
  · exact hdrain _ rfl (hsame h rfl rfl rfl rfl rfl)
  · have hserved := hdrain { s with mailbox := rest } rfl (hsame h rfl rfl rfl rfl rfl)
    exact hsame hserved rfl rfl rfl rfl rfl
  · obtain ⟨replies, hdrop⟩ := dropReplies_eq { s with mailbox := [], worker := .stopped } rest
    rw [hdrop]
    exact hsame h rfl rfl rfl rfl rfl

/-! ## Runs of a station -/

/-- An engine uses the station through its calls only. -/
def Orderly (e : Engine σ) : Prop :=
  ∀ item s, ∃ cs, (e.handle item s).1 = s.calls cs

/-- A station that nothing has happened to. -/
def fresh (maxItemDelay : Int) (capacity : Nat) (output : σ) : Station σ where
  queue := { maxItemDelay := maxItemDelay, capacity := capacity }
  output := output

/-- One thing that can happen to a station. -/
inductive Step (e : Engine σ) : Station σ → Station σ → Prop
  /-- A call is made. -/
  | call (s : Station σ) (c : Call σ) : Step e s (s.call c)
  /-- The worker is started. -/
  | start (s : Station σ) : Step e s s.startWorker.2
  /-- The worker is given up. -/
  | abandon (s : Station σ) : Step e s s.abandonWorker
  /-- The worker is told to stop. -/
  | shutdown (s t : Station σ) (sent : s.sendShutdown = .ok t) : Step e s t
  /-- The worker does one thing. -/
  | work (s t : Station σ) (works : s.step? e = some t) : Step e s t

/-- What can have become of a station after some steps. -/
abbrev Reaches (e : Engine σ) : Station σ → Station σ → Prop := Relation.ReflTransGen (Step e)

end Station

end SessionReplay
