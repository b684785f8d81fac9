import SessionReplay.Queue.Basic
import SessionReplay.Log.Event

/-!
# Draining the queue

A drain looks at the head of the queue again and again. Items that are too old or hold nothing are
taken out, complete items are taken out and handed to a processor, and the drain ends when nothing
waits or the head is not complete. While the processor has an item it may offer further items, which
are drained too. A processor that fails loses its item but nothing else.
-/

namespace SessionReplay

/-- What became of an item that was taken out. -/
inductive Fate where
  /-- It was too old. -/
  | stale
  /-- It held nothing. -/
  | invalid
  /-- It was processed. -/
  | processed
  /-- Processing it failed. -/
  | failed
deriving DecidableEq, Repr

/-- What a drain did. -/
structure Outcome where
  /-- Items processed. -/
  processed : Nat := 0
  /-- Items lost. -/
  discarded : Nat := 0
  /-- Whether the drain ended at an item that is not complete. -/
  blocked : Bool := false
deriving DecidableEq, Repr, Inhabited

/-- What a processor leaves behind. -/
structure Handling (σ : Type) where
  /-- The queue, possibly with further items. -/
  queue : Queue
  /-- The processor's own state. -/
  state : σ
  /-- Whether processing failed. -/
  failed : Bool

/-- What items are handed to. The queue is at hand while an item is processed. -/
structure Processor (σ : Type) where
  /-- Processes an item. -/
  handle : Item → Queue → σ → Handling σ
  /-- Notes an event of the drain. -/
  note : Log.Event → σ → σ
  /-- A bound on the items that will still be offered from within a drain at a given time. -/
  budget : Int → Queue → σ → Nat

/-- A drain while it is running. -/
structure Scan (σ : Type) where
  /-- The queue. -/
  queue : Queue
  /-- The processor's own state. -/
  state : σ
  /-- The items taken out so far, in order, with what became of them. -/
  popped : List (ItemId × Fate) := []

namespace Scan

variable {σ : Type}

/-- Takes the head out without processing it. -/
def discard (p : Processor σ) (s : Scan σ) (id : ItemId) (fate : Fate) (event : Log.Event) :
    Scan σ where
  queue := s.queue.dropHead
  state := p.note event s.state
  popped := s.popped ++ [(id, fate)]

/-- Takes the head out and hands it to the processor. -/
def process (p : Processor σ) (s : Scan σ) (id : ItemId) (item : Item) : Scan σ :=
  let h := p.handle item s.queue.dropHead s.state
  if h.failed then
    { queue := h.queue
      state := p.note .processingFailed h.state
      popped := s.popped ++ [(id, .failed)] }
  else { queue := h.queue, state := h.state, popped := s.popped ++ [(id, .processed)] }

/-- Looks at the head: nothing if the drain ends there. -/
def step? (p : Processor σ) (now : Int) (s : Scan σ) : Option (Scan σ) :=
  match s.queue.head? with
  | none => none
  | some (id, item) =>
    match item.verdict now s.queue.maxItemDelay with
    | .stale => some (s.discard p id .stale (.staleItem item.data.timestamp now))
    | .invalid => some (s.discard p id .invalid .invalidItem)
    | .ready => some (s.process p id item)
    | .blocked => none

/-- Looks at the head until the drain ends, at most as often as the first argument says. -/
def run (p : Processor σ) (now : Int) : Nat → Scan σ → Scan σ
  | 0, s => s
  | fuel + 1, s =>
    match s.step? p now with
    | none => s
    | some next => run p now fuel next

/-- What the drain did so far. -/
def outcome (s : Scan σ) : Outcome where
  processed := s.popped.countP fun (_, fate) => fate == .processed
  discarded := s.popped.countP fun (_, fate) => fate != .processed
  blocked := !s.queue.isEmpty

end Scan

/-- Drains the queue at a given time. No more items can be taken out than wait now and will still be
offered. -/
def Queue.drain {σ : Type} (p : Processor σ) (now : Int) (q : Queue) (state : σ) : Scan σ :=
  Scan.run p now (q.length + p.budget now q state) { queue := q, state := state }

end SessionReplay
