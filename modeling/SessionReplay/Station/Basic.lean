import SessionReplay.Context.Tracker
import SessionReplay.Queue.Drain

/-!
# The station

The station stands between those who record, who must never wait, and the worker that writes. The
recording side makes items in the view that is active, lets them wait in the queue, and leaves
commands for the worker in a mailbox. Requests for a drain collapse: while one is in the mailbox no
second one is put there.
-/

namespace SessionReplay

/-- What the worker is told. -/
inductive Command where
  /-- Drain the queue. -/
  | drain
  /-- Drain the queue and answer the holder of the ticket. -/
  | flush (ticket : Nat)
  /-- Stop. -/
  | shutdown
deriving DecidableEq, Repr

/-- Why a command is not carried out. -/
inductive CommandError where
  /-- There is no worker any more. -/
  | workerStopped
  /-- The worker stopped before it came to the command. -/
  | responseDropped
deriving DecidableEq, Repr

/-- Why a command is not carried out, as it is shown. -/
def CommandError.message : CommandError → String
  | .workerStopped => "Drain worker is not running"
  | .responseDropped => "Drain worker dropped the response"

/-- Where the worker is in its life. -/
inductive WorkerPhase where
  /-- It has not been started, but its mailbox is there. -/
  | unstarted
  /-- It has been started and has not done anything yet. -/
  | starting
  /-- It is serving commands. -/
  | serving
  /-- It has stopped. -/
  | stopped
  /-- It was given up before it was started. -/
  | abandoned
deriving DecidableEq, Repr

/-- Whether commands can still be left in the mailbox. -/
def WorkerPhase.takesCommands : WorkerPhase → Bool
  | .unstarted => true
  | .starting => true
  | .serving => true
  | .stopped => false
  | .abandoned => false

/-- The station, with `σ` for what the worker writes to. -/
structure Station (σ : Type) where
  /-- The device's clock, in milliseconds. -/
  clock : Int := 0
  /-- How often the clock was read. -/
  clockReads : Nat := 0
  /-- The view that is active, as the application sees it. -/
  activeView : Option ViewContext := none
  /-- The view that the next item follows. -/
  tracker : Tracker := {}
  /-- The items that wait. -/
  queue : Queue
  /-- Whether a drain has been requested and not begun. -/
  drainRequested : Bool := false
  /-- Commands that the worker has not served, the oldest first. -/
  mailbox : List Command := []
  /-- Where the worker is in its life. -/
  worker : WorkerPhase := .unstarted
  /-- The ticket of the next flush. -/
  nextTicket : Nat := 0
  /-- The answers to flushes. -/
  replies : List (Nat × Except CommandError Outcome) := []
  /-- What the worker writes to. -/
  output : σ
  /-- Everything logged so far. -/
  log : Array Log.Event := #[]

namespace Station

variable {σ : Type}

/-- Logs an event. -/
def note (s : Station σ) (event : Log.Event) : Station σ :=
  { s with log := s.log.push event }

/-- Reads the clock. -/
def readClock (s : Station σ) : Station σ :=
  { s with clockReads := s.clockReads + 1 }

/-- The station with an item changed. -/
def modifyItem (s : Station σ) (id : ItemId) (f : Item → Item) : Station σ :=
  { s with queue := s.queue.modify id f }

/-! ## Making items -/

/-- Makes an item in the active view and lets it wait. There is no item without a valid view or
without room in the queue; a change of view then stays with the next item. -/
def addItem (s : Station σ) (content : ItemContent) : Option ItemId × Station σ :=
  let s := s.readClock
  match s.tracker.create s.clock s.activeView with
  | .error event => (none, s.note event)
  | .ok (data, tracker) =>
    let id := s.queue.nextId
    match (s.queue.add { data := data, content := content }).offer id with
    | .ok queue => (some id, { s with queue := queue, tracker := tracker })
    | .error error =>
      (none, { s with tracker := tracker.restore data }.note (.offerRefused error))

/-- Makes a snapshot without nodes. -/
def addSnapshot (s : Station σ) (screen : ScreenInfo) : Option ItemId × Station σ :=
  s.addItem (.snapshot { screen := screen })

/-- Makes a batch of touches. -/
def addTouches (s : Station σ) (records : List (Record Slot)) : Option ItemId × Station σ :=
  s.addItem (.touch records)

/-! ## Commands -/

/-- Leaves a command for the worker, if there is a mailbox to leave it in. -/
def send (s : Station σ) (command : Command) : Option (Station σ) :=
  if s.worker.takesCommands then some { s with mailbox := s.mailbox ++ [command] } else none

/-- Requests a drain, unless nothing waits or a drain has been requested already. -/
def requestDrain (s : Station σ) : Station σ :=
  if s.queue.isEmpty || s.drainRequested then s
  else
    match s.send .drain with
    | some s => { s with drainRequested := true }
    | none => s.note .drainRequestFailed

/-- Requests a drain and an answer; the result is the ticket for the answer. -/
def sendFlush (s : Station σ) : Except CommandError (Nat × Station σ) :=
  match s.send (.flush s.nextTicket) with
  | some sent => .ok (s.nextTicket, { sent with nextTicket := s.nextTicket + 1 })
  | none => .error .workerStopped

/-- Tells the worker to stop. -/
def sendShutdown (s : Station σ) : Except CommandError (Station σ) :=
  match s.send .shutdown with
  | some sent => .ok sent
  | none => .error .workerStopped

/-- Makes a batch of touches and requests a drain; whether the batch was accepted is the first
result. -/
def recordTouches (s : Station σ) (records : List (Record Slot)) : Bool × Station σ :=
  match s.addTouches records with
  | (some _, s) => (true, s.requestDrain)
  | (none, s) => (false, s)

/-! ## Pictures of a snapshot -/

/-- One more picture of an item is being made. -/
def startJob (s : Station σ) (id : ItemId) : Station σ :=
  s.modifyItem id Item.startJob

/-- How many pictures of an item are still being made. -/
def pendingJobs (s : Station σ) (id : ItemId) : Nat :=
  ((s.queue.item? id).map Item.pendingJobs).getD 0

/-- One picture less of an item is being made. With the last one a drain is requested. -/
def finishJob (s : Station σ) (id : ItemId) : Station σ :=
  let s := s.modifyItem id Item.finishJob
  if s.pendingJobs id = 0 then s.requestDrain else s

/-- Attaches the nodes of a snapshot; whether they were taken is the first result. -/
def attachNodes (s : Station σ) (id : ItemId) (nodes : List (Node Slot)) : Bool × Station σ :=
  (((s.queue.item? id).map Item.awaitsNodes).getD false, s.modifyItem id (Item.attachNodes nodes))

end Station

end SessionReplay
