import SessionReplay.Station.Basic

/-!
# The worker

The worker serves the commands in its mailbox in order. The note that a drain is requested is taken
away right before the drain begins, so that a request made during a drain is served by another one.
A worker that is told to stop leaves the rest of its mailbox behind, and whoever waits for an answer
there learns that it was dropped.
-/

namespace SessionReplay

/-- What the worker does with complete items. -/
structure Engine (σ : Type) where
  /-- Processes an item; whether that failed is the second result. The station is at hand, so that
  further items can be made meanwhile. -/
  handle : Item → Station σ → Station σ × Bool
  /-- A bound on the items that will still be made while others are processed. -/
  budget : Station σ → Nat

namespace Station

variable {σ : Type}

/-- The worker's side of a drain. -/
def processor (e : Engine σ) : Processor (Station σ) where
  handle item queue s :=
    let (s, failed) := e.handle item { s with queue := queue }
    { queue := s.queue, state := s, failed := failed }
  note event s := s.note event
  budget _ queue s := e.budget { s with queue := queue }

/-- Drains the queue at the present time. -/
def drain (e : Engine σ) (s : Station σ) : Station σ × Outcome :=
  let s := s.readClock
  let scan := s.queue.drain (processor e) s.clock s
  let outcome := scan.outcome
  let s := { scan.state with queue := scan.queue }
  if 0 < outcome.processed ∨ 0 < outcome.discarded then
    (s.note (.drained outcome.processed outcome.discarded outcome.blocked), outcome)
  else (s, outcome)

/-- Answers the holder of a ticket. -/
def reply (s : Station σ) (ticket : Nat) (answer : Except CommandError Outcome) : Station σ :=
  { s with replies := s.replies ++ [(ticket, answer)] }

/-- Tells everyone who waits for an answer that there will be none. -/
def dropReplies (s : Station σ) (commands : List Command) : Station σ :=
  commands.foldl
    (fun s command =>
      match command with
      | .flush ticket => s.reply ticket (.error .responseDropped)
      | _ => s) s

/-- Lets the worker do one thing: begin, or serve a command. There is nothing to do for a worker
that is not running or has an empty mailbox. -/
def step? (e : Engine σ) (s : Station σ) : Option (Station σ) :=
  match s.worker with
  | .starting => some ({ s with worker := .serving }.note .workerStarted)
  | .serving =>
    match s.mailbox with
    | [] => none
    | .drain :: rest =>
      some ({ s with mailbox := rest, drainRequested := false }.drain e).1
    | .flush ticket :: rest =>
      let (s, outcome) := { s with mailbox := rest }.drain e
      some (s.reply ticket (.ok outcome))
    | .shutdown :: rest =>
      let s := { s with mailbox := [], worker := .stopped }.dropReplies rest
      some ((s.note .workerStopping).note .workerStopped)
  | _ => none

/-- Lets the worker do things until there is nothing to do, at most as many as the first argument
says. -/
def serve (e : Engine σ) : Nat → Station σ → Station σ
  | 0, s => s
  | fuel + 1, s =>
    match s.step? e with
    | none => s
    | some next => serve e fuel next

/-- Lets the worker do everything there is to do. Each item made meanwhile causes one more drain at
most. -/
def settle (e : Engine σ) (s : Station σ) : Station σ :=
  s.serve e (s.mailbox.length + e.budget s + 1)

/-- Starts the worker; whether that could be done is the first result. -/
def startWorker (s : Station σ) : Bool × Station σ :=
  match s.worker with
  | .unstarted => (true, { s with worker := .starting })
  | _ => (false, s)

/-- Gives the worker up before it is started. -/
def abandonWorker (s : Station σ) : Station σ :=
  match s.worker with
  | .unstarted => { s with mailbox := [], worker := .abandoned }.dropReplies s.mailbox
  | _ => s

/-- The answer to a flush. -/
def answer (s : Station σ) (ticket : Nat) : Except CommandError Outcome :=
  (s.replies.lookup ticket).getD (.error .responseDropped)

/-- Requests a drain and waits for its outcome while the worker does everything there is to do. -/
def flush (e : Engine σ) (s : Station σ) : Except CommandError Outcome × Station σ :=
  match s.sendFlush with
  | .error error => (.error error, s)
  | .ok (ticket, s) =>
    let s := s.settle e
    (s.answer ticket, s)

end Station

end SessionReplay
