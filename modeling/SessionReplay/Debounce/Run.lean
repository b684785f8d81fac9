import SessionReplay.Debounce.Agenda
import SessionReplay.Debounce.Debouncer

/-!
# Runs of a debouncer

A debouncer together with the timers it started, the tasks these posted, and what was run when. A
task is a chain: running it runs its first link and then requests the rest.
-/

namespace SessionReplay

/-- A debouncer at work on chains of links `τ`. -/
structure DebounceRun (τ : Type) where
  /-- The debouncer. -/
  debouncer : Debouncer
  /-- Its timers and the tasks they posted: the ticket of a request with its chain. -/
  agenda : Agenda (Nat × List τ) := {}
  /-- The links that were run, with the time, in order. -/
  ran : List (τ × Nat) := []

namespace DebounceRun

variable {τ : Type}

/-- Requests a chain. A chain that is run at once requests its rest at once. -/
def request (r : DebounceRun τ) : List τ → DebounceRun τ
  | [] => r
  | link :: rest =>
    match r.debouncer.request r.agenda.now with
    | (.now, d) =>
      { r with debouncer := d, ran := r.ran ++ [(link, r.agenda.now)] }.request rest
    | (.wait ticket deadline, d) =>
      { r with debouncer := d, agenda := r.agenda.start deadline (ticket, link :: rest) }

/-- Cancels the request that waits. -/
def cancel (r : DebounceRun τ) : DebounceRun τ :=
  { r with debouncer := r.debouncer.cancel }

/-- Runs a posted task, unless its request has been replaced or cancelled meanwhile. -/
def runTask (r : DebounceRun τ) (task : Nat × List τ) : DebounceRun τ :=
  if r.debouncer.isLive task.1 then
    let r := { r with debouncer := r.debouncer.complete }
    match task.2 with
    | [] => r
    | link :: rest => { r with ran := r.ran ++ [(link, r.agenda.now)] }.request rest
  else r

/-- Lets the timers that are due fire. -/
def expire (r : DebounceRun τ) : DebounceRun τ :=
  { r with agenda := r.agenda.expire fun task => r.debouncer.isLive task.1 }

/-- Runs all tasks that wait now. -/
def runPosted (r : DebounceRun τ) : DebounceRun τ :=
  let (tasks, agenda) := r.agenda.takePosted
  tasks.foldl runTask { r with agenda := agenda }

/-- Lets the timers that are due fire and, if tasks do not wait, runs what they post, as often as
the first argument says. -/
def settleFor : Nat → DebounceRun τ → DebounceRun τ
  | 0, r => r
  | rounds + 1, r =>
    let r := r.expire
    match r.agenda.mode with
    | .immediate => settleFor rounds r.runPosted
    | _ => r

/-- The links of all chains that are still to be run. -/
def outstanding (r : DebounceRun τ) : Nat :=
  r.agenda.timers.foldr (fun t n => t.task.2.length + n) 0
    + r.agenda.posted.foldr (fun task n => task.2.length + n) 0

/-- Lets everything happen that can happen without time passing. Every round that runs something
shortens a chain. -/
def settle (r : DebounceRun τ) : DebounceRun τ :=
  settleFor (r.outstanding + 1) r

/-- Lets time pass, `step` nanoseconds at a time, and everything happen that becomes possible. -/
def advance (r : DebounceRun τ) (step : Nat) : Nat → DebounceRun τ
  | 0 => r
  | n + 1 => (settle { r with agenda := r.agenda.elapse step }).advance step n

end DebounceRun

end SessionReplay
