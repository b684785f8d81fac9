/-!
# Timers and posted tasks

What is still to be run on the thread of the user interface: timers that are running, ordered by
their deadlines, and tasks that were posted and wait for the thread. Of two timers with the same
deadline the one started first fires first.

A timer is taken to run from the moment of the request that it is for. In truth it is a task of its own
that is spawned then, and runs from the moment at which the runtime first polls this task. So the runtime
is taken to poll a task that is spawned before time passes. How much later than its deadline a timer fires
is left open.
-/

namespace SessionReplay

/-- What happens to a task that is posted. -/
inductive PostMode where
  /-- It is run at once. -/
  | immediate
  /-- It waits until the thread has time. -/
  | queued
  /-- It is lost. -/
  | dropped
deriving DecidableEq, Repr, Inhabited

/-- A timer that will post a task. -/
structure Timer (α : Type) where
  /-- When it fires. -/
  deadline : Nat
  /-- What it posts. -/
  task : α

/-- Timers and posted tasks. Time is in nanoseconds. -/
structure Agenda (α : Type) where
  /-- The present time. -/
  now : Nat := 0
  /-- What happens to posted tasks. -/
  mode : PostMode := .immediate
  /-- The timers that are running, ordered by their deadlines. -/
  timers : List (Timer α) := []
  /-- The tasks that wait, the oldest first. -/
  posted : List α := []

namespace Agenda

variable {α : Type}

/-- Starts a timer. -/
def start (a : Agenda α) (deadline : Nat) (task : α) : Agenda α :=
  { a with
    timers := (a.timers.takeWhile fun t => t.deadline ≤ deadline)
      ++ ⟨deadline, task⟩ :: a.timers.dropWhile fun t => t.deadline ≤ deadline }

/-- Lets time pass. -/
def elapse (a : Agenda α) (nanos : Nat) : Agenda α :=
  { a with now := a.now + nanos }

/-- Whether a timer has reached its deadline. -/
def isDue (a : Agenda α) (t : Timer α) : Bool :=
  t.deadline ≤ a.now

/-- Posts a task. -/
def post (a : Agenda α) (task : α) : Agenda α :=
  match a.mode with
  | .dropped => a
  | _ => { a with posted := a.posted ++ [task] }

/-- Lets every timer that is due fire. A timer whose task has been cancelled posts nothing. -/
def expire (a : Agenda α) (isLive : α → Bool) : Agenda α :=
  let due := a.timers.takeWhile a.isDue
  (due.filter fun t => isLive t.task).foldl (fun a t => a.post t.task)
    { a with timers := a.timers.dropWhile a.isDue }

/-- Takes all tasks that wait. -/
def takePosted (a : Agenda α) : List α × Agenda α :=
  (a.posted, { a with posted := [] })

end Agenda

end SessionReplay
