/-!
# Debouncing

Requests that come in bursts are answered once, when a quiet time has passed after the last one. So
that a burst without an end is answered too, a request that comes when the burst has lasted long
enough is answered at once. A request replaces the one before it, whether that one still waits for
its timer or for the thread that was to run it.

The quiet time is counted from the request. The timer for it is armed by a task that the request spawns,
which the runtime is taken to poll before time passes.
-/

namespace SessionReplay

/-- The state of a debouncer. Times are in nanoseconds. -/
structure Debouncer where
  /-- The quiet time that a request waits for. -/
  quiet : Nat
  /-- How long a burst may last before a request is answered at once. -/
  patience : Nat
  /-- When the burst began, if there is one. -/
  burstStart : Option Nat := none
  /-- The ticket of the request that waits, if one does. -/
  live : Option Nat := none
  /-- The ticket of the next request. -/
  issued : Nat := 0
deriving DecidableEq, Repr, Inhabited

/-- How a request is answered. -/
inductive Answer where
  /-- At once. -/
  | now
  /-- When the deadline is reached and the ticket is still good. -/
  | wait (ticket deadline : Nat)
deriving DecidableEq, Repr

namespace Debouncer

/-- Makes a request. -/
def request (d : Debouncer) (now : Nat) : Answer × Debouncer :=
  let start := d.burstStart.getD now
  if d.patience ≤ now - start then (.now, { d with burstStart := none, live := none })
  else
    (.wait d.issued (now + d.quiet),
      { d with burstStart := some start, live := some d.issued, issued := d.issued + 1 })

/-- Cancels the request that waits, if one does, and ends the burst. -/
def cancel (d : Debouncer) : Debouncer :=
  { d with burstStart := none, live := none }

/-- Whether the request of a ticket has been neither replaced nor cancelled nor answered. -/
def isLive (d : Debouncer) (ticket : Nat) : Bool :=
  d.live == some ticket

/-- Answers the request that waits, which ends the burst. -/
def complete (d : Debouncer) : Debouncer :=
  { d with burstStart := none, live := none }

end Debouncer

end SessionReplay
