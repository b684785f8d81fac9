import SessionReplay.Recording.Watching

/-!
# A whole recording

What the application can do with a recording: start it, let it watch windows, report touches, wait
until everything complete is written, and stop it. Between two calls everything that can happen
without time passing does happen: timers that are due fire, snapshots that need not wait are taken,
copied pixels are encoded, and the worker serves its mailbox.
-/

namespace SessionReplay.Recording

/-- Lets the worker do everything there is to do. -/
def work (r : Recording) : Recording :=
  r.mapStation (·.settle Station.engine)

/-- Lets everything happen that can happen without time passing. -/
def settle (r : Recording) : Recording :=
  let r := r.expire
  let r := match r.agenda.mode with
    | .immediate => r.runPosted.2
    | _ => r
  r.encodeAll.work

/-- Lets one millisecond pass. -/
def tick (r : Recording) : Recording :=
  let r := r.mapStation fun s => { s with clock := s.clock + 1 }
  settle { r with agenda := r.agenda.elapse nanosPerMilli }

/-- Lets some milliseconds pass. -/
def advance (r : Recording) : Nat → Recording
  | 0 => r
  | n + 1 => r.tick.advance n

/-! ## The application's calls -/

/-- Starts the worker. -/
def startWorker (r : Recording) : Recording :=
  r.mapStation fun s => s.startWorker.2

/-- Starts a recording, if its settings pass the checks. -/
def start (settings : Settings) : Except SettingsFault Recording :=
  settings.validate.map fun settings => (new settings).startWorker.note .recordingStarted

/-- The windows among the given ones that are still there. -/
def openWindows (r : Recording) (windows : List WindowRef) : List WindowRef :=
  windows.filter fun w => (r.window? w).isSome

/-- Starts watching those of the windows that are still there. Whether the owner is still there is
the first result; without it nothing happens. -/
def startRecording (r : Recording) (windows : List WindowRef) (owner : OwnerRef) :
    Bool × Recording :=
  match r.owner? owner with
  | none => (false, r)
  | some _ => (true, if r.stopped then r else r.watch (r.openWindows windows) owner)

/-- Stops watching those of the windows that are still there. -/
def stopRecording (r : Recording) (windows : List WindowRef) : Recording :=
  if r.stopped then r else r.unwatch (r.openWindows windows)

/-- Reports touches; whether they were accepted is the first result. -/
def recordTouches (r : Recording) (records : List (Record Slot)) : Bool × Recording :=
  let (accepted, station) := r.station.recordTouches records
  (accepted, { r with station := station })

/-- Reports touches without asking for a drain. -/
def enqueueTouches (r : Recording) (records : List (Record Slot)) : Bool × Recording :=
  let (item, station) := r.station.addTouches records
  (item.isSome, { r with station := station })

/-- Waits until everything complete is written. A stopped recording has nothing to wait for. -/
def flush (r : Recording) : Except CommandError Outcome × Recording :=
  if r.stopped then (.ok {}, r)
  else
    let (outcome, station) := r.station.flush Station.engine
    (outcome, { r with station := station })

/-- Tells the worker to stop. -/
def shutdown (r : Recording) : Except CommandError Unit × Recording :=
  match r.station.sendShutdown with
  | .ok station => (.ok (), { r with station := station })
  | .error error => (.error error, r)

/-- Writes everything complete and lets the worker stop. -/
def finish (r : Recording) : Except CommandError Unit × Recording :=
  match r.flush with
  | (.error error, r) => (.error error, r)
  | (.ok outcome, r) =>
    let r := r.note (.finalDrain outcome.processed outcome.discarded)
    match r.shutdown with
    | (.error error, r) => (.error error, r)
    | (.ok _, r) => (.ok (), r.work.note .recordingStopped)

/-- Stops the recording for good: no window is watched any more, everything complete is written,
and the worker stops. -/
def stop (r : Recording) : Except CommandError Unit × Recording :=
  let (result, r) := r.unwatchAll.finish
  (result, { r with stopped := true })

end SessionReplay.Recording
