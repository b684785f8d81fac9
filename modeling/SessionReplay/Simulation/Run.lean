import SessionReplay.Recording.Session
import SessionReplay.Settings.Environment
import SessionReplay.Simulation.Screen

/-!
# Simulated runs

A recording of the simulated application, frame by frame. Frames are sixteen milliseconds apart, and
snapshots that were posted are taken at the beginning of a frame.
-/

namespace SessionReplay.Simulation

/-- The milliseconds between two frames. -/
def frameMillis : Nat := 16

/-- The application and its recording. -/
structure Run where
  /-- The recording. The application's only window and its owner are the first ones. -/
  recording : Recording
  /-- The views started so far. -/
  views : ViewStarter
  /-- The text of the counter. -/
  counter : String := counterText 0
  /-- How many of the copies that have not ended were there a frame ago. -/
  aged : Nat := 0

namespace Run

/-- The window of the application. -/
def window : WindowRef := 0

/-- Its owner. -/
def owner : OwnerRef := 0

/-- The id of the application. -/
def applicationId : String := "sim-application"

/-- A run that is about to begin. -/
def begin (settings : Settings) (clock : Int) (logged : Bool) : Except SettingsFault Run :=
  (Recording.start settings).map fun r =>
    let r := ((r.openWindow 1 (some (checkout (counterText 0)))).addOwner screen).setClock clock
    let r := r.mapStorage fun s => { s with logged := logged }
    { recording := { r with agenda := { r.agenda with mode := .queued } }
      views := { application := applicationId } }

/-- The run with its recording changed. -/
def map (x : Run) (f : Recording → Recording) : Run :=
  { x with recording := f x.recording }

/-- Starts a view. -/
def startView (x : Run) (name : String) : Run :=
  let (context, views) := x.views.start name
  { x with
    views := views
    recording := (x.recording.note (.viewStarted context.view)).activate (some context) }

/-- Watches the window. -/
def watch (x : Run) : Run :=
  x.map fun r => (r.startRecording [window] owner).2

/-- Ends the first `count` copies that have not ended, with pixels or, if a code is given, without
them. -/
def answerCopies (code : Option Int) : Nat → Run → Run
  | 0, x => x
  | count + 1, x =>
    match x.recording.held with
    | [] => x
    | c :: _ =>
      let result := match code with
        | some code => .failed code
        | none => .copied (copyPixels c.source.bounds)
      (x.map fun r => (r.answerCopy 0 result).2).answerCopies code count

/-- The screen shows a frame. -/
def advanceFrame (x : Run) (frame : Nat) : Run :=
  let counter := counterAfter frame x.counter
  { x with counter := counter }.map (·.showView window (some (checkout counter)))

/-- Taps the screen; whether the touches were accepted is the first result. -/
def tap (x : Run) (frame : Nat) (timestamp : Int) : Bool × Run :=
  let (accepted, r) := x.recording.recordTouches (Simulation.tap frame timestamp)
  (accepted, { x with recording := r })

/-- Runs the tasks that wait for the thread of the user interface. -/
def runPosted (x : Run) : Nat × Run :=
  let (ran, r) := x.recording.runPosted
  (ran, { x with recording := r })

/-! ## Scripted frames -/

/-- What happens in a frame. -/
structure FrameScript where
  /-- The names of the views that are started. -/
  views : List String := []
  /-- Whether all copies end. -/
  answer : Bool := false
  /-- Whether the window is drawn. -/
  draw : Bool := false
  /-- Whether the screen is tapped. -/
  tap : Bool := false

/-- What is seen of a frame. -/
structure FrameReport where
  /-- How many tasks were run. -/
  ran : Nat
  /-- Whether the touches of a tap were accepted, if there was one. -/
  tapped : Option Bool

/-- Plays a frame. Copies fail with a code if one is given. -/
def play (x : Run) (frame : Nat) (script : FrameScript) (code : Option Int) (touchTime : Int) :
    FrameReport × Run :=
  let x := if frame = 0 then x else x.map (·.advance frameMillis)
  let x := script.views.foldl (fun x name => (x.startView name).watch) x
  let x := if script.answer then x.answerCopies code x.recording.held.length else x
  let x := x.map Recording.settle
  let (ran, x) := x.runPosted
  let x := x.advanceFrame frame
  let x := if script.draw then x.map (·.draw window) else x
  if script.tap then
    let (accepted, x) := x.tap frame touchTime
    (⟨ran, some accepted⟩, x.map Recording.settle)
  else (⟨ran, none⟩, x.map Recording.settle)

/-! ## The command line's run -/

/-- How long the run lasts if nothing is said, in milliseconds. -/
def defaultDuration : Nat := 3000

/-- After how many frames the screen is tapped again. -/
def framesPerTap : Nat := 30

/-- How long a run lasts, in milliseconds. -/
def duration (env : Environment) : Nat :=
  ((env "DD_SIM_DURATION_MS").bind fun text => Numeral.unsigned? text.toList).getD defaultDuration

/-- The number of frames of a run. -/
def frameCount (millis : Nat) : Nat := millis / frameMillis

/-- The beginning of a run: the first view is shown and watched. -/
def openScreen (x : Run) (millis : Nat) : Run :=
  ((x.startView "checkout").watch).map (·.note (.simulationStarted millis))

/-- Lets the time up to the next frame pass. Copies end twenty milliseconds after they were asked
for. -/
def waitForFrame (x : Run) : Run :=
  let x := (x.map (·.advance 4)).answerCopies none x.aged
  let x := { x with aged := x.recording.held.length }
  (x.map Recording.settle).map (·.advance (frameMillis - 4))

/-- A frame of a run of `total` frames. Halfway through the second view is shown. -/
def frame (x : Run) (total frame : Nat) : Run :=
  let (ran, x) := x.waitForFrame.runPosted
  let x := if 0 < ran then x.map (·.note (.tasksRun frame ran)) else x
  let x := (x.advanceFrame frame).map (·.draw window)
  let x :=
    if frame % framesPerTap = 0 then
      let (accepted, x) := x.tap frame x.recording.station.clock
      if accepted then x else x.map (·.note (.touchesDropped frame))
    else x
  if frame = total / 2 then (x.startView "payment").watch else x

/-- The end of a run. -/
def close (x : Run) : Run :=
  let x := (x.map (·.stopRecording [window])).runPosted.2
  x.map fun r =>
    match r.stop with
    | (.ok _, r) => r.note .simulationFinished
    | (.error _, r) => r

/-- The frames of a run from `next` on. -/
def frames (x : Run) (total next : Nat) : Nat → Run
  | 0 => x
  | count + 1 => (x.frame total next).frames total (next + 1) count

end Run

/-! ## Shown lines -/

/-- The level of a name. -/
def levelOf (name : String) : Log.Level :=
  match name with
  | "error" => .error
  | "warn" => .warn
  | "debug" => .debug
  | "trace" => .trace
  | _ => .info

/-- The text of those events that are important enough. -/
def shown (level : Log.Level) (events : List Log.Event) : String :=
  String.join ((events.filter fun e => e.toLine.level.detail ≤ level.detail).map Log.Event.render)

/-- How a run begins that an environment asks for: its first events, the level of the lines that are
shown, and the run itself unless its settings are refused. -/
def prepare (env : Environment) (clock : Int) :
    List Log.Event × Log.Level × Option Run :=
  match (Settings.load env).bind fun s => (Run.begin s clock true).map (s, ·) with
  | .error fault => ([.loggingEnabled, .settingsRefused fault], .info, none)
  | .ok (settings, x) => ([.loggingEnabled], levelOf settings.logLevel, some x)

/-- Everything that a run shows. -/
def transcript (env : Environment) (clock : Int) : String :=
  let (events, level, run) := prepare env clock
  match run with
  | none => shown level events
  | some x =>
    let millis := Run.duration env
    let total := Run.frameCount millis
    let x := (((x.openScreen millis).frames total 1 total).close)
    shown level (events ++ x.recording.station.log.toList)

end SessionReplay.Simulation
