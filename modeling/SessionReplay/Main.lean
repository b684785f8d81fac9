import SessionReplay.Simulation.Run

/-!
# Command line

Runs the simulated application in real time and prints what the recording logs. The settings and the
length of the run come from the environment.
-/

open SessionReplay SessionReplay.Simulation

namespace SessionReplay.CommandLine

/-- The variables that are looked at. -/
def variableNames : List String :=
  ["DD_SESSION_REPLAY_MAX_ITEM_DELAY_MS", "DD_SESSION_REPLAY_DEBOUNCE_MS",
    "DD_SESSION_REPLAY_MAX_RECORD_DELAY_MS", "DD_SESSION_REPLAY_MAX_QUEUE_SIZE",
    "DD_SESSION_REPLAY_IMAGE_SIZE_LIMIT_DP", "DD_SESSION_REPLAY_BITMAP_SIZE_LIMIT_BYTES",
    "DD_LOG_LEVEL", "DD_SIM_DURATION_MS"]

/-- The environment of the process. -/
def readEnvironment : IO Environment := do
  let values ← variableNames.mapM fun name => return (name, ← IO.getEnv name)
  return Environment.ofList values

/-- Prints what was logged and forgets it. -/
def printLog (level : Log.Level) (x : Run) : IO Run := do
  let out ← IO.getStdout
  out.putStr (shown level x.recording.station.log.toList)
  out.flush
  return x.map (·.mapStation fun s => { s with log := #[] })

/-- Plays the frames of a run at their times. -/
def playFrames (level : Log.Level) (total : Nat) : Nat → Nat → Run → IO Run
  | _, 0, x => return x
  | next, count + 1, x => do
    IO.sleep (UInt32.ofNat Simulation.frameMillis)
    let x ← printLog level (x.frame total next)
    playFrames level total (next + 1) count x

end SessionReplay.CommandLine

open CommandLine in
/-- Runs the simulated application. -/
def main : IO Unit := do
  let env ← readEnvironment
  let (events, level, run) := prepare env (← IO.monoMsNow)
  let out ← IO.getStdout
  out.putStr (shown level events)
  match run with
  | none => return
  | some x =>
    let millis := Run.duration env
    let total := Run.frameCount millis
    let x ← printLog level (x.openScreen millis)
    let x ← playFrames level total 1 total x
    let _ ← printLog level x.close
    return
