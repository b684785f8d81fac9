import SessionReplay.Log.Line
import SessionReplay.Picture.Encoding
import SessionReplay.Queue.Basic
import SessionReplay.Settings.Basic

/-!
# Log events

Everything a recording logs, and the line that each event is shown as.
-/

namespace SessionReplay.Log

/-- Something that is logged. -/
inductive Event where
  /-- The active view has no valid context, so an item is not made. -/
  | invalidContext (view : String)
  /-- There is no active view, so an item is not made. -/
  | noActiveView
  /-- An item does not fit into the queue. -/
  | offerRefused (error : OfferError)
  /-- The worker that would drain the queue is not there. -/
  | drainRequestFailed
  /-- An item is too old. -/
  | staleItem (timestamp now : Int)
  /-- An item holds nothing. -/
  | invalidItem
  /-- Processing an item failed. -/
  | processingFailed
  /-- The worker starts. -/
  | workerStarted
  /-- The worker is told to stop. -/
  | workerStopping
  /-- The worker has stopped. -/
  | workerStopped
  /-- The queue was drained and items were taken out. -/
  | drained (processed discarded : Nat) (blocked : Bool)
  /-- A snapshot equals the one before it. -/
  | unchangedSnapshot (timestamp : Int)
  /-- A bitmap could not be encoded. -/
  | pictureRefused (error : PictureError) (view : Int)
  /-- The pixels of a view could not be copied. -/
  | copyFailed (view : Int) (code : Int)
  /-- The owner of the windows is gone. -/
  | ownerGone
  /-- Draws of some windows are watched from now on. -/
  | watching (windows : Nat)
  /-- A recording starts. -/
  | recordingStarted
  /-- The last drain of a recording. -/
  | finalDrain (processed discarded : Nat)
  /-- A recording has stopped. -/
  | recordingStopped
  /-- A view becomes active. -/
  | viewStarted (view : String)
  /-- A batch was written. -/
  | batchWritten (view : String) (types : List Nat) (bytes total : Nat)
  /-- A view is told that records were written for it. -/
  | batchSent (view : String)
  /-- Log lines are shown from now on. -/
  | loggingEnabled
  /-- The settings are refused. -/
  | settingsRefused (fault : SettingsFault)
  /-- A simulation starts. -/
  | simulationStarted (millis : Nat)
  /-- Tasks waiting for the user interface were run. -/
  | tasksRun (frame ran : Nat)
  /-- Touches could not be recorded. -/
  | touchesDropped (frame : Nat)
  /-- A simulation is over. -/
  | simulationFinished
deriving DecidableEq, Repr

/-- How a list of numbers is shown. -/
def showNumbers (ns : List Nat) : String :=
  "[" ++ ", ".intercalate (ns.map toString) ++ "]"

/-- A line without spans. -/
def line (level : Level) (message : String) (fields : List Field) : Line :=
  { level := level, message := some message, fields := fields }

/-- The line that an event is shown as. -/
def Event.toLine : Event → Line
  | .invalidContext view =>
    line .debug "Dropping record: invalid RUM context" [.plain "view_id" view]
  | .noActiveView => line .debug "Dropping record: no active RUM view" []
  | .offerRefused error => line .debug ("Dropping queue item: " ++ error.message) []
  | .drainRequestFailed =>
    line .error "Failed to request a drain: queue worker is not running" []
  | .staleItem timestamp now =>
    line .debug "Discarding stale queue item" [.int "timestamp" timestamp, .int "now" now]
  | .invalidItem => line .debug "Discarding invalid queue item" []
  | .processingFailed => line .error "Recorded data processor panicked, dropping item" []
  | .workerStarted => line .debug "Recorded data queue service started" []
  | .workerStopping => line .debug "Recorded data queue service shutting down" []
  | .workerStopped => line .debug "Recorded data queue service stopped" []
  | .drained processed discarded blocked =>
    line .debug "Drained recorded data queue"
      [.int "processed" processed, .int "discarded" discarded, .bool "blocked" blocked]
  | .unchangedSnapshot timestamp =>
    line .trace "Skipping unchanged snapshot" [.int "timestamp" timestamp]
  | .pictureRefused error view =>
    line .debug ("Keeping empty image placeholder: " ++ error.message) [.int "view_id" view]
  | .copyFailed view code =>
    line .debug "Pixel copy failed, keeping empty image placeholder"
      [.int "view_id" view, .int "error_code" code]
  | .ownerGone => line .debug "Skipping snapshot: window owner is gone" []
  | .watching windows => line .debug "Intercepting window draws" [.int "windows" windows]
  | .recordingStarted => line .debug "Session replay started" []
  | .finalDrain processed discarded =>
    line .debug "Final drain before stopping"
      [.int "processed" processed, .int "discarded" discarded]
  | .recordingStopped => line .debug "Session replay stopped" []
  | .viewStarted view => line .info "RUM view started" [.plain "view_id" view]
  | .batchWritten view types bytes total =>
    line .info "Wrote records"
      [.plain "view_id" view, .plain "types" (showNumbers types), .int "bytes" bytes,
        .int "total" total]
  | .batchSent view => line .debug "Records sent for view" [.quoted "view_id" view]
  | .loggingEnabled => line .debug "Logging subsystem enabled" []
  | .settingsRefused fault =>
    line .error ("Error loading configuration: " ++ fault.message) []
  | .simulationStarted millis => line .info "Simulation started" [.int "duration_ms" millis]
  | .tasksRun frame ran =>
    line .debug "Ran posted UI tasks" [.int "frame" frame, .int "ran" ran]
  | .touchesDropped frame => line .debug "Touch batch dropped" [.int "frame" frame]
  | .simulationFinished => line .info "Simulation finished" []

/-- The line of an event as text. -/
def Event.render (e : Event) : String :=
  e.toLine.render

end SessionReplay.Log
