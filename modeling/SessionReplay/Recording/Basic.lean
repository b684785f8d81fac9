import SessionReplay.Debounce.Agenda
import SessionReplay.Debounce.Debouncer
import SessionReplay.Output.Processing
import SessionReplay.Screen.Mapping

/-!
# Recordings

A recording watches the windows of an application. Windows and their owners belong to the
application, which can close them at any time; the recording knows them by reference. A watcher is
set on several windows at once and takes snapshots of all of them together whenever one of them is
drawn.
-/

namespace SessionReplay

/-- The name of a window in this recording. -/
abbrev WindowRef := Nat

/-- The name of an owner of windows. -/
abbrev OwnerRef := Nat

/-- The name of a watcher. -/
abbrev WatcherRef := Nat

/-- A window of the application. -/
structure Window where
  /-- The window's id in the application. -/
  id : Nat
  /-- What the window shows, if anything. -/
  view : Option View
  /-- The watchers that are told when the window is drawn, each as often as it was set on it. -/
  watchers : List WatcherRef := []

/-- An owner of windows, who knows the screen. -/
structure Owner where
  /-- The screen. -/
  screen : ScreenInfo
  /-- How often the owner was asked for it. -/
  asked : Nat := 0

/-- A watcher: the windows that its snapshots show, and what keeps it from taking too many. -/
structure Watcher where
  /-- Who is asked for the screen. -/
  owner : OwnerRef
  /-- The windows. -/
  windows : List WindowRef
  /-- What answers the draws. -/
  debouncer : Debouncer

/-- Which watcher was set last on a window of some id. -/
structure Registration where
  /-- The window. -/
  window : WindowRef
  /-- The watcher. -/
  watcher : WatcherRef
deriving DecidableEq, Repr

/-- A copy of a view's pixels that has been asked for. -/
structure Copy where
  /-- The view. -/
  source : CopySource
  /-- Where the picture goes. -/
  slot : Slot
  /-- The snapshot that waits for it. -/
  item : ItemId

/-- How a copy ends. -/
inductive CopyResult where
  /-- The pixels. -/
  | copied (bitmap : Bitmap)
  /-- The copy failed. -/
  | failed (code : Int)

/-- Something that ends on its own. -/
inductive Completion where
  /-- The copy at an index of those that have not ended. -/
  | copy (index : Nat) (result : CopyResult)
  /-- The encoding of the pixels at an index of those that have not been encoded. -/
  | encoding (index : Nat)

/-- A recording and the part of the application that it watches. -/
structure Recording where
  /-- Limits and delays. -/
  settings : Settings := {}
  /-- How views are described. -/
  mappers : MapperTable := .builtin 120
  /-- The queue and its worker. -/
  station : Station Output
  /-- The windows of the application; a window that was closed is gone. -/
  windows : Array (Option Window) := #[]
  /-- The owners of the windows; an owner can be gone too. -/
  owners : Array (Option Owner) := #[]
  /-- Every watcher that was ever set. -/
  watchers : Array Watcher := #[]
  /-- The registrations by window id. -/
  registry : List (Nat × Registration) := []
  /-- Timers of the watchers and snapshots waiting for the thread of the user interface: a watcher
  with the ticket of its request. -/
  agenda : Agenda (WatcherRef × Nat) := {}
  /-- Copies that end within the call that asks for them, by the id of the view. -/
  answers : List (Int × CopyResult) := []
  /-- Copies that have not ended, in the order in which they were asked for. -/
  held : List Copy := []
  /-- Copied pixels that have not been encoded. -/
  encoding : List (Copy × Bitmap) := []
  /-- What ends on its own while the next copies are asked for, one list for each of them; after that
  nothing. -/
  interludes : List (List Completion) := []
  /-- Whether the recording has been stopped for good. -/
  stopped : Bool := false

namespace Recording

/-- A recording with nothing recorded yet. -/
def new (settings : Settings) : Recording where
  settings := settings
  mappers := .builtin settings.imageSideLimit
  station :=
    { queue := { maxItemDelay := settings.maxItemDelay, capacity := settings.maxQueueSize }
      output := {} }

/-- A window that is still there. -/
def window? (r : Recording) (w : WindowRef) : Option Window := (r.windows[w]?).join

/-- An owner who is still there. -/
def owner? (r : Recording) (o : OwnerRef) : Option Owner := (r.owners[o]?).join

/-- The recording with its station changed. -/
def mapStation (r : Recording) (f : Station Output → Station Output) : Recording :=
  { r with station := f r.station }

/-- The recording with its gallery changed. -/
def mapGallery (r : Recording) (f : Gallery → Gallery) : Recording :=
  r.mapStation fun s => { s with output := { s.output with gallery := f s.output.gallery } }

/-- The recording with its storage changed. -/
def mapStorage (r : Recording) (f : Storage → Storage) : Recording :=
  r.mapStation fun s => { s with output := { s.output with storage := f s.output.storage } }

/-- The pictures of the recording. -/
def gallery (r : Recording) : Gallery := r.station.output.gallery

/-- Logs an event. -/
def note (r : Recording) (event : Log.Event) : Recording :=
  r.mapStation (·.note event)

/-- The recording with a window changed that is still there. -/
def modifyWindow (r : Recording) (w : WindowRef) (f : Window → Window) : Recording :=
  { r with windows := r.windows.modify w (Option.map f) }

/-- The recording with a watcher's debouncer changed. -/
def modifyDebouncer (r : Recording) (w : WatcherRef) (f : Debouncer → Debouncer) : Recording :=
  { r with watchers := r.watchers.modify w fun x => { x with debouncer := f x.debouncer } }

/-! ## The application's side -/

/-- The application opens a window. -/
def openWindow (r : Recording) (id : Nat) (view : Option View) : Recording :=
  { r with windows := r.windows.push (some { id := id, view := view }) }

/-- The application closes a window. -/
def closeWindow (r : Recording) (w : WindowRef) : Recording :=
  { r with windows := r.windows.setIfInBounds w none }

/-- A window shows something else. -/
def showView (r : Recording) (w : WindowRef) (view : Option View) : Recording :=
  r.modifyWindow w fun x => { x with view := view }

/-- An owner of windows appears. -/
def addOwner (r : Recording) (screen : ScreenInfo) : Recording :=
  { r with owners := r.owners.push (some { screen := screen }) }

/-- An owner of windows goes. -/
def dropOwner (r : Recording) (o : OwnerRef) : Recording :=
  { r with owners := r.owners.setIfInBounds o none }

/-- The screen changes. -/
def changeScreen (r : Recording) (o : OwnerRef) (screen : ScreenInfo) : Recording :=
  { r with owners := r.owners.modify o (Option.map fun x => { x with screen := screen }) }

/-- A view becomes active, or none is. -/
def activate (r : Recording) (view : Option ViewContext) : Recording :=
  r.mapStation fun s => { s with activeView := view }

/-- The device's clock is set. -/
def setClock (r : Recording) (millis : Int) : Recording :=
  r.mapStation fun s => { s with clock := millis }

end Recording

end SessionReplay
