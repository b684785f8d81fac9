import SessionReplay.Recording.Snapshots

/-!
# Watching windows

One watcher is set on a set of windows. A window is registered with one watcher at a time, by its
id; setting another watcher on it takes the earlier one off. A watcher that is registered for no
window any more drops the snapshot that it still waits for.
-/

namespace SessionReplay.Recording

/-- Takes a watcher off a window, however often it was set on it: the host removes every entry of a
listener, as the hosts at hand do, and not only one of them. -/
def takeOff (r : Recording) (w : WindowRef) (watcher : WatcherRef) : Recording :=
  r.modifyWindow w fun x => { x with watchers := x.watchers.filter (· != watcher) }

/-- Whether a watcher is registered for some window. -/
def isRegistered (r : Recording) (watcher : WatcherRef) : Bool :=
  r.registry.any fun (_, x) => x.watcher == watcher

/-- Takes the registration of a window's id away. If its watcher is registered for no other window,
it is added to those that are to be silenced. -/
def unregister (state : Recording × List WatcherRef) (w : WindowRef) :
    Recording × List WatcherRef :=
  let (r, orphans) := state
  match r.window? w with
  | none => (r, orphans)
  | some window =>
    match r.registry.lookup window.id with
    | none => (r, orphans)
    | some registration =>
      let r := { r with registry := r.registry.filter fun (id, _) => id != window.id }
      let r := r.takeOff w registration.watcher
      (r, if r.isRegistered registration.watcher then orphans
        else orphans ++ [registration.watcher])

/-- Lets a watcher drop the snapshot that it waits for. -/
def silence (r : Recording) (watcher : WatcherRef) : Recording :=
  r.modifyDebouncer watcher Debouncer.cancel

/-- Stops watching some windows. -/
def unwatch (r : Recording) (windows : List WindowRef) : Recording :=
  let (r, orphans) := windows.foldl unregister (r, [])
  orphans.foldl silence r

/-- Stops watching all windows. -/
def unwatchAll (r : Recording) : Recording :=
  r.registry.foldl
    (fun r (_, registration) =>
      (r.takeOff registration.window registration.watcher).silence registration.watcher)
    { r with registry := [] }

/-- Sets a watcher on a window and registers it for the window's id. -/
def register (r : Recording) (watcher : WatcherRef) (w : WindowRef) : Recording :=
  match r.window? w with
  | none => r
  | some window =>
    let r := r.modifyWindow w fun x => { x with watchers := x.watchers ++ [watcher] }
    { r with
      registry := (window.id, ⟨w, watcher⟩) :: r.registry.filter fun (id, _) => id != window.id }

/-- Starts watching some windows, which takes a first snapshot. -/
def watch (r : Recording) (windows : List WindowRef) (owner : OwnerRef) : Recording :=
  let r := r.unwatch windows
  if windows.isEmpty then r
  else
    let watcher := r.watchers.size
    let r := { r with
      watchers := r.watchers.push
        { owner := owner
          windows := windows
          debouncer := { quiet := r.settings.debounce, patience := r.settings.maxRecordDelay } } }
    let r := windows.foldl (register · watcher ·) r
    ((r.note (.watching windows.length)).silence watcher).takeSnapshot watcher

end SessionReplay.Recording
