import SessionReplay.Recording.Pictures

/-!
# Taking snapshots

A snapshot is made only if its owner and at least one of its windows are still there. The item is
made first, so that it has its place in the queue, then the windows are walked, where the pictures are
ordered that come up, and at last the nodes are attached.
-/

namespace SessionReplay.Recording

/-- Where the pictures of an item are ordered: the gallery has the places, the item counts the jobs, and
copies are asked for. -/
def studio (item : ItemId) : Studio Recording where
  place r := (r.gallery.next, r.mapGallery (·.extend 1))
  startJob r := r.mapStation (·.startJob item)
  capture source slot r := r.capture { source := source, slot := slot, item := item }

/-- Fills an item with what some windows show. -/
def fillSnapshot (r : Recording) (item : ItemId) (screen : ScreenInfo) (windows : List Window) :
    Recording :=
  let (nodes, r) :=
    View.produceAll r.mappers screen (studio item) (windows.filterMap Window.view) r
  r.mapStation fun s => (s.attachNodes item nodes).2.requestDrain

/-- Takes a snapshot for a watcher. -/
def takeSnapshot (r : Recording) (w : WatcherRef) : Recording :=
  match r.watchers[w]? with
  | none => r
  | some watcher =>
    match r.owner? watcher.owner with
    | none => r.note .ownerGone
    | some owner =>
      let windows := watcher.windows.filterMap r.window?
      if windows.isEmpty then r
      else
        let r := { r with
          owners := r.owners.setIfInBounds watcher.owner
            (some { owner with asked := owner.asked + 1 }) }
        match r.station.addSnapshot owner.screen with
        | (none, station) => { r with station := station }
        | (some item, station) =>
          { r with station := station }.fillSnapshot item owner.screen windows

/-! ## Draws -/

/-- A watcher is told that one of its windows was drawn. -/
def onDraw (r : Recording) (w : WatcherRef) : Recording :=
  match r.watchers[w]? with
  | none => r
  | some watcher =>
    match watcher.debouncer.request r.agenda.now with
    | (.now, d) => (r.modifyDebouncer w fun _ => d).takeSnapshot w
    | (.wait ticket deadline, d) =>
      let r := r.modifyDebouncer w fun _ => d
      { r with agenda := r.agenda.start deadline (w, ticket) }

/-- A window is drawn: all watchers on it are told. -/
def draw (r : Recording) (w : WindowRef) : Recording :=
  match r.window? w with
  | none => r
  | some window => window.watchers.foldl onDraw r

/-- Whether a request of a watcher has been neither replaced nor cancelled nor answered. -/
def isLive (r : Recording) (task : WatcherRef × Nat) : Bool :=
  match r.watchers[task.1]? with
  | none => false
  | some watcher => watcher.debouncer.isLive task.2

/-- Runs a snapshot that was posted, unless its request has been replaced or cancelled meanwhile. -/
def runTask (r : Recording) (task : WatcherRef × Nat) : Recording :=
  if r.isLive task then (r.modifyDebouncer task.1 Debouncer.complete).takeSnapshot task.1 else r

/-- Lets the timers that are due fire. -/
def expire (r : Recording) : Recording :=
  { r with agenda := r.agenda.expire r.isLive }

/-- Runs all snapshots that wait now; their number is the first result. -/
def runPosted (r : Recording) : Nat × Recording :=
  let (tasks, agenda) := r.agenda.takePosted
  (tasks.length, tasks.foldl runTask { r with agenda := agenda })

end SessionReplay.Recording
