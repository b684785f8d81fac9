import SessionReplay.Proofs.Recording.Attempts
import SessionReplay.Proofs.Screen.Mirror

/-!
# What a snapshot asks for

A snapshot attempt talks to others in two ways only: its item is told that one more picture is being made,
and a copy of pixels is asked for. Both are done by the walk over the views, through the studio of the item
(`Recording.studio`). For each view that is to be pictured both happen once, one after the other, in the
order of the views, and nothing else of the kind happens (`takeSnapshot_mirrors`): the walk leaves behind
what ordering these pictures leaves behind, whatever the studio is. What is attached in the end stands for
the views that can be seen in the windows that are still there.

A copy may end within the call that asks for it, and other copies and encodings may end meanwhile. All of
this is part of `Recording.capture`, and makes no further requests.
-/

namespace SessionReplay

/-- For each picture there is a job first, and then its copy. -/
theorem Studio.orderAll_journaled {σ : Type} (studio : Studio σ) (ps : List CopySource)
    (s : σ × List Request) :
    (studio.journaled.orderAll ps s).2.2 = s.2 ++ ps.flatMap fun source => [.job, .capture source] := by
  induction ps generalizing s with
  | nil => exact (List.append_nil _).symm
  | cons p ps ih =>
    let asked := (studio.journaled.order p s).2
    have hasked : asked.2 = s.2 ++ [.job] ++ [.capture p] := rfl
    change (studio.journaled.orderAll ps asked).2.2 = _
    rw [ih, hasked, List.flatMap_cons]
    simp

namespace Recording

/-! ## Snapshot attempts -/

/-- The views of the windows of a watcher that are still there and show one, in order. -/
def roots (r : Recording) (watcher : Watcher) : List View :=
  (watcher.windows.filterMap r.window?).filterMap Window.view

/-- A snapshot is begun: the watcher's owner and one of its windows are still there, and an item for it was
accepted. -/
structure Begins (r : Recording) (w : WatcherRef) (watcher : Watcher) (owner : Owner) (item : ItemId)
    (station : Station Output) : Prop where
  found : r.watchers[w]? = some watcher
  present : r.owner? watcher.owner = some owner
  opened : watcher.windows.filterMap r.window? ≠ []
  accepted : r.station.addSnapshot owner.screen = (some item, station)

/-- The recording when a snapshot was begun: its owner was asked for the screen, and there is an item. -/
def prepared (r : Recording) (watcher : Watcher) (owner : Owner) (station : Station Output) : Recording :=
  { r with
    owners := r.owners.setIfInBounds watcher.owner (some { owner with asked := owner.asked + 1 })
    station := station }

/-- The recording once the nodes of a snapshot were attached. -/
def attach (r : Recording) (item : ItemId) (nodes : List (Node Slot)) : Recording :=
  r.mapStation fun s => (s.attachNodes item nodes).2.requestDrain

variable {r : Recording} {limit : Int} {w : WatcherRef}

/-- **What fills an item.** The nodes stand for the views that can be seen, and their pictures are in the
places that were handed out for the views that are to be pictured. -/
theorem fillSnapshot_mirrors (hmappers : r.mappers = .builtin limit) (item : ItemId) (screen : ScreenInfo)
    (windows : List Window) :
    let roots := windows.filterMap Window.view
    let asked := (studio item).orderAll (View.sources limit screen roots) r
    ∃ nodes, List.Forall₂ (Wireframe.Depicts limit screen) (View.shown roots) (Node.flattenAll nodes) ∧
      Wireframe.pictures (Node.flattenAll nodes) = asked.1 ∧
      r.fillSnapshot item screen windows = asked.2.attach item nodes := by
  intro roots asked
  let walked := View.produceAll (.builtin limit) screen (studio item) roots r
  obtain ⟨hmirror, hordered⟩ : List.Forall₂ (Wireframe.Depicts limit screen) (View.shown roots)
        (Node.flattenAll walked.1) ∧ (Wireframe.pictures (Node.flattenAll walked.1), walked.2) = asked :=
    View.produceAll_mirrors limit screen (studio item) roots r
  obtain ⟨hpictures, hstate⟩ := Prod.mk.inj hordered
  refine ⟨walked.1, hmirror, hpictures, ?_⟩
  rw [← hstate]
  unfold fillSnapshot walked
  rw [hmappers]
  rfl

/-- If no item is accepted, then the queue is as it was. -/
theorem queue_of_addSnapshot {s t : Station Output} {screen : ScreenInfo}
    (h : s.addSnapshot screen = (none, t)) : t.queue = s.queue := by
  rcases s.addItem_cases (.snapshot { screen := screen }) with ⟨view, -, hadd⟩ | ⟨-, event, hadd⟩
  · cases hadd.symm.trans h
  · cases hadd.symm.trans h
    rfl

/-- A snapshot that is begun fills its item. -/
theorem takeSnapshot_of_begins {watcher : Watcher} {owner : Owner} {item : ItemId}
    {station : Station Output} (h : r.Begins w watcher owner item station) :
    r.takeSnapshot w = (r.prepared watcher owner station).fillSnapshot item owner.screen
      (watcher.windows.filterMap r.window?) := by
  unfold takeSnapshot prepared
  simp [h.found, h.present, h.opened, h.accepted]

/-- One that is not begun changes neither the queue nor any copy. -/
theorem takeSnapshot_of_not_begins
    (h : ∀ watcher owner item station, ¬r.Begins w watcher owner item station) :
    ∃ owners station, r.takeSnapshot w = { r with owners := owners, station := station } ∧
      station.queue = r.station.queue := by
  unfold takeSnapshot
  split
  next => exact ⟨_, _, rfl, rfl⟩
  next watcher hwatcher =>
    split
    next => exact ⟨_, _, rfl, rfl⟩
    next owner howner =>
      dsimp only
      split
      next => exact ⟨_, _, rfl, rfl⟩
      next hopened =>
        split
        next station hrefused => exact ⟨_, station, rfl, queue_of_addSnapshot hrefused⟩
        next item station haccepted =>
          exact absurd ⟨hwatcher, howner, by simpa using hopened, haccepted⟩ (h watcher owner item station)

/-- **A snapshot mirrors the views that can be seen.** There is no node exactly for a view that is not
visible. A walk over several views has a node for each of them that is visible, and each view that can be seen
has one wireframe, in pre-order. For each view that is to be pictured, in this order, the walk asks for a
place, tells that there is one more job, and asks for a copy; with this the walk is described in full,
whatever is done about it, and these are the requests that are written down. A snapshot that is begun is such
a walk over the windows that are still there, and its nodes are attached in the end. One that is not begun
changes neither the queue nor any copy. -/
theorem takeSnapshot_mirrors (hmappers : r.mappers = .builtin limit) (w : WatcherRef) :
    (∀ (σ : Type) (studio : Studio σ) screen v s,
      (View.produce r.mappers screen studio v s).1 = none ↔ v.visible = false) ∧
    (∀ (σ : Type) (studio : Studio σ) screen vs s,
      let walked := View.produceAll r.mappers screen studio vs s
      List.Forall₂ (fun v n => List.Forall₂ (Wireframe.Depicts limit screen) (View.shown [v]) n.flatten)
          (vs.filter View.visible) walked.1 ∧
        List.Forall₂ (Wireframe.Depicts limit screen) (View.shown vs) (Node.flattenAll walked.1) ∧
        (Wireframe.pictures (Node.flattenAll walked.1), walked.2)
          = studio.orderAll (View.sources limit screen vs) s) ∧
    (∀ (σ : Type) (studio : Studio σ) screen vs s,
      (View.produceAll r.mappers screen studio.journaled vs s).2.2
        = s.2 ++ (View.sources limit screen vs).flatMap fun source => [.job, .capture source]) ∧
    (∀ watcher owner item station, r.Begins w watcher owner item station →
      let asked := (studio item).orderAll (View.sources limit owner.screen (r.roots watcher))
        (r.prepared watcher owner station)
      ∃ nodes,
        List.Forall₂ (Wireframe.Depicts limit owner.screen) (View.shown (r.roots watcher))
          (Node.flattenAll nodes) ∧
        Wireframe.pictures (Node.flattenAll nodes) = asked.1 ∧
        r.takeSnapshot w = asked.2.attach item nodes) ∧
    ((∀ watcher owner item station, ¬r.Begins w watcher owner item station) →
      ∃ owners station, r.takeSnapshot w = { r with owners := owners, station := station } ∧
        station.queue = r.station.queue) := by
  refine ⟨fun _ _ _ _ _ => View.produce_eq_none_iff, ?_, ?_, ?_, takeSnapshot_of_not_begins⟩
  · intro σ studio screen vs s walked
    unfold walked
    rw [hmappers]
    exact ⟨View.produceAll_roots limit screen studio vs s, View.produceAll_mirrors limit screen studio vs s⟩
  · intro σ studio screen vs s
    have hordered := (View.produceAll_mirrors limit screen studio.journaled vs s).2
    rw [hmappers, (Prod.mk.inj hordered).2, Studio.orderAll_journaled]
  · intro watcher owner item station hbegins
    rw [takeSnapshot_of_begins hbegins]
    exact fillSnapshot_mirrors (r := r.prepared watcher owner station) hmappers item owner.screen _

/-- A view with a picture in it, and with another one in something that is not visible. -/
def partlyHidden : View where
  id := 7
  children :=
    [{ id := 8, visible := false,
       children := [{ id := 9, className := "android.widget.ImageView", drawable := true }] },
      { id := 10, className := "android.widget.ImageView", drawable := true, bounds := ⟨0, 0, 10, 10⟩ }]

/-- A watcher of two windows. -/
def watcherOfTwo : Watcher where
  owner := 0
  windows := [0, 1]
  debouncer := { quiet := 64 * nanosPerMilli, patience := 64 * nanosPerMilli }

/-- A recording with this watcher, whose first window was closed and whose second one shows the view. -/
def watchingPartlyHidden : Recording :=
  { (((new {}).openWindow 1 none).openWindow 2 (some partlyHidden)).closeWindow 0 with
    owners := #[some { screen := {} }]
    watchers := #[watcherOfTwo] }.activate (some ⟨"app", "session", "view-1"⟩)

/-- Two views can be seen, and one of them is pictured: there is one job, and then one copy is asked for. -/
theorem takeSnapshot_mirrors_partlyHidden :
    watchingPartlyHidden.mappers = .builtin 120 ∧
      (View.produceAll watchingPartlyHidden.mappers {} Studio.counter.journaled [partlyHidden] (0, [])).2.2
        = [.job, .capture ⟨10, ⟨0, 0, 10, 10⟩⟩] ∧
      ∃ nodes prepared, (Node.flattenAll nodes).map Wireframe.id = [7, 10] ∧
        Wireframe.pictures (Node.flattenAll nodes) = [0] ∧
        watchingPartlyHidden.takeSnapshot 0
          = ((studio 0).orderAll [⟨10, ⟨0, 0, 10, 10⟩⟩] prepared).2.attach 0 nodes := by
  have hmirrors := takeSnapshot_mirrors (r := watchingPartlyHidden) rfl 0
  have hsources : View.sources 120 {} [partlyHidden] = [⟨10, ⟨0, 0, 10, 10⟩⟩] := by decide +kernel
  refine ⟨rfl, ?_, ?_⟩
  · have hwritten := hmirrors.2.2.1 _ Studio.counter {} [partlyHidden] (0, [])
    rw [hsources] at hwritten
    exact hwritten
  · obtain ⟨nodes, hmirror, hpictures, htaken⟩ :=
      hmirrors.2.2.2.1 watcherOfTwo { screen := {} } 0 _ ⟨rfl, rfl, by decide, rfl⟩
    have hroots : watchingPartlyHidden.roots watcherOfTwo = [partlyHidden] := rfl
    have hids : (View.shown [partlyHidden]).map View.id = [7, 10] := by rfl
    rw [hroots] at hmirror hpictures htaken
    dsimp only at hpictures htaken
    rw [hsources] at hpictures htaken
    exact ⟨nodes, _, (Wireframe.ids_of_depicts hmirror).trans hids, hpictures, htaken⟩

end Recording

end SessionReplay
