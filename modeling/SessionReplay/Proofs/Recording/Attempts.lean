import SessionReplay.Proofs.Output.Arrivals
import SessionReplay.Proofs.Recording.Deeds

/-!
# Snapshot attempts

A snapshot attempt leaves windows, watchers and registrations as they are (`takeSnapshot_unmoved`).
It makes one item at most, and the nodes of that item are those of a walk over what the watcher's
windows show that are still there (`takeSnapshot_filled`); all other items keep their nodes.
-/

namespace SessionReplay

/-! ## What an attempt leaves alone -/

/-- An act that is about pictures leaves the nodes of all items alone. -/
theorem Act.Copying.sameNodes {a : Act} (h : a.Copying) (s : Station Output) :
    s.queue.SameNodes (s.act a).queue := by
  have hfinish : ∀ id, s.queue.SameNodes (s.modifyItem id Item.finishJob).queue :=
    fun id => .modify s.queue id fun _ => rfl
  cases a with
  | note event => exact .of_items rfl
  | hang gallery => exact .of_items rfl
  | startJob id => exact .modify s.queue id fun _ => rfl
  | finishJob id =>
    change s.queue.SameNodes (s.finishJob id).queue
    rcases s.finishJob_cases id with hfinished | ⟨-, hfinished⟩ <;> rw [hfinished]
    · rw [Station.queue_requestDrain]
      exact hfinish id
    · exact hfinish id
  | _ => exact h.elim

/-- Windows, watchers and registrations are the same. -/
structure Recording.Unmoved (r t : Recording) : Prop where
  /-- The windows. -/
  windows : t.windows = r.windows
  /-- The watchers. -/
  watchers : t.watchers = r.watchers
  /-- The registrations. -/
  registry : t.registry = r.registry
  /-- How views are described. -/
  mappers : t.mappers = r.mappers
  /-- Whether the recording has been stopped for good. -/
  stopped : t.stopped = r.stopped

namespace Recording

/-- Without any change nothing is moved. -/
theorem Unmoved.refl (r : Recording) : r.Unmoved r := ⟨rfl, rfl, rfl, rfl, rfl⟩

/-- Two changes that move nothing move nothing together. -/
theorem Unmoved.trans {r t u : Recording} (h : r.Unmoved t) (h' : t.Unmoved u) : r.Unmoved u :=
  ⟨h'.windows.trans h.windows, h'.watchers.trans h.watchers, h'.registry.trans h.registry,
    h'.mappers.trans h.mappers, h'.stopped.trans h.stopped⟩

/-- The same windows are there. -/
theorem Unmoved.window? {r t : Recording} (h : r.Unmoved t) : t.window? = r.window? := by
  funext w
  unfold Recording.window?
  rw [h.windows]

/-- The same over a list. -/
theorem Unmoved.foldl {α : Type} {f : Recording → α → Recording}
    (hf : ∀ r a, Unmoved r (f r a)) (as : List α) (r : Recording) : r.Unmoved (as.foldl f r) := by
  induction as generalizing r with
  | nil => exact .refl r
  | cons a as ih => exact (hf r a).trans (ih (f r a))

/-- The end of a copy moves nothing. -/
theorem endCopy_unmoved (r : Recording) (c : Copy) (result : CopyResult) :
    r.Unmoved (r.endCopy c result) := by
  cases result <;> exact ⟨rfl, rfl, rfl, rfl, rfl⟩

/-- Neither do pixels that are encoded. -/
theorem encode_unmoved (r : Recording) (c : Copy) (bitmap : Bitmap) :
    r.Unmoved (r.encode c bitmap) := by
  unfold encode
  split <;> exact ⟨rfl, rfl, rfl, rfl, rfl⟩

/-- Nor does anything else that ends on its own. -/
theorem complete_unmoved (r : Recording) (c : Completion) : r.Unmoved (r.complete c) := by
  cases c with
  | copy index result =>
    unfold complete answerCopy
    dsimp only
    split
    next => exact .refl r
    next c _ =>
      have hend := endCopy_unmoved { r with held := r.held.eraseIdx index } c result
      exact ⟨hend.windows, hend.watchers, hend.registry, hend.mappers, hend.stopped⟩
  | encoding index =>
    unfold complete encodeAt
    dsimp only
    split
    next => exact .refl r
    next c bitmap _ =>
      have hencode := encode_unmoved { r with encoding := r.encoding.eraseIdx index } c bitmap
      exact ⟨hencode.windows, hencode.watchers, hencode.registry, hencode.mappers, hencode.stopped⟩

/-- A copy that is asked for moves nothing. -/
theorem ask_unmoved (r : Recording) (c : Copy) : r.Unmoved (r.ask c) := by
  unfold ask
  split
  next result _ => exact endCopy_unmoved r c result
  next => exact ⟨rfl, rfl, rfl, rfl, rfl⟩

/-- Neither does one that is asked for while other things end. -/
theorem requestNext_unmoved (r : Recording) (c : Copy) : r.Unmoved (r.requestNext c) := by
  let started := r.mapStation (·.startJob c.item)
  have hstart : r.Unmoved started := ⟨rfl, rfl, rfl, rfl, rfl⟩
  have hask := hstart.trans (ask_unmoved started c)
  unfold requestNext capture
  dsimp only
  split
  · exact hask
  next ended later _ =>
    have hended := Unmoved.foldl complete_unmoved ended { started.ask c with interludes := later }
    exact hask.trans
      ⟨hended.windows, hended.watchers, hended.registry, hended.mappers, hended.stopped⟩

/-- Nor does an item that is filled. -/
theorem fillSnapshot_unmoved (r : Recording) (item : ItemId) (screen : ScreenInfo)
    (windows : List Window) : r.Unmoved (r.fillSnapshot item screen windows) := by
  let sketches := View.walkAll r.mappers screen (windows.filterMap Window.view)
  let extended := r.mapGallery
    (·.extend ((Node.numberAll r.gallery.next sketches).2 - r.gallery.next))
  have hrequests := Unmoved.foldl requestNext_unmoved (copies sketches r.gallery.next item) extended
  have hextended : r.Unmoved extended := ⟨rfl, rfl, rfl, rfl, rfl⟩
  rw [fillSnapshot_eq]
  exact (hextended.trans hrequests).trans ⟨rfl, rfl, rfl, rfl, rfl⟩

/-- **A snapshot attempt leaves windows, watchers and registrations as they are.** -/
theorem takeSnapshot_unmoved (r : Recording) (w : WatcherRef) : r.Unmoved (r.takeSnapshot w) := by
  unfold takeSnapshot
  split
  next => exact .refl r
  next watcher _ =>
    split
    next => exact ⟨rfl, rfl, rfl, rfl, rfl⟩
    next owner _ =>
      dsimp only
      split
      · exact .refl r
      · split
        next station _ => exact ⟨rfl, rfl, rfl, rfl, rfl⟩
        next item station _ =>
          have hfill := fillSnapshot_unmoved { r with
            owners := r.owners.setIfInBounds watcher.owner
              (some { owner with asked := owner.asked + 1 })
            station := station } item owner.screen (watcher.windows.filterMap r.window?)
          exact ⟨hfill.windows, hfill.watchers, hfill.registry, hfill.mappers, hfill.stopped⟩

end Recording

/-! ## What an attempt shows -/

/-- An item shows some windows: its nodes are those of a walk over the windows' views. -/
def Item.Pictures (i : Item) (mappers : MapperTable) (windows : List Window) : Prop :=
  ∃ screen next, i.nodes
    = (Node.numberAll next (View.walkAll mappers screen (windows.filterMap Window.view))).1

namespace Recording

open Station

/-- While the copies for a snapshot are asked for, all items keep their nodes. -/
theorem requests_sameNodes (cs : List Copy) (r : Recording) :
    r.station.queue.SameNodes (cs.foldl requestNext r).station.queue :=
  acts_induction (P := fun s => r.station.queue.SameNodes s.queue)
    (fun _ s ha hs => hs.trans (ha.sameNodes s)) (.of_items rfl)
    (foldl_acts (requestNext_acts fun _ ha => ha) cs r)

/-- The nodes of an item that is filled are those of the walk, and other items keep theirs. -/
theorem fillSnapshot_filled (r : Recording) {id i : ItemId} {item : Item} (screen : ScreenInfo)
    (windows : List Window) (hawaits : ∃ new, r.station.queue.item? id = some new ∧
      new.awaitsNodes = true)
    (h : (r.fillSnapshot id screen windows).station.queue.item? i = some item) :
    (i ≠ id ∧ ∃ old, r.station.queue.item? i = some old ∧ item.nodes = old.nodes) ∨
      i = id ∧ item.Pictures r.mappers windows := by
  let sketches := View.walkAll r.mappers screen (windows.filterMap Window.view)
  let numbered := Node.numberAll r.gallery.next sketches
  let asked := (copies sketches r.gallery.next id).foldl requestNext
    (r.mapGallery (·.extend (numbered.2 - r.gallery.next)))
  have hsame : r.station.queue.SameNodes asked.station.queue :=
    requests_sameNodes _ (r.mapGallery (·.extend (numbered.2 - r.gallery.next)))
  have hqueue : (r.fillSnapshot id screen windows).station.queue
      = asked.station.queue.modify id (Item.attachNodes numbered.1) := by
    rw [fillSnapshot_eq]
    exact queue_requestDrain (asked.station.attachNodes id numbered.1).2
  rw [hqueue] at h
  rcases Queue.item?_of_modify h with ⟨hfound, hne⟩ | ⟨old, hold, rfl, rfl⟩
  · obtain ⟨old, hold, hnodes⟩ := hsame.before hfound
    refine .inl ⟨fun heq => hne heq.symm, old, hold, ?_⟩
    rw [item.nodes_eq, old.nodes_eq, hnodes]
  · obtain ⟨new, hnew, hawaits⟩ := hawaits
    obtain ⟨new', hnew', hnodes⟩ := hsame.before hold
    obtain rfl : new = new' := Option.some.inj (hnew.symm.trans hnew')
    rw [new.awaitsNodes_eq, hnodes, ← old.awaitsNodes_eq] at hawaits
    exact .inr ⟨rfl, screen, r.gallery.next, Item.nodes_attachNodes_of_awaitsNodes hawaits _⟩

/-- **What a snapshot attempt shows.** An item that was not there before, or has got its nodes now,
shows those of the watcher's windows that are still there. -/
theorem takeSnapshot_filled (r : Recording) (w : WatcherRef) {i : ItemId} {item : Item}
    (h : (r.takeSnapshot w).station.queue.item? i = some item) :
    (∃ old, r.station.queue.item? i = some old ∧ item.nodes = old.nodes) ∨
      ∃ watcher, r.watchers[w]? = some watcher ∧
        item.Pictures r.mappers (watcher.windows.filterMap r.window?) := by
  unfold takeSnapshot at h
  split at h
  next => exact .inl ⟨item, h, rfl⟩
  next watcher hwatcher =>
    split at h
    next => exact .inl ⟨item, h, rfl⟩
    next owner _ =>
      dsimp only at h
      split at h
      next => exact .inl ⟨item, h, rfl⟩
      next =>
        split at h
        next station hrefused =>
          have hqueue : station.queue = r.station.queue := by
            rcases r.station.addItem_cases (.snapshot { screen := owner.screen }) with
              ⟨view, -, hadd⟩ | ⟨-, event, hadd⟩
            · cases hadd.symm.trans hrefused
            · cases hadd.symm.trans hrefused
              rfl
          exact .inl ⟨item, hqueue ▸ h, rfl⟩
        next id station haccepted =>
          obtain ⟨-, new, hnew, hawaits, -, -, hadded⟩ := addSnapshot_frame haccepted
          rcases fillSnapshot_filled { r with
            owners := r.owners.setIfInBounds watcher.owner
              (some { owner with asked := owner.asked + 1 })
            station := station } owner.screen _ ⟨new, hnew, hawaits⟩ h with
            ⟨hne, old, hold, hnodes⟩ | ⟨-, hpictures⟩
          · exact .inl ⟨old, (hadded hold).resolve_right fun heq => hne heq.1, hnodes⟩
          · exact .inr ⟨watcher, hwatcher, hpictures⟩

end Recording

/-! ## What other deeds leave alone -/

/-- A deed that is neither a snapshot attempt nor about windows and watchers. -/
def Deed.Background : Deed → Prop
  | .snapshot _ => False
  | .surround _ => False
  | _ => True

namespace Recording

open Station

/-- While copies and encodings end, all items keep their nodes, and by any other deed but a snapshot
attempt touches join the queue at most. -/
theorem perform_keeps (r : Recording) {d : Deed} (hd : ∀ w, d ≠ .snapshot w) :
    (∃ c, d = .complete c ∧ r.station.queue.SameNodes (r.perform d).station.queue) ∨
      r.station.queue.Joined (r.perform d).station.queue := by
  cases d with
  | snapshot w => exact absurd rfl (hd w)
  | complete c =>
    exact .inl ⟨c, rfl, acts_induction (P := fun s => r.station.queue.SameNodes s.queue)
      (fun _ s ha hs => hs.trans (ha.sameNodes s)) (.of_items rfl)
      (complete_acts (fun _ ha => ha) r c)⟩
  | touch records => exact .inr (r.station.recordTouches_joined records)
  | startWorker =>
    have hqueue : (r.station.startWorker).2.queue = r.station.queue := by
      unfold Station.startWorker
      split <;> rfl
    exact .inr (.of_items (congrArg Queue.items hqueue))
  | flush =>
    have hqueue : (r.station.call .sendFlush).queue = r.station.queue := by
      rcases r.station.call_sendFlush_cases with ⟨-, h⟩ | ⟨-, h⟩ <;> rw [h]
    exact .inr (.of_items (congrArg Queue.items hqueue))
  | shutdown =>
    have hqueue : (r.perform .shutdown).station.queue = r.station.queue := by
      unfold perform shutdown Station.sendShutdown Station.send
      dsimp only
      cases r.station.worker.takesCommands <;> rfl
    exact .inr (.of_items (congrArg Queue.items hqueue))
  | _ => exact .inr (.refl _)

/-- Deeds in the background leave windows, watchers and registrations as they are. -/
theorem perform_unmoved (r : Recording) {d : Deed} (hd : d.Background) :
    r.Unmoved (r.perform d) := by
  cases d with
  | snapshot w => exact hd.elim
  | surround other => exact hd.elim
  | complete c => exact complete_unmoved r c
  | shutdown =>
    change r.Unmoved r.shutdown.2
    unfold shutdown
    split <;> exact ⟨rfl, rfl, rfl, rfl, rfl⟩
  | _ => exact ⟨rfl, rfl, rfl, rfl, rfl⟩

end Recording

end SessionReplay
