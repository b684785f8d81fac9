import SessionReplay.Queue.Basic

/-!
# Items of a queue

What becomes of the single items of a queue when items are accepted or changed. Items are never taken
out of the books: what is once there stays there, until it is changed in its place.
-/

namespace SessionReplay

namespace Item

variable {f : Snapshot → Snapshot}

/-- Replacing a snapshot leaves alone when and in which view it was made. -/
@[simp] theorem data_mapSnapshot (f : Snapshot → Snapshot) (i : Item) :
    (i.mapSnapshot f).data = i.data := by
  unfold mapSnapshot
  split <;> rfl

/-- The nodes of a snapshot if they are attached; a batch of touches has none to wait for. -/
def nodes? (i : Item) : Option (List (Node Slot)) :=
  match i.content with
  | .snapshot s => s.nodes
  | .touch _ => some []

/-- The nodes of an item without nodes are none. -/
theorem nodes_eq (i : Item) : i.nodes = i.nodes?.getD [] := by
  obtain ⟨data, content⟩ := i
  cases content <;> rfl

/-- An item waits for its nodes as long as it has none. -/
theorem awaitsNodes_eq (i : Item) : i.awaitsNodes = i.nodes?.isNone := by
  obtain ⟨data, content⟩ := i
  cases content <;> rfl

/-- What leaves the nodes of snapshots alone leaves those of items alone. -/
theorem nodes?_mapSnapshot (hf : ∀ s, (f s).nodes = s.nodes) (i : Item) :
    (i.mapSnapshot f).nodes? = i.nodes? := by
  obtain ⟨data, content⟩ := i
  cases content with
  | touch records => rfl
  | snapshot s => exact hf s

/-- A snapshot that is replaced is still one. -/
theorem snapshot_mapSnapshot (f : Snapshot → Snapshot) {i : Item} {s : Snapshot}
    (h : i.content = .snapshot s) : (i.mapSnapshot f).content = .snapshot (f s) := by
  unfold mapSnapshot
  rw [h]

/-- What awaits nodes is a snapshot. -/
theorem snapshot_of_awaitsNodes {i : Item} (h : i.awaitsNodes = true) :
    ∃ s, i.content = .snapshot s := by
  obtain ⟨data, content⟩ := i
  cases content with
  | touch records => cases h
  | snapshot s => exact ⟨s, rfl⟩

/-- The nodes of a snapshot are those that are attached, or those that were there before. -/
theorem nodes_attachNodes (nodes : List (Node Slot)) (i : Item) :
    (i.attachNodes nodes).nodes = nodes ∨ (i.attachNodes nodes).nodes = i.nodes := by
  obtain ⟨data, content⟩ := i
  cases content with
  | touch records => exact .inr rfl
  | snapshot s =>
    change (if s.nodes.isNone then { s with nodes := some nodes } else s).nodes.getD [] = nodes ∨
      (if s.nodes.isNone then { s with nodes := some nodes } else s).nodes.getD [] = s.nodes.getD []
    split
    · exact .inl rfl
    · exact .inr rfl

/-- An item that awaits nodes gets those that are attached. -/
theorem nodes_attachNodes_of_awaitsNodes {i : Item} (h : i.awaitsNodes = true)
    (nodes : List (Node Slot)) : (i.attachNodes nodes).nodes = nodes := by
  obtain ⟨s, hs⟩ := snapshot_of_awaitsNodes h
  unfold awaitsNodes at h
  rw [hs] at h
  unfold Item.nodes attachNodes mapSnapshot
  rw [hs]
  dsimp only
  rw [if_pos h]
  rfl

/-- A snapshot that starts a picture counts one more. -/
theorem pendingJobs_startJob {item : Item} {snapshot : Snapshot}
    (h : item.content = .snapshot snapshot) :
    item.startJob.pendingJobs = item.pendingJobs + 1 := by
  unfold startJob mapSnapshot pendingJobs
  rw [h]

/-- Attaching nodes does not count. -/
theorem pendingJobs_attachNodes (nodes : List (Node Slot)) (item : Item) :
    (item.attachNodes nodes).pendingJobs = item.pendingJobs := by
  obtain ⟨data, content⟩ := item
  cases content with
  | touch records => rfl
  | snapshot s =>
    change (if s.nodes.isNone then { s with nodes := some nodes } else s).pendingJobs = s.pendingJobs
    split <;> rfl

/-- Only what is complete can be written. -/
theorem isReady_of_verdict {i : Item} {now maxDelay : Int} (h : i.verdict now maxDelay = .ready) :
    i.isReady = true := by
  unfold verdict at h
  split at h
  · cases h
  · split at h
    · cases h
    · split at h
      next hready => exact hready
      next => cases h

end Item

namespace Queue

/-! ## When the items were made -/

/-- When and in which views the items were made, in the order in which they were. -/
def data (q : Queue) : List ContextData := q.items.toList.map Item.data

/-- A new item brings its own data. -/
@[simp] theorem data_add (q : Queue) (i : Item) : (q.add i).data = q.data ++ [i.data] := by
  unfold data add
  rw [Array.toList_push, List.map_append, List.map_singleton]

/-- The next id is the place of the next item. -/
theorem nextId_eq (q : Queue) : q.nextId = q.data.length := by
  unfold nextId data
  rw [List.length_map, Array.length_toList]

/-- Changing an item leaves alone what the change keeps of every item. -/
theorem map_items_modify {α : Type} {g : Item → α} (q : Queue) (id : ItemId) {f : Item → Item}
    (hf : ∀ i, g (f i) = g i) : (q.modify id f).items.toList.map g = q.items.toList.map g := by
  unfold modify
  refine List.ext_getElem? fun n => ?_
  simp only [Array.toList_modify, List.getElem?_map, List.getElem?_modify]
  cases q.items.toList[n]? with
  | none => rfl
  | some i =>
    by_cases h : id = n
    · simp [h, hf i]
    · simp [h]

/-- Changing what an item holds leaves alone when and in which view it was made. -/
theorem data_modify (q : Queue) (id : ItemId) {f : Item → Item} (hf : ∀ i, (f i).data = i.data) :
    (q.modify id f).data = q.data :=
  q.map_items_modify id hf

/-- An item is known by when and in which view it was made, at the place of its id. -/
theorem data_getElem? {q : Queue} {id : ItemId} {item : Item} (h : q.item? id = some item) :
    q.data[id]? = some item.data := by
  unfold data
  rw [List.getElem?_map, Array.getElem?_toList]
  exact congrArg (Option.map Item.data) h

/-! ## Single items -/

variable {q q' q'' : Queue} {id i : ItemId} {item : Item}

/-- A new item has the next id. -/
theorem item?_add_self (q : Queue) (item : Item) : (q.add item).item? q.nextId = some item :=
  Array.getElem?_push_size

/-- Items keep their ids when another one is made. -/
theorem item?_add_of_some (h : q.item? id = some item) (new : Item) :
    (q.add new).item? id = some item := by
  obtain ⟨hlt, -⟩ := Array.getElem?_eq_some_iff.mp h
  exact (Array.getElem?_push_lt hlt).trans ((Array.getElem?_eq_getElem hlt).symm.trans h)

/-- An item is an old one, or it is the new one. -/
theorem item?_of_add {new : Item} (h : (q.add new).item? id = some item) :
    q.item? id = some item ∨ id = q.nextId ∧ item = new := by
  unfold item? add at h
  rw [Array.getElem?_push] at h
  split at h
  · next hid => exact .inr ⟨hid, (Option.some.inj h).symm⟩
  · exact .inl h

/-- The item that is changed is changed. -/
theorem item?_modify_self (q : Queue) (id : ItemId) (f : Item → Item) :
    (q.modify id f).item? id = (q.item? id).map f := by
  unfold item? modify
  rw [Array.getElem?_modify, if_pos rfl]

/-- The other items are left alone. -/
theorem item?_modify_of_ne (q : Queue) {id i : ItemId} (h : id ≠ i) (f : Item → Item) :
    (q.modify id f).item? i = q.item? i := by
  unfold item? modify
  rw [Array.getElem?_modify, if_neg h]

/-- Changing an item leaves no item out. -/
theorem item?_modify_of_some (h : q.item? i = some item) (id : ItemId) (f : Item → Item) :
    (q.modify id f).item? i = some item ∧ id ≠ i ∨
      (q.modify id f).item? i = some (f item) ∧ id = i := by
  by_cases hid : id = i
  · rw [hid, item?_modify_self, h]
    exact .inr ⟨rfl, rfl⟩
  · rw [item?_modify_of_ne q hid, h]
    exact .inl ⟨rfl, hid⟩

/-- Changing an item adds none. -/
theorem item?_of_modify {f : Item → Item} (h : (q.modify id f).item? i = some item) :
    q.item? i = some item ∧ id ≠ i ∨ ∃ old, q.item? i = some old ∧ item = f old ∧ id = i := by
  by_cases hid : id = i
  · rw [hid, item?_modify_self] at h
    obtain ⟨old, hold, rfl⟩ := Option.map_eq_some_iff.mp h
    exact .inr ⟨old, hold, rfl, hid⟩
  · rw [item?_modify_of_ne q hid] at h
    exact .inl ⟨h, hid⟩

/-- The items of a queue are there in another one, and further ones are batches of touches. -/
structure Joined (q q' : Queue) : Prop where
  /-- Items stay. -/
  stays : ∀ {id item}, q.item? id = some item → q'.item? id = some item
  /-- Further ones are batches of touches. -/
  joins : ∀ {id item}, q'.item? id = some item →
    q.item? id = some item ∨ ∃ records, item.content = .touch records

namespace Joined

/-- A queue with the same items was joined by nobody. -/
theorem of_items (h : q'.items = q.items) : q.Joined q' := by
  have hitem : ∀ id, q'.item? id = q.item? id := fun id => congrArg (·[id]?) h
  exact ⟨fun {id _} hfound => (hitem id).trans hfound,
    fun {id _} hfound => .inl ((hitem id).symm.trans hfound)⟩

/-- Nobody joins a queue that stays as it is. -/
theorem refl (q : Queue) : q.Joined q := .of_items rfl

/-- Items join one after the other. -/
theorem trans (h : q.Joined q') (h' : q'.Joined q'') : q.Joined q'' where
  stays hfound := h'.stays (h.stays hfound)
  joins hfound := by
    rcases h'.joins hfound with hfound | htouch
    · exact h.joins hfound
    · exact .inr htouch

end Joined

/-- Two queues have the same items, each with the same nodes. -/
def SameNodes (q q' : Queue) : Prop :=
  ∀ id, (q'.item? id).map Item.nodes? = (q.item? id).map Item.nodes?

namespace SameNodes

/-- With the same items there are the same nodes. -/
theorem of_items (h : q'.items = q.items) : q.SameNodes q' :=
  fun id => congrArg (fun items : Array Item => (items[id]?).map Item.nodes?) h

/-- Nodes that stay the same twice stay the same. -/
theorem trans (h : q.SameNodes q') (h' : q'.SameNodes q'') : q.SameNodes q'' :=
  fun id => (h' id).trans (h id)

/-- Counting pictures leaves the nodes alone. -/
theorem modify (q : Queue) (id : ItemId) {f : Snapshot → Snapshot}
    (hf : ∀ s, (f s).nodes = s.nodes) : q.SameNodes (q.modify id (Item.mapSnapshot f)) := by
  intro i
  by_cases hid : id = i
  · rw [hid, item?_modify_self, Option.map_map]
    exact congrArg ((q.item? i).map ·) (funext (Item.nodes?_mapSnapshot hf))
  · rw [item?_modify_of_ne q hid]

/-- Items were there before, with the same nodes. -/
theorem before (h : q.SameNodes q') (hitem : q'.item? id = some item) :
    ∃ old, q.item? id = some old ∧ old.nodes? = item.nodes? := by
  have hsame := h id
  rw [hitem] at hsame
  exact Option.map_eq_some_iff.mp hsame.symm

/-- Items stay, with the same nodes. -/
theorem after (h : q.SameNodes q') (hitem : q.item? id = some item) :
    ∃ new, q'.item? id = some new ∧ new.nodes? = item.nodes? := by
  have hsame := h id
  rw [hitem] at hsame
  exact Option.map_eq_some_iff.mp hsame

end SameNodes

end Queue

end SessionReplay
