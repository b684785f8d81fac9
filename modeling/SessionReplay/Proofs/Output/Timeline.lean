import SessionReplay.Proofs.Output.Arrivals
import SessionReplay.Proofs.Output.Decisions
import SessionReplay.Proofs.Station.Chain

/-!
# The order of what is written

A snapshot is dated when its item is made, long before it is written; by then other items may have
been made, written or dropped. Still what is written is dated in order (`Timely`): what was written,
what waits and the present time follow each other, as long as the clock does not go back. The touches
that were written are, batch by batch, some of those that were accepted, and those that wait come
after them.

* `process_tells`: what is written for an item is dated like the item, or is its batch of touches.
* `Timely.joins`: items that are accepted are dated last.
* `Timely.turn`: what the worker writes for the head of the queue is dated before what waits behind it,
  and is not too old.
-/

namespace SessionReplay

/-- Records that all tell of pointers. -/
def OfPointers {ι : Type} (records : List (Record ι)) : Prop := ∀ r ∈ records, r.type = 11

/-- What of an item stays as it is while it waits. -/
structure Brief where
  /-- When it was made. -/
  time : Int
  /-- Its batch of touches, if it is one. -/
  touches : Option (List (Record Slot))

namespace Item

/-- The batch of touches that an item is. -/
def touches? (i : Item) : Option (List (Record Slot)) :=
  match i.content with
  | .snapshot _ => none
  | .touch records => some records

/-- What of the item stays as it is. -/
def brief (i : Item) : Brief := ⟨i.data.timestamp, i.touches?⟩

/-- A change of a snapshot leaves alone what stays as it is. -/
@[simp] theorem brief_mapSnapshot (f : Snapshot → Snapshot) (i : Item) :
    (i.mapSnapshot f).brief = i.brief := by
  obtain ⟨data, content⟩ := i
  cases content <;> rfl

/-- What can be written for an item: of a snapshot, records of its own time that tell of no pointer; of
a batch of touches that batch, once at most. -/
def Tells (i : Item) (bs : List (Batch Slot)) : Prop :=
  (i.touches? = none ∧
    ∀ b ∈ bs, ∀ r ∈ b.records, r.type ≠ 11 ∧ r.timestamp = i.data.timestamp) ∨
  ∃ records, i.touches? = some records ∧ bs <+: [⟨i.data.current, records⟩]

/-- A report of a snapshot is dated like the snapshot. -/
theorem Reports.dated {i : Item} {b : Batch Slot} (h : i.Reports b) :
    ∀ r ∈ b.records, r.type ≠ 11 ∧ r.timestamp = i.data.timestamp := by
  obtain ⟨-, rs, hannounced, hrecords⟩ := h
  rw [hrecords]
  refine List.forall_mem_append.mpr ⟨?_, List.forall_mem_singleton.mpr ⟨nofun, rfl⟩⟩
  rcases hannounced with rfl | ⟨screen, rfl⟩
  · exact fun _ hr => (List.not_mem_nil hr).elim
  · exact List.forall_mem_cons.mpr ⟨⟨nofun, rfl⟩, List.forall_mem_singleton.mpr ⟨nofun, rfl⟩⟩

end Item

/-- **What is written for an item, and when that was.** -/
theorem Station.process_tells (s : Station Output) (item : Item) :
    ∃ bs history, Adds bs history s.output (process item s).1.output ∧ item.Tells bs := by
  cases hcontent : item.content with
  | touch records =>
    refine ⟨_, _, process_touch_adds s hcontent, .inr ⟨records, ?_, Storage.keeps_prefix _ _⟩⟩
    unfold Item.touches?
    rw [hcontent]
  | snapshot snapshot =>
    obtain ⟨bs, history, hadds, hwrites, -⟩ := s.process_writes item
    refine ⟨bs, history, hadds, .inl ⟨?_, ?_⟩⟩
    · unfold Item.touches?
      rw [hcontent]
    · cases hwrites with
      | touch records _ content => cases hcontent.symm.trans content
      | snapshot _ farewells reports _ ends tells =>
        refine List.forall_mem_append.mpr ⟨fun b hb => ?_, fun b hb => ?_⟩
        · rcases ends with rfl | ⟨-, rfl⟩
          · cases hb
          · rw [List.mem_singleton.mp hb]
            exact List.forall_mem_singleton.mpr ⟨nofun, rfl⟩
        · rcases tells with rfl | ⟨report, hreports, rfl⟩
          · cases hb
          · rw [List.mem_singleton.mp hb]
            exact hreports.dated

/-! ## Items that were accepted -/

namespace Queue

/-- What stays as it is of the items, in the order in which they were accepted. -/
def briefs (q : Queue) : List Brief := q.items.toList.map Item.brief

/-- The batches of touches that were accepted, in order. -/
def touches (q : Queue) : List (List (Record Slot)) := q.briefs.filterMap Brief.touches

/-- What stays as it is of the items that wait. -/
def pending (q : Queue) : List Brief := q.briefs.drop (q.briefs.length - q.waiting.length)

/-- A new item comes last. -/
@[simp] theorem briefs_add (q : Queue) (i : Item) : (q.add i).briefs = q.briefs ++ [i.brief] := by
  unfold briefs add
  rw [Array.toList_push, List.map_append, List.map_singleton]

/-- Changing the snapshot of an item is no matter. -/
theorem briefs_modify (q : Queue) (id : ItemId) (f : Snapshot → Snapshot) :
    (q.modify id (Item.mapSnapshot f)).briefs = q.briefs :=
  q.map_items_modify id (Item.brief_mapSnapshot f)

/-- There is as much of it as there are items. -/
theorem length_briefs (q : Queue) : q.briefs.length = q.data.length := by
  unfold briefs data
  rw [List.length_map, List.length_map]

/-- An item that is accepted waits behind the others. -/
theorem pending_accept (q : Queue) (i : Item) (id : ItemId) :
    ((q.add i).append id).pending = q.pending ++ [i.brief] := by
  have hbriefs : ((q.add i).append id).briefs = q.briefs ++ [i.brief] := q.briefs_add i
  unfold pending
  rw [hbriefs, waiting_append, waiting_add, List.length_append, List.length_append,
    List.length_singleton, List.length_singleton, Nat.add_sub_add_right,
    List.drop_append_of_le_length (Nat.sub_le _ _)]

end Queue

namespace Station

variable {σ : Type} {capacity : Nat}

/-- The head is the first of what waits. -/
theorem Chained.pending_of_head {s : Station σ} (h : s.Chained capacity) {id : ItemId}
    {item : Item} (head : s.queue.head? = some (id, item)) :
    s.queue.pending = item.brief :: s.takeHead.queue.pending := by
  obtain ⟨n, hn, hwaits⟩ := h.waits
  obtain ⟨hid, hitem⟩ := Queue.head?_eq_some_iff.mp head
  rw [← Queue.length_briefs] at hn hwaits
  have hlt : n < s.queue.briefs.length := by
    rcases Nat.eq_or_lt_of_le hn with rfl | hlt
    · rw [hwaits, Nat.sub_self, List.range'_zero] at hid
      cases hid
    · exact hlt
  obtain rfl : n = id := by
    rw [hwaits, List.head?_range', if_neg (by omega)] at hid
    exact Option.some.inj hid
  have hbrief : s.queue.briefs[n] = item.brief := by
    refine (List.getElem_eq_iff hlt).mpr ?_
    unfold Queue.briefs
    rw [List.getElem?_map, Array.getElem?_toList]
    exact congrArg (Option.map Item.brief) hitem
  have hwaiting : s.queue.briefs.length - s.queue.waiting.length = n := by
    rw [hwaits, List.length_range']
    omega
  have htaken : s.takeHead.queue.briefs.length - s.takeHead.queue.waiting.length = n + 1 := by
    change s.queue.briefs.length - s.queue.waiting.tail.length = n + 1
    rw [List.length_tail, hwaits, List.length_range']
    omega
  change s.queue.briefs.drop _ = item.brief :: s.queue.briefs.drop _
  rw [hwaiting, htaken, ← hbrief]
  exact List.drop_eq_getElem_cons hlt

/-- Between the two stations, at one time, items were accepted at most, and touches among them only of
one kind. -/
structure Joins (ok : List (Record Slot) → Prop) (s t : Station σ) : Prop where
  /-- It is the same time. -/
  clock : t.clock = s.clock
  /-- Items may become as old as before. -/
  delay : t.queue.maxItemDelay = s.queue.maxItemDelay
  /-- Some items were accepted. -/
  items : ∃ bs, t.queue.briefs = s.queue.briefs ++ bs ∧ t.queue.pending = s.queue.pending ++ bs ∧
    ∀ b ∈ bs, b.time = s.clock ∧ ∀ records ∈ b.touches, ok records

namespace Joins

variable {ok : List (Record Slot) → Prop} {s t u : Station σ}

/-- Nothing is accepted where the items and the clock stay. -/
theorem of_eq (hclock : t.clock = s.clock) (hqueue : t.queue = s.queue) : Joins ok s t :=
  ⟨hclock, by rw [hqueue], [], by rw [hqueue, List.append_nil], by rw [hqueue, List.append_nil],
    fun _ hb => (List.not_mem_nil hb).elim⟩

/-- Nobody joins a station that stays as it is. -/
theorem refl (s : Station σ) : Joins ok s s := of_eq rfl rfl

/-- Items join one after the other. -/
theorem trans (h : Joins ok s t) (h' : Joins ok t u) : Joins ok s u := by
  obtain ⟨bs, hbriefs, hpending, hnew⟩ := h.items
  obtain ⟨bs', hbriefs', hpending', hnew'⟩ := h'.items
  rw [h.clock] at hnew'
  exact ⟨h'.clock.trans h.clock, h'.delay.trans h.delay, bs ++ bs',
    by rw [hbriefs', hbriefs, List.append_assoc], by rw [hpending', hpending, List.append_assoc],
    List.forall_mem_append.mpr ⟨hnew, hnew'⟩⟩

/-- An item is dated when it is made. -/
theorem addItem (s : Station σ) {content : ItemContent}
    (hok : ∀ records, content = .touch records → ok records) :
    Joins ok s (s.addItem content).2 := by
  rcases s.addItem_cases content with ⟨view, -, hadd⟩ | ⟨-, event, hadd⟩
  · rw [hadd]
    refine ⟨rfl, rfl, [(s.newItem view content).brief], Queue.briefs_add _ _,
      Queue.pending_accept _ _ _, List.forall_mem_singleton.mpr ⟨rfl, ?_⟩⟩
    intro records hrecords
    cases content with
    | snapshot snapshot => cases hrecords
    | touch _ => exact hok records (congrArg ItemContent.touch (Option.some.inj hrecords))
  · rw [hadd]
    exact of_eq rfl rfl

/-- A request for a drain lets nobody join. -/
theorem requestDrain (s : Station σ) : Joins ok s s.requestDrain := by
  obtain ⟨_, _, _, h⟩ := s.requestDrain_eq
  rw [h]
  exact of_eq rfl rfl

/-- Neither does a change of a snapshot. -/
theorem modifyItem (s : Station σ) (id : ItemId) (f : Snapshot → Snapshot) :
    Joins ok s (s.modifyItem id (Item.mapSnapshot f)) := by
  have hbriefs := Queue.briefs_modify s.queue id f
  refine ⟨rfl, rfl, [], hbriefs.trans (List.append_nil _).symm, ?_,
    fun _ hb => (List.not_mem_nil hb).elim⟩
  change (s.queue.modify id (Item.mapSnapshot f)).pending = s.queue.pending ++ []
  rw [Queue.pending, hbriefs, List.append_nil]
  rfl

/-- Touches that are reported join at most. -/
theorem recordTouches (s : Station σ) {records : List (Record Slot)} (hok : ok records) :
    Joins ok s (s.recordTouches records).2 := by
  have hadd : Joins ok s (s.addTouches records).2 :=
    addItem s fun _ heq => ItemContent.touch.inj heq ▸ hok
  rcases s.recordTouches_cases records with ⟨-, h⟩ | ⟨-, h⟩ <;> rw [h]
  · exact hadd.trans (requestDrain _)
  · exact hadd

/-- While an item is processed, the host's touches are accepted at most. -/
theorem process {s : Station Output} (h : s.output.storage.Foresees ok) (item : Item) :
    Joins ok s (process item s).1 := by
  refine chores_induction (P := Joins ok s) (fun t u hchore ht => ht.trans ?_) (.refl s)
    (process_chores h item)
  cases hchore with
  | write output log => exact of_eq rfl rfl
  | record records reported => exact recordTouches t reported

/-- Touches that are accepted come after those that were, and are of the one kind. -/
theorem touches (h : Joins ok s t) :
    ∃ new, t.queue.touches = s.queue.touches ++ new ∧ ∀ records ∈ new, ok records := by
  obtain ⟨bs, hbriefs, -, hnew⟩ := h.items
  refine ⟨bs.filterMap Brief.touches, ?_, fun records hmem => ?_⟩
  · unfold Queue.touches
    rw [hbriefs, List.filterMap_append]
  · obtain ⟨b, hb, hrecords⟩ := List.mem_filterMap.mp hmem
    exact (hnew b hb).2 records hrecords

/-- If only touches of the one kind were accepted before, only such touches are accepted. -/
theorem accepted (h : Joins ok s t) (hs : ∀ records ∈ s.queue.touches, ok records) :
    ∀ records ∈ t.queue.touches, ok records := by
  obtain ⟨new, htouches, hnew⟩ := h.touches
  rw [htouches]
  exact List.forall_mem_append.mpr ⟨hs, hnew⟩

end Joins

end Station

/-! ## What was written -/

/-- What was written, record by record. -/
def Storage.records (s : Storage) : List (Record Picture) :=
  s.written.toList.flatMap fun w => w.resolved.records

/-- What is written comes after what was written before. -/
theorem Adds.records {bs : List (Batch Slot)} {history : ScreenHistory} {s t : Output}
    (h : Adds bs history s t) : t.storage.records = s.storage.records
      ++ (bs.flatMap Batch.records).map (Record.map s.gallery.picture?) := by
  unfold Storage.records
  rw [h.written, List.flatMap_append, List.flatMap_map, List.map_flatMap]
  rfl

/-- Records other than of pointers. -/
def others (rs : List (Record Picture)) : List (Record Picture) := rs.filter (·.type != 11)

/-- Records of pointers. -/
def pointers (rs : List (Record Picture)) : List (Record Picture) := rs.filter (·.type == 11)

/-- What the pictures are does not matter for the type of a record. -/
theorem Record.type_map {ι κ : Type} (f : ι → κ) (r : Record ι) : (r.map f).type = r.type := by
  obtain ⟨time, content⟩ := r
  cases content <;> rfl

/-- A record of a pointer has no pictures. -/
theorem Record.map_of_pointer {ι κ : Type} {r : Record ι} (h : r.type = 11) (f g : ι → κ) :
    r.map f = r.map g := by
  obtain ⟨time, content⟩ := r
  cases content with
  | pointer event => rfl
  | _ => cases h

/-- Of a batch of touches there is nothing but records of pointers. -/
theorem pointers_map {records : List (Record Slot)} (h : OfPointers records)
    (f : Slot → Picture) :
    pointers (records.map (Record.map f)) = records.map (Record.map fun _ => none) := by
  have htype : ∀ r ∈ records.map (Record.map f), (r.type == 11) = true := by
    rintro _ hr
    obtain ⟨r, hmem, rfl⟩ := List.mem_map.mp hr
    rw [Record.type_map, h r hmem]
    rfl
  rw [pointers, List.filter_eq_self.mpr htype]
  exact List.map_congr_left fun r hr => Record.map_of_pointer (h r hr) _ _

namespace Item

variable {i : Item} {bs : List (Batch Slot)}

/-- Nothing need be written for an item. -/
theorem Tells.nil (i : Item) : i.Tells [] := by
  unfold Tells
  cases i.touches? with
  | none => exact .inl ⟨rfl, fun _ hb => (List.not_mem_nil hb).elim⟩
  | some records => exact .inr ⟨records, rfl, List.nil_prefix⟩

/-- **What is written for an item, record by record**: if its touches tell of pointers, other records
are dated like the item, and the touches are written at once or not at all. -/
theorem Tells.written (h : i.Tells bs) (f : Slot → Picture)
    (hpointers : ∀ records ∈ i.touches?, OfPointers records) :
    (∀ r ∈ (bs.flatMap Batch.records).map (Record.map f), r.type ≠ 11 →
      r.timestamp = i.data.timestamp) ∧
    ∃ new : List (List (Record Slot)), new.Sublist i.touches?.toList ∧
      pointers ((bs.flatMap Batch.records).map (Record.map f))
        = new.flatten.map (Record.map fun _ => none) := by
  rcases h with ⟨-, hdated⟩ | ⟨records, htouches, hprefix⟩
  · have hall : ∀ r ∈ (bs.flatMap Batch.records).map (Record.map f),
        r.type ≠ 11 ∧ r.timestamp = i.data.timestamp := by
      intro _ hmem
      obtain ⟨r, hr, rfl⟩ := List.mem_map.mp hmem
      obtain ⟨b, hb, hin⟩ := List.mem_flatMap.mp hr
      rw [Record.type_map]
      exact hdated b hb r hin
    refine ⟨fun r hr _ => (hall r hr).2, [], List.nil_sublist _, List.filter_eq_nil_iff.mpr ?_⟩
    intro r hr htype
    exact (hall r hr).1 (beq_iff_eq.mp htype)
  · rw [htouches]
    have honly := hpointers records htouches
    rcases eq_nil_or_singleton_of_isPrefix hprefix with rfl | rfl
    · exact ⟨fun r hr => (List.not_mem_nil hr).elim, [], List.nil_sublist _, rfl⟩
    · rw [List.flatMap_singleton]
      refine ⟨fun r hmem htype => absurd ?_ htype, [records], .refl _, ?_⟩
      · obtain ⟨r, hr, rfl⟩ := List.mem_map.mp hmem
        rw [Record.type_map]
        exact honly r hr
      · rw [List.flatten_singleton]
        exact pointers_map honly f

/-- An item that is processed is not too old. -/
theorem fresh_of_verdict {now maxDelay : Int} (h : i.verdict now maxDelay = .ready) :
    elapsed i.data.timestamp now ≤ maxDelay := by
  unfold verdict at h
  split at h
  · cases h
  · next hyoung =>
    unfold isTooOld at hyoung
    simpa using hyoung

end Item

namespace Station

/-- What was written, what waits and the present follow each other, and the touches that were written
are some of those that were accepted. -/
structure Timely (s : Station Output) : Prop where
  /-- What was written is dated in order, then what waits, and then the present. -/
  ordered : ((others s.output.storage.records).map Record.timestamp ++ s.queue.pending.map Brief.time
    ++ [s.clock]).Pairwise (· ≤ ·)
  /-- The touches that were written, and after them those that wait, are some of those accepted. -/
  touched : ∃ kept, pointers s.output.storage.records = kept.flatten.map (Record.map fun _ => none) ∧
    (kept ++ s.queue.pending.filterMap Brief.touches).Sublist s.queue.touches
  /-- Only touches were accepted as such. -/
  accepted : ∀ records ∈ s.queue.touches, OfPointers records
  /-- And so will be those that the host is going to report. -/
  foreseen : s.output.storage.Foresees OfPointers

/-- Between the two stations, at one time, the worker wrote something in a drain that goes by a given time,
and none of it too old. -/
structure Punctual (now : Int) (s t : Station Output) : Prop where
  /-- It is the same time. -/
  clock : t.clock = s.clock
  /-- Items may become as old as before. -/
  delay : t.queue.maxItemDelay = s.queue.maxItemDelay
  /-- What was written is dated before the present, and not too long before the time of the drain. -/
  fresh : ∃ rs, t.output.storage.records = s.output.storage.records ++ rs ∧
    ∀ r ∈ rs, r.type ≠ 11 →
      r.timestamp ≤ s.clock ∧ elapsed r.timestamp now ≤ s.queue.maxItemDelay

/-- Nothing is written where the output stays. -/
theorem Punctual.of_eq {now : Int} {s t : Station Output} (hclock : t.clock = s.clock)
    (hdelay : t.queue.maxItemDelay = s.queue.maxItemDelay) (houtput : t.output = s.output) :
    Punctual now s t :=
  ⟨hclock, hdelay, [], by rw [houtput, List.append_nil], fun _ hr => (List.not_mem_nil hr).elim⟩

namespace Timely

variable {s t : Station Output}

/-- Numbers that are equal to one in an ordered list can stand in its place. -/
theorem pairwise_replace {as bs cs : List Int} {x : Int} (h : (as ++ x :: cs).Pairwise (· ≤ ·))
    (hbs : ∀ y ∈ bs, y = x) : (as ++ (bs ++ cs)).Pairwise (· ≤ ·) := by
  obtain ⟨has, hcs, hacross⟩ := List.pairwise_append.mp h
  obtain ⟨hx, hcs⟩ := List.pairwise_cons.mp hcs
  refine List.pairwise_append.mpr ⟨has, List.pairwise_append.mpr ⟨?_, hcs, ?_⟩, ?_⟩
  · refine List.pairwise_of_forall_mem_list fun y hy z hz => ?_
    exact Int.le_of_eq ((hbs y hy).trans (hbs z hz).symm)
  · intro y hy z hz
    exact hbs y hy ▸ hx z hz
  · intro a ha y hy
    rcases List.mem_append.mp hy with hy | hy
    · exact hbs y hy ▸ hacross a ha x List.mem_cons_self
    · exact hacross a ha y (List.mem_cons_of_mem _ hy)

/-- What waits was made before the present. -/
theorem pending_le (h : s.Timely) : ∀ b ∈ s.queue.pending, b.time ≤ s.clock := by
  intro b hb
  exact (List.pairwise_append.mp h.ordered).2.2 _
    (List.mem_append_right _ (List.mem_map_of_mem hb)) _ (List.mem_singleton_self _)

/-- If the head of the queue is touches, they tell of pointers. -/
theorem pointers_of_head {capacity : Nat} (h : s.Timely) (hchained : s.Chained capacity)
    {id : ItemId} {item : Item} (head : s.queue.head? = some (id, item)) :
    ∀ records ∈ item.touches?, OfPointers records := by
  intro records hrecords
  have hbrief : item.brief ∈ s.queue.briefs :=
    List.mem_of_mem_drop (hchained.pending_of_head head ▸ List.mem_cons_self)
  exact h.accepted records (List.mem_filterMap.mpr ⟨item.brief, hbrief, hrecords⟩)

/-- Nothing changes where the items, the clock and the output stay. -/
theorem congr (h : s.Timely) (hclock : t.clock = s.clock) (hqueue : t.queue = s.queue)
    (houtput : t.output = s.output) : t.Timely where
  ordered := by
    rw [hclock, hqueue, houtput]
    exact h.ordered
  touched := by
    rw [hqueue, houtput]
    exact h.touched
  accepted := hqueue ▸ h.accepted
  foreseen := houtput ▸ h.foreseen

/-- The clock can go on. -/
theorem setClock (h : s.Timely) {millis : Int} (hle : s.clock ≤ millis) :
    Timely { s with clock := millis } where
  ordered := by
    obtain ⟨hbefore, -, hlast⟩ := List.pairwise_append.mp h.ordered
    refine List.pairwise_append.mpr ⟨hbefore, List.pairwise_singleton _ _, fun x hx y hy => ?_⟩
    rw [List.mem_singleton.mp hy]
    exact Int.le_trans (hlast x hx _ (List.mem_singleton_self _)) hle
  touched := h.touched
  accepted := h.accepted
  foreseen := h.foreseen

/-- **Items that are accepted are dated last**, and touches among them come last. -/
theorem joins (h : s.Timely) (hjoins : Joins OfPointers s t)
    (hwritten : t.output.storage.written = s.output.storage.written)
    (hforeseen : t.output.storage.Foresees OfPointers) : t.Timely := by
  obtain ⟨bs, hbriefs, hpending, hnew⟩ := hjoins.items
  have hrecords : t.output.storage.records = s.output.storage.records := by
    unfold Storage.records
    rw [hwritten]
  have htouches : t.queue.touches = s.queue.touches ++ bs.filterMap Brief.touches := by
    unfold Queue.touches
    rw [hbriefs, List.filterMap_append]
  refine ⟨?ordered, ?touched, hjoins.accepted h.accepted, hforeseen⟩
  case ordered =>
    have hnow : ∀ x ∈ bs.map Brief.time ++ [s.clock], x = s.clock := by
      refine List.forall_mem_append.mpr ⟨fun x hx => ?_, List.forall_mem_singleton.mpr rfl⟩
      obtain ⟨b, hb, rfl⟩ := List.mem_map.mp hx
      exact (hnew b hb).1
    have hordered := pairwise_replace h.ordered hnow
    rw [List.append_nil, ← List.append_assoc, List.append_assoc _ _ (bs.map Brief.time),
      ← List.map_append, ← hpending] at hordered
    rw [hrecords, hjoins.clock]
    exact hordered
  case touched =>
    obtain ⟨kept, hkept, hsublist⟩ := h.touched
    refine ⟨kept, hrecords ▸ hkept, ?_⟩
    rw [hpending, htouches, List.filterMap_append, ← List.append_assoc]
    exact hsublist.append (.refl _)

/-- **What is written for the head of the queue** is dated before what waits behind it, and its touches
come before those that wait. -/
theorem deliver {capacity : Nat} (h : s.Timely) (hchained : s.Chained capacity) {id : ItemId}
    {item : Item} (head : s.queue.head? = some (id, item)) {bs : List (Batch Slot)}
    {history : ScreenHistory} {output : Output} (hadds : Adds bs history s.output output)
    (htells : item.Tells bs) : Timely { s.takeHead with output := output } := by
  have hpending := hchained.pending_of_head head
  obtain ⟨hdated, new, hnew, hpointers⟩ :=
    htells.written s.output.gallery.picture? (h.pointers_of_head hchained head)
  have hwritten := hadds.records
  refine ⟨?ordered, ?touched, h.accepted, fun turn hmem => h.foreseen turn (hadds.script.mem hmem)⟩
  case ordered =>
    have hordered := h.ordered
    rw [hpending, List.map_cons, List.append_assoc, List.cons_append] at hordered
    change ((others output.storage.records).map Record.timestamp
      ++ s.takeHead.queue.pending.map Brief.time ++ [s.clock]).Pairwise (· ≤ ·)
    rw [hwritten, others, List.filter_append, List.map_append, List.append_assoc, List.append_assoc]
    refine pairwise_replace hordered fun x hx => ?_
    obtain ⟨r, hr, rfl⟩ := List.mem_map.mp hx
    obtain ⟨hmem, htype⟩ := List.mem_filter.mp hr
    exact hdated r hmem (bne_iff_ne.mp htype)
  case touched =>
    obtain ⟨kept, hkept, hsublist⟩ := h.touched
    refine ⟨kept ++ new, ?_, ?_⟩
    · change pointers output.storage.records = _
      rw [hwritten, pointers, List.filter_append, List.flatten_append, List.map_append, ← hkept,
        ← hpointers]
      rfl
    · refine List.Sublist.trans ?_ hsublist
      rw [hpending, List.append_assoc]
      refine (List.Sublist.refl kept).append ?_
      have hbrief : (item.brief :: s.takeHead.queue.pending).filterMap Brief.touches
          = item.touches?.toList ++ s.takeHead.queue.pending.filterMap Brief.touches := by
        rw [List.filterMap_cons]
        unfold Item.brief
        dsimp only
        cases item.touches? <;> rfl
      rw [hbrief]
      exact hnew.append (.refl _)

/-- **A turn of the worker** keeps everything in order, and writes nothing too old for its drain. -/
theorem turn {capacity : Nat} {now : Int} (h : s.Timely) (hchained : s.Chained capacity)
    (hturn : Turn engine now s t) : t.Timely ∧ Punctual now s t := by
  have hdropped : ∀ {id item}, s.queue.head? = some (id, item) → s.takeHead.Timely :=
    fun head => h.deliver hchained head (.refl _) (.nil _)
  cases hturn with
  | stale id item head verdict =>
    exact ⟨(hdropped head).congr rfl rfl rfl, .of_eq rfl rfl rfl⟩
  | invalid id item head verdict =>
    exact ⟨(hdropped head).congr rfl rfl rfl, .of_eq rfl rfl rfl⟩
  | ready id item head verdict =>
    obtain ⟨bs, history, hadds, htells⟩ := process_tells s.takeHead item
    have hjoins := Joins.process (s := s.takeHead) h.foreseen item
    have hwritten := h.deliver hchained head hadds htells
    have hprocessed : (process item s.takeHead).1.Timely :=
      hwritten.joins ⟨hjoins.clock, hjoins.delay, hjoins.items⟩ rfl hwritten.foreseen
    have hfresh : ∀ r ∈ (bs.flatMap Batch.records).map (Record.map s.output.gallery.picture?),
        r.type ≠ 11 → r.timestamp ≤ s.clock ∧ elapsed r.timestamp now ≤ s.queue.maxItemDelay := by
      intro r hr htype
      obtain ⟨hdated, -⟩ :=
        htells.written s.output.gallery.picture? (h.pointers_of_head hchained head)
      rw [hdated r hr htype]
      have hwaits : item.brief ∈ s.queue.pending :=
        hchained.pending_of_head head ▸ List.mem_cons_self
      exact ⟨h.pending_le _ hwaits, Item.fresh_of_verdict verdict⟩
    have hpunctual : Punctual now s (process item s.takeHead).1 :=
      ⟨hjoins.clock, hjoins.delay, _, hadds.records, hfresh⟩
    unfold afterHandling
    split
    · exact ⟨hprocessed.congr rfl rfl rfl, hpunctual.clock, hpunctual.delay, hpunctual.fresh⟩
    · exact ⟨hprocessed, hpunctual⟩

end Timely

end Station

end SessionReplay
