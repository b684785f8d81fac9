import SessionReplay.Proofs.Station.Chain

/-!
# No lost wake-ups

Items become complete at any time, and each time somebody may or may not ask the worker for a drain.
`Awake` says that it is asked often enough: while the head could be taken out, a command that drains
is in the mailbox. A request is skipped when nothing waits, when a drain has been requested already,
and while pictures of an item are missing; each of these is harmless:

* `Manned.requestDrain`: a request leads to `Awake`, whatever the head is.
* `Awake.finishJob`: an item whose pictures are not all there has not become complete.
* `Awake.work`: a drain ends at a head that is blocked, or with nothing waiting.
-/

namespace SessionReplay

namespace Item

/-- The item would be taken out by a drain, however old it is. -/
def Urgent (i : Item) : Prop := i.isReady = true ∨ i.isValid = false

/-- A blocked item is not urgent. -/
theorem not_urgent_of_blocked {i : Item} {now maxDelay : Int}
    (h : i.verdict now maxDelay = .blocked) : ¬i.Urgent := by
  unfold verdict at h
  rintro (hready | hinvalid)
  · simp only [hready, if_true] at h
    split at h
    · cases h
    · split at h <;> cases h
  · simp only [hinvalid, Bool.not_false, if_true] at h
    split at h <;> cases h

/-- An item that a picture is being made for was urgent before if it is now. -/
theorem urgent_of_startJob {i : Item} (h : i.startJob.Urgent) : i.Urgent := by
  obtain ⟨data, content⟩ := i
  cases content with
  | touch records => exact h
  | snapshot snapshot =>
    rcases h with hready | hinvalid
    · simp [startJob, mapSnapshot, isReady] at hready
    · exact .inr hinvalid

/-- An item that still lacks pictures was urgent before if it is now. -/
theorem urgent_of_finishJob {i : Item} (hpending : i.finishJob.pendingJobs ≠ 0)
    (h : i.finishJob.Urgent) : i.Urgent := by
  obtain ⟨data, content⟩ := i
  cases content with
  | touch records => exact h
  | snapshot snapshot =>
    rcases h with hready | hinvalid
    · have hnone : snapshot.pendingJobs - 1 = 0 := by
        simp only [finishJob, mapSnapshot, isReady, Bool.and_eq_true, beq_iff_eq] at hready
        exact hready.2
      exact absurd hnone hpending
    · exact .inr hinvalid

end Item

namespace Queue

/-- An item that is changed may be the head. -/
theorem head?_modify {q : Queue} {id id' : ItemId} {f : Item → Item} {item' : Item}
    (h : (q.modify id f).head? = some (id', item')) :
    ∃ item, q.head? = some (id', item) ∧ item' = if id = id' then f item else item := by
  obtain ⟨hwaits, hitem⟩ := head?_eq_some_iff.mp h
  simp only [item?, modify, Array.getElem?_modify] at hitem
  by_cases hid : id = id'
  · simp only [hid, if_true, Option.map_eq_some_iff] at hitem ⊢
    obtain ⟨item, hitem, rfl⟩ := hitem
    exact ⟨item, head?_eq_some_iff.mpr ⟨hwaits, hitem⟩, rfl⟩
  · simp only [hid, if_false] at hitem ⊢
    exact ⟨item', head?_eq_some_iff.mpr ⟨hwaits, hitem⟩, rfl⟩

/-- A new item that waits behind the others is the head only if it is alone. -/
theorem head?_add_append {q : Queue} {i item : Item} {id : ItemId}
    (h : ((q.add i).append q.nextId).head? = some (id, item)) :
    q.head? = some (id, item) ∨ item = i := by
  obtain ⟨hwaits, hitem⟩ := head?_eq_some_iff.mp h
  simp only [item?, append, add, Array.getElem?_push] at hitem
  by_cases hnew : id = q.items.size
  · simp only [hnew, if_true, Option.some.injEq] at hitem
    exact .inr hitem.symm
  · simp only [hnew, if_false] at hitem
    refine .inl (head?_eq_some_iff.mpr ⟨?_, hitem⟩)
    rw [waiting_append, waiting_add, List.head?_append] at hwaits
    cases hq : q.waiting.head? with
    | some first =>
      rw [hq] at hwaits
      exact hwaits
    | none =>
      rw [hq] at hwaits
      exact absurd (Option.some.inj hwaits).symm hnew

end Queue

namespace Station

variable {σ : Type} {e : Engine σ} {s t : Station σ}

/-! ## What always holds -/

/-- There is somebody who takes commands, nobody is told to stop, and a drain that has been
requested is in the mailbox. -/
structure Manned (s : Station σ) : Prop where
  /-- Commands are taken. -/
  takes : s.worker.takesCommands = true
  /-- Nobody is told to stop. -/
  stays : .shutdown ∉ s.mailbox
  /-- A drain that has been requested is in the mailbox. -/
  posted : s.drainRequested = true → .drain ∈ s.mailbox

/-- A command that drains is in the mailbox. -/
def Summoned (s : Station σ) : Prop :=
  .drain ∈ s.mailbox ∨ ∃ ticket, .flush ticket ∈ s.mailbox

/-- The worker has been told of a head that could be taken out. -/
structure Awake (s : Station σ) : Prop extends Manned s where
  /-- While the head could be taken out, a command that drains is in the mailbox. -/
  summoned : ∀ id item, s.queue.head? = some (id, item) → item.Urgent → s.Summoned

/-- A station that nothing has happened to is awake. -/
theorem awake_fresh (maxItemDelay : Int) (capacity : Nat) (output : σ) :
    (fresh maxItemDelay capacity output).Awake where
  takes := rfl
  stays := nofun
  posted := nofun
  summoned := nofun

namespace Manned

/-- Who takes commands and which are there is in three fields of the station. -/
theorem congr (h : s.Manned) (hworker : t.worker = s.worker) (hmailbox : t.mailbox = s.mailbox)
    (hrequested : t.drainRequested = s.drainRequested) : t.Manned where
  takes := hworker ▸ h.takes
  stays := hmailbox ▸ h.stays
  posted := by
    rw [hmailbox, hrequested]
    exact h.posted

/-- Nobody is told to stop by another command. -/
theorem not_mem_append (h : s.Manned) {command : Command} (hcommand : .shutdown ≠ command) :
    .shutdown ∉ s.mailbox ++ [command] := by
  intro hmem
  rcases List.mem_append.mp hmem with hmem | hmem
  · exact h.stays hmem
  · exact hcommand (List.mem_singleton.mp hmem)

/-- **After a request for a drain the worker is awake**, whatever the head is: if the request was
skipped, nothing waits or the command is there already. -/
theorem requestDrain (h : s.Manned) : s.requestDrain.Awake := by
  rcases s.requestDrain_cases with ⟨hskip, heq⟩ | ⟨-, heq⟩ | ⟨hgone, -⟩
  · rw [heq]
    refine { h with summoned := fun id item hhead _ => ?_ }
    rcases hskip with hempty | hrequested
    · have hwaits := Queue.waiting_eq_cons_of_head? hhead
      rw [hempty] at hwaits
      cases hwaits
    · exact .inl (h.posted hrequested)
  · rw [heq]
    have hdrain : Command.drain ∈ s.mailbox ++ [.drain] :=
      List.mem_append_right _ (List.mem_singleton_self _)
    exact
      { takes := h.takes
        stays := h.not_mem_append nofun
        posted := fun _ => hdrain
        summoned := fun _ _ _ _ => .inl hdrain }
  · rw [h.takes] at hgone
    cases hgone

/-- A flush stays in the mailbox, too. -/
theorem sendFlush (h : s.Manned) : (s.call .sendFlush).Manned := by
  rcases s.call_sendFlush_cases with ⟨-, heq⟩ | ⟨-, heq⟩
  · rw [heq]
    exact
      { takes := h.takes
        stays := h.not_mem_append nofun
        posted := fun hrequested => List.mem_append_left _ (h.posted hrequested) }
  · rw [heq]
    exact h

/-- No call sends the worker away. -/
theorem call (h : s.Manned) (c : Call σ) : (s.call c).Manned := by
  cases c with
  | add content =>
    change (s.addItem content).2.Manned
    rcases s.addItem_cases content with ⟨view, -, hadd⟩ | ⟨-, event, hadd⟩ <;> rw [hadd] <;>
      exact h.congr rfl rfl rfl
  | requestDrain => exact h.requestDrain.toManned
  | sendFlush => exact h.sendFlush
  | finishJob id =>
    have hmodify : (s.modifyItem id Item.finishJob).Manned := h.congr rfl rfl rfl
    change (s.finishJob id).Manned
    rcases s.finishJob_cases id with hfinish | ⟨-, hfinish⟩ <;> rw [hfinish]
    · exact hmodify.requestDrain.toManned
    · exact hmodify
  | _ => exact h.congr rfl rfl rfl

/-- No turn of the worker sends it away, if all it does while it has an item are calls. -/
theorem turn (he : Orderly e) {now : Int} (h : s.Manned) (hturn : Turn e now s t) : t.Manned := by
  cases hturn with
  | ready id item head verdict =>
    obtain ⟨cs, hcs⟩ := he item s.takeHead
    have htaken : s.takeHead.Manned := h.congr rfl rfl rfl
    have hhandled : (e.handle item s.takeHead).1.Manned := by
      rw [hcs]
      exact calls_induction (fun c _ _ hs => hs.call c) htaken
    unfold afterHandling
    split
    · exact hhandled.congr rfl rfl rfl
    · exact hhandled
  | _ => exact h.congr rfl rfl rfl

/-- **After a drain the worker may sleep**: nothing waits or the head is blocked. -/
theorem drain (he : Orderly e) (hend : Honest e) (h : s.Manned) : (s.drain e).1.Awake where
  toManned :=
    drain_induction (P := Manned) (fun _ _ hturn hs => hs.turn he hturn)
      (fun _ _ hs => hs.congr rfl rfl rfl) (h.congr rfl rfl rfl)
  summoned := by
    intro id item hhead hurgent
    exact absurd hurgent (Item.not_urgent_of_blocked (drain_ends hend s hhead))

end Manned

namespace Awake

/-- Whether the worker is awake is in four fields of the station. -/
theorem congr (h : s.Awake) (hqueue : t.queue = s.queue) (hworker : t.worker = s.worker)
    (hmailbox : t.mailbox = s.mailbox) (hrequested : t.drainRequested = s.drainRequested) :
    t.Awake where
  toManned := h.toManned.congr hworker hmailbox hrequested
  summoned := by
    rw [hqueue]
    unfold Summoned
    rw [hmailbox]
    exact h.summoned

/-- A new snapshot cannot be taken out yet. -/
theorem addSnapshot (h : s.Awake) (screen : ScreenInfo) : (s.addSnapshot screen).2.Awake := by
  unfold Station.addSnapshot
  rcases s.addItem_cases (.snapshot { screen := screen }) with ⟨view, -, hadd⟩ | ⟨-, event, hadd⟩
  · rw [hadd]
    refine { toManned := h.toManned.congr rfl rfl rfl, summoned := fun id item hhead hurgent => ?_ }
    rcases Queue.head?_add_append hhead with hold | rfl
    · exact h.summoned id item hold hurgent
    · rcases hurgent with hready | hinvalid
      · cases hready
      · cases hinvalid
  · rw [hadd]
    exact h.congr rfl rfl rfl rfl

/-- Touches that are accepted are followed by a request. -/
theorem recordTouches (h : s.Awake) (records : List (Record Slot)) :
    (s.recordTouches records).2.Awake := by
  unfold Station.recordTouches Station.addTouches
  rcases s.addItem_cases (.touch records) with ⟨view, -, hadd⟩ | ⟨-, event, hadd⟩
  · rw [hadd]
    have hmanned : (s.accept view (.touch records)).Manned := h.toManned.congr rfl rfl rfl
    exact hmanned.requestDrain
  · rw [hadd]
    exact h.congr rfl rfl rfl rfl

/-- A picture that is being made only makes an item less urgent. -/
theorem startJob (h : s.Awake) (id : ItemId) : (s.startJob id).Awake where
  toManned := h.toManned.congr rfl rfl rfl
  summoned := by
    intro id' item' hhead hurgent
    obtain ⟨item, hitem, rfl⟩ := Queue.head?_modify hhead
    refine h.summoned id' item hitem ?_
    split at hurgent
    · exact Item.urgent_of_startJob hurgent
    · exact hurgent

/-- A picture that is done is followed by a request if it was the last one; if not, the item is no
more urgent than before. -/
theorem finishJob (h : s.Awake) (id : ItemId) : (s.finishJob id).Awake := by
  have hmodify : (s.modifyItem id Item.finishJob).Manned := h.toManned.congr rfl rfl rfl
  rcases s.finishJob_cases id with hfinish | ⟨hpending, hfinish⟩
  · rw [hfinish]
    exact hmodify.requestDrain
  · rw [hfinish]
    refine { toManned := hmodify, summoned := fun id' item' hhead hurgent => ?_ }
    obtain ⟨item, hitem, hitem'⟩ := Queue.head?_modify hhead
    refine h.summoned id' item hitem ?_
    by_cases hid : id = id'
    · rw [if_pos hid] at hitem'
      subst hid hitem'
      have hlacks : item.finishJob.pendingJobs ≠ 0 := by
        unfold Station.pendingJobs at hpending
        rw [(Queue.head?_eq_some_iff.mp hhead).2] at hpending
        exact hpending
      exact Item.urgent_of_finishJob hlacks hurgent
    · rw [if_neg hid] at hitem'
      exact hitem' ▸ hurgent

/-- A flush is a command that drains. -/
theorem sendFlush (h : s.Awake) : (s.call .sendFlush).Awake := by
  rcases s.call_sendFlush_cases with ⟨-, heq⟩ | ⟨-, heq⟩
  · refine { toManned := h.toManned.sendFlush, summoned := fun _ _ _ _ => .inr ⟨s.nextTicket, ?_⟩ }
    rw [heq]
    exact List.mem_append_right _ (List.mem_singleton_self _)
  · rw [heq]
    exact h

/-- Starting the worker does not put it to sleep. -/
theorem startWorker (h : s.Awake) : s.startWorker.2.Awake := by
  unfold Station.startWorker
  split
  · exact
      { takes := rfl
        stays := h.stays
        posted := h.posted
        summoned := h.summoned }
  · exact h

/-- **A step of the worker leaves it awake.** A drain ends where nothing can be taken out, and
requests that were made meanwhile are in the mailbox again. -/
theorem work (he : Orderly e) (hend : Honest e) (h : s.Awake) (hstep : s.step? e = some t) :
    t.Awake := by
  rcases step?_cases hstep with ⟨-, rfl⟩ | ⟨rest, -, hmailbox, rfl⟩ |
    ⟨ticket, rest, answer, -, hmailbox, rfl⟩ | ⟨rest, -, hmailbox, -⟩
  · exact
      { takes := rfl
        stays := h.stays
        posted := h.posted
        summoned := h.summoned }
  · have hserved : Manned { s with mailbox := rest, drainRequested := false } :=
      { takes := h.takes
        stays := fun hmem => h.stays (hmailbox ▸ List.mem_cons_of_mem _ hmem)
        posted := nofun }
    exact hserved.drain he hend
  · have hserved : Manned { s with mailbox := rest } :=
      { takes := h.takes
        stays := fun hmem => h.stays (hmailbox ▸ List.mem_cons_of_mem _ hmem)
        posted := by
          intro hrequested
          have hposted := h.posted hrequested
          rw [hmailbox] at hposted
          exact (List.mem_cons.mp hposted).resolve_left nofun }
    exact (hserved.drain he hend).congr rfl rfl rfl rfl
  · exact absurd (hmailbox ▸ List.mem_cons_self) h.stays

end Awake

end Station

end SessionReplay
