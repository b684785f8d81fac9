import SessionReplay.Proofs.Output.Likeness
import SessionReplay.Proofs.Recording.Accounts

/-!
# What is handed over is final

When the worker is handed a snapshot, nothing is done for it any more: its walk is over, and all its
copies have ended (`Sound.sealed`). Every step leaves alone what is sealed (`Sealed.step`), so whatever
happens after an item was handed over, its pictures stay as they were (`delivered_is_final`).
-/

namespace SessionReplay

namespace Chronicle

open Station

variable {c k l : Chronicle}

/-! ## Items that are done -/

/-- Nothing is done for an item any more. -/
structure Sealed (c : Chronicle) (id : ItemId) : Prop where
  /-- It is not being made. -/
  walked : ∀ walk ∈ c.walks, walk.item ≠ id
  /-- None of its copies is unfinished. -/
  done : ∀ copy ∈ c.unfinished, copy.item ≠ id
  /-- It is there. -/
  there : ∃ item, c.station.queue.item? id = some item

/-- An item and its pictures stay as they are. -/
structure Stays (c k : Chronicle) (id : ItemId) : Prop where
  /-- The item. -/
  item : k.station.queue.item? id = c.station.queue.item? id
  /-- Its pictures. -/
  picture : ∀ slot : Slot, c.makers[slot]? = some id →
    k.station.output.gallery.picture? slot = c.station.output.gallery.picture? slot
  /-- Its slots. -/
  maker : ∀ slot : Slot, c.makers[slot]? = some id → k.makers[slot]? = some id

variable {id : ItemId} {item : Item} {snapshot : Snapshot}

namespace Stays

/-- An item stays while nothing happens. -/
theorem refl (c : Chronicle) (id : ItemId) : Stays c c id := ⟨rfl, fun _ _ => rfl, fun _ h => h⟩

/-- It stays if it stays before and afterwards. -/
theorem trans (h : Stays c k id) (h' : Stays k l id) : Stays c l id where
  item := h'.item.trans h.item
  picture slot hslot := (h'.picture slot (h.maker slot hslot)).trans (h.picture slot hslot)
  maker slot hslot := h'.maker slot (h.maker slot hslot)

/-- What an item shows stays as it is. -/
theorem shown (h : Stays c k id) (hsound : c.Sound) (hitem : c.station.queue.item? id = some item) :
    ∀ w ∈ item.wireframes, ∀ slot ∈ w.picture?,
      k.station.output.gallery.picture? slot = c.station.output.gallery.picture? slot :=
  fun w hw slot hslot => h.picture slot (hsound.attached hitem w hw slot hslot)

end Stays

/-- **An item that is complete is sealed.** If it were being made, it would await its nodes, and if one
of its copies were unfinished, the item would count it. -/
theorem Sound.sealed (h : c.Sound) (hitem : c.station.queue.item? id = some item)
    (hcontent : item.content = .snapshot snapshot) (hready : item.isReady = true) :
    c.Sealed id ∧ snapshot.nodes.isSome = true := by
  unfold Item.isReady at hready
  rw [hcontent] at hready
  obtain ⟨hnodes, hjobs⟩ := Bool.and_eq_true_iff.mp hready
  refine ⟨⟨fun walk hwalk hid => ?_, fun copy hcopy hid => ?_, item, hitem⟩, hnodes⟩
  · obtain ⟨other, hother, hawaits⟩ := h.awaits walk hwalk
    obtain rfl : item = other := Option.some.inj (hitem.symm.trans (hid ▸ hother))
    unfold Item.awaitsNodes at hawaits
    rw [hcontent, Option.isNone_iff_eq_none] at hawaits
    rw [hawaits] at hnodes
    cases hnodes
  · have howed : 0 < c.owed id := List.countP_pos_iff.mpr ⟨copy, hcopy, decide_eq_true hid⟩
    have hnone : c.station.pendingJobs id = 0 := by
      rw [pendingJobs_of_item? hitem]
      unfold Item.pendingJobs
      rw [hcontent]
      exact eq_of_beq hjobs
    exact absurd (h.jobs id) (hnone ▸ Nat.not_le_of_lt howed)

/-- What is sealed stays as it is while only other items are worked on. -/
theorem Sealed.elsewhere (h : c.Sealed id)
    (hitem : k.station.queue.item? id = c.station.queue.item? id)
    (hwalked : ∀ walk ∈ k.walks, walk.item ≠ id) (hdone : ∀ copy ∈ k.unfinished, copy.item ≠ id)
    (hmakers : c.makers <+: k.makers)
    (hpicture : ∀ slot : Slot, c.makers[slot]? = some id →
      k.station.output.gallery.picture? slot = c.station.output.gallery.picture? slot) :
    k.Sealed id ∧ Stays c k id := by
  obtain ⟨item, hthere⟩ := h.there
  refine ⟨⟨hwalked, hdone, item, hitem.trans hthere⟩, hitem, hpicture, fun slot hslot => ?_⟩
  obtain ⟨more, hmore⟩ := hmakers
  rw [← hmore, List.getElem?_append_left (List.getElem?_eq_some_iff.mp hslot).1]
  exact hslot

/-- What is sealed stays as it is while nothing happens to snapshots. -/
theorem Idle.stays (h : Idle c k) (hsealed : c.Sealed id) :
    k.Sealed id ∧ Stays c k id := by
  obtain ⟨item, hitem⟩ := hsealed.there
  exact hsealed.elsewhere ((h.queue.stays hitem).trans hitem.symm) (h.walks ▸ hsealed.walked)
    (h.unfinished ▸ hsealed.done) (h.makers ▸ List.prefix_rfl)
    fun slot _ => congrArg (·.picture? slot) h.gallery

/-- **Every step leaves alone what is sealed.** A slot that is filled was handed out for another item. -/
theorem Sealed.step (h : c.Sealed id) (hsound : c.Sound) (hstep : Step c k) :
    k.Sealed id ∧ Stays c k id := by
  cases hstep with
  | deed d single => exact (c.idle_doing single).stays h
  | refuse screen s refused => exact (idle_refuse refused).stays h
  | accept screen sketches new s accepted =>
    obtain ⟨houtput, -, -, -, -, hstays, -⟩ := addSnapshot_frame accepted
    obtain ⟨item, hitem⟩ := h.there
    refine h.elsewhere ((hstays hitem).1.trans hitem.symm) (fun walk hwalk => ?_) h.done
      (List.prefix_append _ _) fun slot _ => ?_
    · rcases List.mem_append.mp hwalk with hwalk | hwalk
      · exact h.walked walk hwalk
      · rw [List.mem_singleton.mp hwalk]
        exact (hstays hitem).2.symm
    · refine (Gallery.picture?_extend _ _ slot).trans ?_
      exact congrArg (·.gallery.picture? slot) houtput
  | ask before after walk copy rest walks copies =>
    obtain ⟨hunfinished, hqueue, houtput, hwalks, hmakers, -⟩ :=
      c.asking_frame copy (before ++ { walk with copies := rest } :: after)
    have hwalk : walk ∈ c.walks := walks ▸ List.mem_append_right _ List.mem_cons_self
    have hcopy : copy.item ≠ id := by
      rw [(hsound.walking walk hwalk copy (copies ▸ List.mem_cons_self)).1]
      exact h.walked walk hwalk
    refine h.elsewhere (hqueue ▸ Queue.item?_modify_of_ne _ hcopy Item.startJob)
      (fun other hother => ?_) (fun x hx => ?_) (hmakers ▸ List.prefix_rfl)
      fun slot _ => congrArg (·.gallery.picture? slot) houtput
    · obtain ⟨old, hold, heq, -⟩ := exists_walk walks copies (hwalks ▸ hother)
      exact heq ▸ h.walked old hold
    · rcases List.mem_cons.mp (hunfinished.subset hx) with rfl | hx
      · exact hcopy
      · exact h.done x hx
  | answer index copy result held =>
    obtain ⟨hunfinished, hqueue, houtput, hwalks, hmakers, -⟩ := c.answering_frame result held
    exact h.elsewhere (congrArg (·.item? id) hqueue) (hwalks ▸ h.walked)
      (fun x hx => h.done x (hunfinished.subset hx)) (hmakers ▸ List.prefix_rfl)
      fun slot _ => congrArg (·.gallery.picture? slot) houtput
  | encode index copy bitmap copied =>
    obtain ⟨hmem, hunfinished, hqueue, -, hpicture, hwalks, hmakers, -⟩ := c.encoding_frame copied
    refine h.elsewhere (congrArg (·.item? id) hqueue) (hwalks ▸ h.walked)
      (fun x hx => h.done x (hunfinished.subset hx)) (hmakers ▸ List.prefix_rfl)
      fun slot hslot => hpicture slot ?_
    rintro rfl
    exact h.done copy hmem (Option.some.inj ((hsound.aimed copy hmem).symm.trans hslot))
  | release before after copy releasing =>
    obtain ⟨hunfinished, hqueue, houtput⟩ := c.freeing_frame releasing
    have hcopy : copy.item ≠ id := h.done copy (hunfinished.symm.subset List.mem_cons_self)
    exact h.elsewhere (hqueue ▸ Queue.item?_modify_of_ne _ hcopy Item.finishJob) h.walked
      (fun x hx => h.done x (hunfinished.symm.subset (List.mem_cons_of_mem _ hx))) List.prefix_rfl
      fun slot _ => congrArg (·.gallery.picture? slot) houtput
  | attach before after walk walks copies =>
    have hwalk : walk ∈ c.walks := walks ▸ List.mem_append_right _ List.mem_cons_self
    have hsub : (before ++ after).Sublist c.walks :=
      walks ▸ (List.Sublist.refl before).append (List.sublist_cons_self walk after)
    exact h.elsewhere
      (Queue.item?_modify_of_ne _ (h.walked walk hwalk) (Item.attachNodes walk.nodes))
      (fun other hother => h.walked other (hsub.subset hother)) h.done List.prefix_rfl
      fun _ _ => rfl
  | request => exact (idle_request c).stays h
  | move busy s moves => exact (idle_move moves).stays h
  | deliver now other new busy head ready => exact (c.idle_delivering other new).stays h

/-- Whatever happens, what is sealed stays as it is. -/
theorem Sealed.run (h : c.Sealed id) (hsound : c.Sound) (hrun : Reaches c k) :
    k.Sealed id ∧ Stays c k id := by
  induction hrun with
  | refl => exact ⟨h, .refl c id⟩
  | tail hbefore hstep ih =>
    obtain ⟨hsealed, hstays⟩ := ih.1.step (hsound.run hbefore) hstep
    exact ⟨hsealed, ih.2.trans hstays⟩

/-! ## What is handed over -/

/-- The worker is handed an item in some step only if the item is at the head of the queue and
complete. -/
theorem Step.delivered {kept : List Written} (h : Step c k)
    (hdeliveries : k.deliveries = c.deliveries ++ [⟨id, item, kept⟩]) :
    c.station.queue.item? id = some item ∧ item.isReady = true ∧ k = c.delivering id item := by
  have hmore : k.deliveries ≠ c.deliveries := by
    rw [hdeliveries]
    exact fun hsame => List.cons_ne_nil _ _ (List.append_right_eq_self.mp hsame)
  rcases h.effect with ⟨hsame, -⟩ | ⟨hsame, -⟩ | ⟨now, i, other, head, ready, rfl⟩
  · exact absurd hsame hmore
  · exact absurd hsame hmore
  · have hlast := List.append_cancel_left (hdeliveries.symm.trans rfl)
    injection hlast with hdelivery
    injection hdelivery with hi hother
    subst hi hother
    exact ⟨(Queue.head?_eq_some_iff.mp head).2, Item.isReady_of_verdict ready, rfl⟩

/-- What is written for a snapshot shows no pictures but those of its wireframes. -/
theorem map_of_writes {bs : List (Batch Slot)} (h : item.Writes bs)
    (hcontent : item.content = .snapshot snapshot) {κ : Type} {f g : Slot → κ}
    (hfg : ∀ w ∈ item.wireframes, ∀ slot ∈ w.picture?, f slot = g slot) :
    ∀ b ∈ bs, b.map f = b.map g := by
  have hrecord : item.fullRecord.map f = item.fullRecord.map g := by
    have hmap : item.wireframes.map (·.map f) = item.wireframes.map (·.map g) :=
      List.map_congr_left fun w hw => Wireframe.map_congr (hfg w hw)
    unfold Record.map RecordContent.map Item.fullRecord
    simp only [hmap]
  intro b hb
  cases h with
  | touch records bs content all => cases hcontent.symm.trans content
  | snapshot s farewells reports content ends tells =>
    rcases List.mem_append.mp hb with hb | hb
    · rcases ends with rfl | ⟨-, rfl⟩
      · cases hb
      · cases List.mem_singleton.mp hb
        rfl
    · rcases tells with rfl | ⟨report, ⟨-, rs, hrs, hrecords⟩, rfl⟩
      · cases hb
      · cases List.mem_singleton.mp hb
        unfold Batch.map
        rw [hrecords, List.map_append, List.map_append, List.map_singleton, List.map_singleton,
          hrecord]
        rcases hrs with rfl | ⟨screen, rfl⟩ <;> rfl

/-- The wireframes that are remembered are those of an item that is sealed. -/
def Settled (c : Chronicle) : Prop :=
  c.station.output.history.wireframes = [] ∨ ∃ id item, c.Sealed id ∧
    c.station.queue.item? id = some item ∧ c.station.output.history.wireframes = item.wireframes

namespace Settled

/-- What is remembered stays settled as long as the same is remembered. -/
theorem congr (h : c.Settled) (hsound : c.Sound) (hstep : Step c k)
    (hhistory : k.station.output.history.wireframes = c.station.output.history.wireframes) :
    k.Settled := by
  unfold Settled
  rw [hhistory]
  refine h.imp_right fun ⟨id, item, hsealed, hitem, hwireframes⟩ => ?_
  obtain ⟨hsealed', hstays⟩ := hsealed.step hsound hstep
  exact ⟨id, item, hsealed', hstays.item.trans hitem, hwireframes⟩

/-- **Every step leaves settled what is remembered.** -/
theorem step (h : c.Settled) (hsound : c.Sound) (hstep : Step c k) : k.Settled := by
  rcases hstep.effect with ⟨-, hquiet⟩ | ⟨-, -, -, houtput⟩ | ⟨now, id, item, -, -, hdelivering⟩
  · exact h.congr hsound hstep (by rw [hquiet.history])
  · exact h.congr hsound hstep (by rw [houtput])
  · obtain ⟨bs, history, hdeliveries, hadds, -, hsame | hown, -⟩ := c.delivering_cases id item
    · exact h.congr hsound hstep (by rw [hdelivering, hadds.remembers, hsame])
    · cases hcontent : item.content with
      | touch records =>
        refine .inl ?_
        rw [hdelivering, hadds.remembers, hown]
        unfold Item.wireframes Item.nodes
        rw [hcontent]
        rfl
      | snapshot s =>
        rw [← hdelivering] at hdeliveries
        obtain ⟨hitem, hready, -⟩ := hstep.delivered hdeliveries
        obtain ⟨hsealed, hstays⟩ := (hsound.sealed hitem hcontent hready).1.step hsound hstep
        refine .inr ⟨id, item, hsealed, hstays.item.trans hitem, ?_⟩
        rw [hdelivering, hadds.remembers, hown]

/-- What is remembered is settled in every run. -/
theorem of_reaches {settings : Settings} (hrun : Reaches (start settings) c) : c.Settled := by
  induction hrun with
  | refl => exact .inl rfl
  | tail hbefore hstep ih => exact ih.step (.of_reaches hbefore) hstep

/-- The wireframes that are remembered show the same whatever happens. -/
theorem painted (h : c.Settled) (hsound : c.Sound) (hrun : Reaches c k) :
    k.station.output.gallery.painted c.station.output.history.wireframes
      = c.station.output.gallery.painted c.station.output.history.wireframes := by
  rcases h with hnil | ⟨id, item, hsealed, hitem, hwireframes⟩
  · rw [hnil]
    rfl
  · rw [hwireframes]
    exact List.map_congr_left fun w hw =>
      Wireframe.map_congr ((hsealed.run hsound hrun).2.shown hsound hitem w hw)

end Settled

/-- **What is handed over is final.** Copies are asked for accepted snapshots only. When the worker is
handed a snapshot, its walk is over, its nodes are attached, and every copy that was asked for it has
ended. Whatever happens then, the item and all its pictures stay as they are, so what was written for
it still reads as it was written, and what is remembered still shows what it showed. -/
theorem delivered_is_final {settings : Settings} (hrun : Reaches (start settings) c) :
    (∀ copy ∈ c.requested, ∃ item snapshot, c.station.queue.item? copy.item = some item ∧
      item.content = .snapshot snapshot) ∧
    (∀ l, Reaches c l → l.station.output.gallery.painted c.station.output.history.wireframes
      = c.station.output.gallery.painted c.station.output.history.wireframes) ∧
    ∀ {k : Chronicle} {id : ItemId} {item : Item} {kept : List Written} {snapshot : Snapshot},
      Step c k → k.deliveries = c.deliveries ++ [⟨id, item, kept⟩] →
      item.content = .snapshot snapshot →
        ((∀ walk ∈ c.walks, walk.item ≠ id) ∧ snapshot.nodes.isSome = true ∧
          ∀ copy ∈ c.requested, copy.item = id → copy ∈ c.finished ∧ copy ∉ c.unfinished) ∧
        ∀ l, Reaches k l → l.station.queue.item? id = some item ∧
          (∀ w ∈ item.wireframes, ∀ slot ∈ w.picture?,
            l.station.output.gallery.picture? slot = c.station.output.gallery.picture? slot) ∧
          ∀ w ∈ kept, w.batch.map l.station.output.gallery.picture? = w.resolved := by
  have hsound := Sound.of_reaches hrun
  refine ⟨hsound.asked, fun l hl => (Settled.of_reaches hrun).painted hsound hl, ?_⟩
  intro k id item kept snapshot hstep hdeliveries hcontent
  obtain ⟨hitem, hready, hdelivering⟩ := hstep.delivered hdeliveries
  obtain ⟨hsealed, hnodes⟩ := hsound.sealed hitem hcontent hready
  refine ⟨⟨hsealed.walked, hnodes, fun copy hcopy hid => ?_⟩, fun l hl => ?_⟩
  · have hout : copy ∉ c.unfinished := fun hin => hsealed.done copy hin hid
    exact ⟨(List.mem_append.mp (hsound.balanced.subset hcopy)).resolve_left hout, hout⟩
  · obtain ⟨-, hstays⟩ := hsealed.run hsound (hl.head hstep)
    have hshown := hstays.shown hsound hitem
    refine ⟨hstays.item.trans hitem, hshown, fun w hw => ?_⟩
    obtain ⟨bs, history, hkept, -, hwrites, -⟩ := c.delivering_cases id item
    have hlast := List.append_cancel_left ((hdelivering ▸ hdeliveries).symm.trans hkept)
    injection hlast with hdelivery
    injection hdelivery with _ _ hkept
    rw [hkept] at hw
    obtain ⟨b, hb, rfl⟩ := List.mem_map.mp hw
    exact map_of_writes hwrites hcontent hshown b hb

/-! ## A snapshot whose picture could not be copied -/

/-- What a walk over a picture gives. -/
def pictureSketch : List (Node CopySource) :=
  [⟨[{ id := 0, bounds := {}, content := .image default }], []⟩]

/-- A snapshot of a picture, as it is handed over. -/
def pictured : Item where
  data := ⟨0, {}, ⟨"a", "s", "v"⟩⟩
  content := .snapshot
    { screen := {}, nodes := some [⟨[{ id := 0, bounds := {}, content := .image 0 }], []⟩] }

/-- The copy of the picture has failed while the walk was going on. Now the snapshot is complete, and
the worker drains. -/
def copyless : Chronicle where
  recording := { Recording.new {} with
    station :=
      { clockReads := 2
        activeView := some ⟨"a", "s", "v"⟩
        tracker := ⟨⟨"a", "s", "v"⟩⟩
        queue := { maxItemDelay := 200, capacity := 128, items := #[pictured], waiting := [0] }
        worker := .serving
        output := { gallery := { next := 1 } }
        log := #[.workerStarted, .copyFailed 0 3] } }
  requested := [⟨default, 0, 0⟩]
  finished := [⟨default, 0, 0⟩]
  makers := [0]
  draining := some 0

/-- This can come about. -/
theorem reaches_copyless : Reaches (start {}) copyless := by
  have hserving : Reaches (start {}) _ :=
    ((Relation.ReflTransGen.single (.deed (start {}) .startWorker ⟨nofun, nofun⟩)).tail
      (.move _ none _ (.wake _ rfl))).tail
        (.deed _ (.activate (some ⟨"a", "s", "v"⟩)) ⟨nofun, nofun⟩)
  have hasked : Reaches (start {}) _ :=
    (hserving.tail (.accept _ {} pictureSketch 0 _ rfl)).tail (.ask _ [] [] _ _ [] rfl rfl)
  have hfailed : Reaches (start {}) _ :=
    (hasked.tail (.answer _ 0 _ (.failed 3) rfl)).tail (.release _ [] [] _ rfl)
  exact (hfailed.tail (.attach _ [] [] _ rfl rfl)).tail (.move _ _ _ (.drain _ [] rfl rfl))

/-- The one copy that was asked for has ended when the snapshot is handed over, and the snapshot stays
in the queue's books as it is. -/
theorem delivered_is_final_without_copy :
    Reaches (start {}) copyless ∧ Step copyless (copyless.delivering 0 pictured) ∧
      (⟨default, 0, 0⟩ : Copy) ∈ copyless.finished ∧
      ∀ l, Reaches (copyless.delivering 0 pictured) l → l.station.queue.item? 0 = some pictured := by
  have hdeliver : Step copyless (copyless.delivering 0 pictured) :=
    .deliver copyless 0 0 pictured rfl rfl rfl
  obtain ⟨-, -, hfinal⟩ := delivered_is_final reaches_copyless
  obtain ⟨⟨-, -, hended⟩, hstays⟩ := hfinal hdeliver rfl rfl
  exact ⟨reaches_copyless, hdeliver, (hended _ List.mem_cons_self rfl).1, fun l hl => (hstays l hl).1⟩

end Chronicle

end SessionReplay
