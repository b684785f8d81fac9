import Mathlib.Data.List.Perm.Basic
import SessionReplay.Proofs.Recording.Attempts
import SessionReplay.Proofs.Recording.Chronicle
import SessionReplay.Proofs.Screen.Numbering

/-!
# Accounts of the pictures

A snapshot is complete once its nodes are attached and none of its pictures is still being made. All
that the worker looks at is the one and a counter for the other, and the counter can be zero before
the walk is over. The accounts of a chronicle (`Sound`) show what stands behind them: no item counts
less than there are copies that were asked for it and are not done, the nodes of an item are not
attached before all copies have been asked for, and every slot of the gallery belongs to one item.
-/

namespace SessionReplay

/-! ## Pictures of a gallery -/

namespace Gallery

variable {g : Gallery} {slot other : Slot}

/-- Empty slots that are handed out show nothing. -/
theorem picture?_extend (g : Gallery) (count : Nat) (slot : Slot) :
    (g.extend count).picture? slot = g.picture? slot := rfl

/-- The slots are handed out one after the other. -/
theorem next_extend (g : Gallery) (count : Nat) : (g.extend count).next = g.next + count := rfl

/-- Putting a picture into a slot leaves the other slots alone. -/
theorem picture?_fill (h : slot ≠ other) (p : EncodedPicture) :
    (g.fill slot p).1.picture? other = g.picture? other := by
  unfold fill
  split
  · rfl
  · exact if_neg h.symm

end Gallery
namespace Chronicle

open Station

/-! ## Accounts of the pictures -/

/-- The copies that are not done, or whose items do not know. -/
def unfinished (c : Chronicle) : List Copy :=
  c.recording.held ++ c.recording.encoding.map Prod.fst ++ c.releasing ++ c.broken

/-- How many of them were asked for an item. -/
def owed (c : Chronicle) (id : ItemId) : Nat := c.unfinished.countP (·.item = id)

/-- The pictures of some nodes have slots that were handed out for an item. -/
def Owns (c : Chronicle) (id : ItemId) (nodes : List (Node Slot)) : Prop :=
  ∀ w ∈ Node.flattenAll nodes, ∀ slot ∈ w.picture?, c.makers[slot]? = some id

/-- The pictures are accounted for. -/
structure Sound (c : Chronicle) : Prop where
  /-- No item counts less than there are copies that it has to wait for. -/
  jobs : ∀ id, c.owed id ≤ c.station.pendingJobs id
  /-- A snapshot that is being made has no nodes yet. -/
  awaits : ∀ walk ∈ c.walks, ∃ item, c.station.queue.item? walk.item = some item ∧
    item.awaitsNodes = true
  /-- No two snapshots that are being made are for the same item. -/
  apart : c.walks.Pairwise (·.item ≠ ·.item)
  /-- It is known which item each slot was handed out for. -/
  known : c.makers.length = c.station.output.gallery.next
  /-- The copies of a snapshot that is being made are for its own slots. -/
  walking : ∀ walk ∈ c.walks, ∀ copy ∈ walk.copies,
    copy.item = walk.item ∧ c.makers[copy.slot]? = some walk.item
  /-- So are its nodes. -/
  sketched : ∀ walk ∈ c.walks, c.Owns walk.item walk.nodes
  /-- So are the nodes that are attached. -/
  attached : ∀ {id item}, c.station.queue.item? id = some item → c.Owns id item.nodes
  /-- Every copy that was asked for is done or not done. -/
  balanced : c.requested.Perm (c.unfinished ++ c.finished)
  /-- The copies that are not done are for slots of their items. -/
  aimed : ∀ copy ∈ c.unfinished, c.makers[copy.slot]? = some copy.item
  /-- Copies were asked for accepted snapshots. -/
  asked : ∀ copy ∈ c.requested, ∃ item snapshot, c.station.queue.item? copy.item = some item ∧
    item.content = .snapshot snapshot

variable {c k : Chronicle}

/-- The accounts are right at the beginning. -/
theorem sound_start (settings : Settings) : (start settings).Sound where
  jobs _ := Nat.zero_le _
  awaits _ h := (List.not_mem_nil h).elim
  apart := .nil
  known := rfl
  walking _ h := (List.not_mem_nil h).elim
  sketched _ h := (List.not_mem_nil h).elim
  attached h := nomatch h
  balanced := .refl _
  aimed _ h := (List.not_mem_nil h).elim
  asked _ h := (List.not_mem_nil h).elim

/-- What an item counts is what its snapshot counts. -/
theorem pendingJobs_of_item? {σ : Type} {s : Station σ} {id : ItemId} {item : Item}
    (h : s.queue.item? id = some item) : s.pendingJobs id = item.pendingJobs := by
  unfold Station.pendingJobs
  rw [h]
  rfl

/-- Items that join leave the counters of the others alone. -/
theorem pendingJobs_of_joined {σ : Type} {s t : Station σ} (h : s.queue.Joined t.queue)
    (id : ItemId) : t.pendingJobs id = s.pendingJobs id := by
  cases hitem : s.queue.item? id with
  | some item => rw [pendingJobs_of_item? hitem, pendingJobs_of_item? (h.stays hitem)]
  | none =>
    have hnone : s.pendingJobs id = 0 := by
      unfold Station.pendingJobs
      rw [hitem]
      rfl
    rw [hnone]
    cases hitem' : t.queue.item? id with
    | none =>
      unfold Station.pendingJobs
      rw [hitem']
      rfl
    | some item =>
      rw [pendingJobs_of_item? hitem']
      rcases h.joins hitem' with hfound | ⟨records, hcontent⟩
      · cases hitem.symm.trans hfound
      · unfold Item.pendingJobs
        rw [hcontent]

namespace Sound

/-- What joins the queue is of no matter, and neither is the order in which copies are not done. -/
theorem congr (h : c.Sound) (hqueue : c.station.queue.Joined k.station.queue)
    (hwalks : k.walks = c.walks) (hmakers : k.makers = c.makers)
    (hnext : k.station.output.gallery.next = c.station.output.gallery.next)
    (hunfinished : k.unfinished.Perm c.unfinished) (hrequested : k.requested = c.requested)
    (hfinished : k.finished = c.finished) :
    k.Sound where
  jobs id := by
    have howed : k.owed id = c.owed id := hunfinished.countP_eq _
    rw [howed, pendingJobs_of_joined hqueue]
    exact h.jobs id
  awaits := by
    rw [hwalks]
    intro walk hwalk
    obtain ⟨item, hitem, hawaits⟩ := h.awaits walk hwalk
    exact ⟨item, hqueue.stays hitem, hawaits⟩
  apart := hwalks ▸ h.apart
  known := by rw [hmakers, hnext, h.known]
  walking := by
    rw [hwalks, hmakers]
    exact h.walking
  sketched := by
    unfold Owns
    rw [hwalks, hmakers]
    exact h.sketched
  attached := by
    intro id item hitem
    unfold Owns
    rw [hmakers]
    rcases hqueue.joins hitem with hfound | ⟨records, hcontent⟩
    · exact h.attached hfound
    · unfold Item.nodes
      rw [hcontent]
      exact fun _ hw => (List.not_mem_nil hw).elim
  balanced := by
    rw [hrequested, hfinished]
    exact h.balanced.trans (hunfinished.symm.append_right _)
  aimed := by
    rw [hmakers]
    exact fun copy hcopy => h.aimed copy (hunfinished.subset hcopy)
  asked := by
    rw [hrequested]
    intro copy hcopy
    obtain ⟨item, snapshot, hitem, hcontent⟩ := h.asked copy hcopy
    exact ⟨item, snapshot, hqueue.stays hitem, hcontent⟩

end Sound

/-! ## What the steps do to the accounts -/

/-- Nothing happens to snapshots and their pictures. -/
structure Idle (c k : Chronicle) : Prop where
  /-- Touches join the queue at most. -/
  queue : c.station.queue.Joined k.station.queue
  /-- The gallery stays. -/
  gallery : k.station.output.gallery = c.station.output.gallery
  /-- So do the snapshots that are being made. -/
  walks : k.walks = c.walks
  /-- So do the slots handed out. -/
  makers : k.makers = c.makers
  /-- So do the copies that are not done. -/
  unfinished : k.unfinished = c.unfinished
  /-- So do the copies that were asked for. -/
  requested : k.requested = c.requested
  /-- So do the copies that are done. -/
  finished : k.finished = c.finished

/-- A deed that is one step does nothing to snapshots and their pictures. -/
theorem idle_doing (c : Chronicle) {d : Deed} (single : Single d) : Idle c (c.doing d) := by
  have hqueue := (c.recording.perform_keeps single.1).resolve_left
    fun ⟨completion, heq, _⟩ => single.2 completion heq
  have hrest : (c.recording.perform d).station.output.gallery = c.station.output.gallery ∧
      (c.recording.perform d).held = c.recording.held ∧
      (c.recording.perform d).encoding = c.recording.encoding := by
    cases d with
    | snapshot w => exact absurd rfl (single.1 w)
    | complete completion => exact absurd rfl (single.2 completion)
    | touch records =>
      exact ⟨congrArg Output.gallery (c.station.recordTouches_frame records).1, rfl, rfl⟩
    | startWorker =>
      refine ⟨?_, rfl, rfl⟩
      change (c.station.startWorker).2.output.gallery = _
      unfold startWorker
      split <;> rfl
    | flush =>
      refine ⟨?_, rfl, rfl⟩
      change (c.station.call .sendFlush).output.gallery = _
      rcases c.station.call_sendFlush_cases with ⟨-, h⟩ | ⟨-, h⟩ <;> rw [h]
    | shutdown =>
      unfold Recording.perform Recording.shutdown sendShutdown send
      dsimp only
      cases c.recording.station.worker.takesCommands <;> exact ⟨rfl, rfl, rfl⟩
    | _ => exact ⟨rfl, rfl, rfl⟩
  obtain ⟨hgallery, hheld, hencoding⟩ := hrest
  refine ⟨hqueue, hgallery, rfl, rfl, ?_, rfl, rfl⟩
  unfold unfinished
  change (c.recording.perform d).held ++ (c.recording.perform d).encoding.map Prod.fst ++ _ ++ _ = _
  rw [hheld, hencoding]
  rfl

/-- A snapshot that is refused does nothing to other ones. -/
theorem idle_refuse {screen : ScreenInfo} {s : Station Output}
    (refused : c.station.addSnapshot screen = (none, s)) : Idle c (c.withStation s) := by
  rcases c.station.addItem_cases (.snapshot { screen := screen }) with ⟨view, -, h⟩ | ⟨-, event, h⟩
  · cases h.symm.trans refused
  · cases h.symm.trans refused
    exact ⟨.of_items rfl, rfl, rfl, rfl, rfl, rfl, rfl⟩

/-- A request for a drain does nothing to the accounts. -/
theorem idle_request (c : Chronicle) : Idle c (c.withStation c.station.requestDrain) :=
  ⟨.of_items (congrArg Queue.items c.station.queue_requestDrain),
    congrArg Output.gallery c.station.output_requestDrain, rfl, rfl, rfl, rfl, rfl⟩

/-- Nor does a move of the worker. -/
theorem idle_move {busy : Option Int} {s : Station Output}
    (moves : Move c.draining c.station busy s) :
    Idle c { c.withStation s with draining := busy } := by
  obtain ⟨houtput, -, hqueue⟩ := moves.frame
  have hitems : s.queue.items = c.station.queue.items := by
    rcases hqueue with hqueue | ⟨-, hqueue⟩ <;> rw [hqueue]
    rfl
  exact ⟨.of_items hitems, congrArg Output.gallery houtput, rfl, rfl, rfl, rfl, rfl⟩

/-- Processing an item does nothing to snapshots and their pictures. -/
theorem idle_delivering (c : Chronicle) (id : ItemId) (item : Item) :
    Idle c (c.delivering id item) := by
  obtain ⟨bs, history, -, hadds, -⟩ := c.delivering_cases id item
  have hqueue : c.station.queue.Joined (c.station.takeHead.afterHandling engine item).queue := by
    have htaken : c.station.queue.Joined c.station.takeHead.queue := .of_items rfl
    have hhandled := htaken.trans (process_joined item c.station.takeHead)
    unfold afterHandling
    split <;> exact hhandled
  exact ⟨hqueue, hadds.gallery, rfl, rfl, rfl, rfl, rfl⟩

/-- What does nothing to the accounts keeps them right. -/
theorem Idle.sound (h : Idle c k) (hsound : c.Sound) : k.Sound :=
  hsound.congr h.queue h.walks h.makers (congrArg Gallery.next h.gallery) (h.unfinished ▸ .refl _)
    h.requested h.finished

/-- When a copy ends that was not among those that are not done, it is the only new one. -/
theorem unfinished_ending (c : Chronicle) (copy : Copy) (result : CopyResult) :
    (c.ending copy result).unfinished.Perm (copy :: c.unfinished) := by
  unfold unfinished
  cases result with
  | failed code =>
    have hmiddle : (c.recording.held ++ c.recording.encoding.map Prod.fst ++ c.releasing
        ++ copy :: c.broken).Perm (copy :: c.unfinished) := List.perm_middle
    rw [← List.singleton_append, ← List.append_assoc, List.append_assoc _ c.releasing] at hmiddle
    exact hmiddle
  | copied bitmap =>
    have hmiddle : (c.recording.held ++ c.recording.encoding.map Prod.fst
        ++ copy :: (c.releasing ++ c.broken)).Perm (copy :: (c.recording.held
          ++ c.recording.encoding.map Prod.fst ++ (c.releasing ++ c.broken))) := List.perm_middle
    change (c.recording.held ++ (c.recording.encoding ++ [(copy, bitmap)]).map Prod.fst
      ++ c.releasing ++ c.broken).Perm _
    simp only [List.map_append, List.map_cons, List.map_nil, List.append_assoc,
      List.singleton_append] at hmiddle ⊢
    exact hmiddle

/-- An entry that is taken out of a list stood in it. -/
theorem perm_cons_eraseIdx {α : Type} {as : List α} {i : Nat} {a : α} (h : as[i]? = some a) :
    (a :: as.eraseIdx i).Perm as := by
  obtain ⟨hlt, rfl⟩ := List.getElem?_eq_some_iff.mp h
  exact List.getElem_cons_eraseIdx_perm hlt

/-- What the end of a copy leaves alone. -/
theorem ending_frame (c : Chronicle) (copy : Copy) (result : CopyResult) :
    (c.ending copy result).station.queue = c.station.queue ∧
      (c.ending copy result).station.output = c.station.output ∧
      (c.ending copy result).walks = c.walks ∧ (c.ending copy result).makers = c.makers ∧
      (c.ending copy result).requested = c.requested ∧
      (c.ending copy result).finished = c.finished := by
  cases result <;> exact ⟨rfl, rfl, rfl, rfl, rfl, rfl⟩

/-- A copy that is asked for is not done, and its item counts it. -/
theorem asking_frame (c : Chronicle) (copy : Copy) (walks : List Walk) :
    (c.asking copy walks).unfinished.Perm (copy :: c.unfinished) ∧
      (c.asking copy walks).station.queue = c.station.queue.modify copy.item Item.startJob ∧
      (c.asking copy walks).station.output = c.station.output ∧
      (c.asking copy walks).walks = walks ∧ (c.asking copy walks).makers = c.makers ∧
      (c.asking copy walks).requested = c.requested ++ [copy] ∧
      (c.asking copy walks).finished = c.finished := by
  unfold asking
  split
  next result _ =>
    exact ⟨(c.starting copy walks).unfinished_ending copy result,
      (c.starting copy walks).ending_frame copy result⟩
  next =>
    refine ⟨?_, rfl, rfl, rfl, rfl, rfl, rfl⟩
    have hmiddle : (c.recording.held ++ copy :: (c.recording.encoding.map Prod.fst
        ++ c.releasing ++ c.broken)).Perm _ := List.perm_middle
    unfold unfinished
    change (c.recording.held ++ [copy] ++ c.recording.encoding.map Prod.fst ++ c.releasing
      ++ c.broken).Perm _
    simp only [List.append_assoc, List.singleton_append] at hmiddle ⊢
    exact hmiddle

/-- A copy that ends is still not done. -/
theorem answering_frame (c : Chronicle) {index : Nat} {copy : Copy} (result : CopyResult)
    (held : c.recording.held[index]? = some copy) :
    (c.answering index copy result).unfinished.Perm c.unfinished ∧
      (c.answering index copy result).station.queue = c.station.queue ∧
      (c.answering index copy result).station.output = c.station.output ∧
      (c.answering index copy result).walks = c.walks ∧
      (c.answering index copy result).makers = c.makers ∧
      (c.answering index copy result).requested = c.requested ∧
      (c.answering index copy result).finished = c.finished := by
  let rest := c.withHeld (c.recording.held.eraseIdx index)
  refine ⟨(rest.unfinished_ending copy result).trans ?_, rest.ending_frame copy result⟩
  unfold unfinished
  simp only [List.append_assoc]
  exact (perm_cons_eraseIdx held).append_right
    (c.recording.encoding.map Prod.fst ++ (c.releasing ++ c.broken))

/-- Pixels are encoded for a copy that is not done, and at most its own slot is filled. -/
theorem encoding_frame (c : Chronicle) {index : Nat} {copy : Copy} {bitmap : Bitmap}
    (copied : c.recording.encoding[index]? = some (copy, bitmap)) :
    copy ∈ c.unfinished ∧ (c.encoding index copy bitmap).unfinished.Perm c.unfinished ∧
      (c.encoding index copy bitmap).station.queue = c.station.queue ∧
      (c.encoding index copy bitmap).station.output.gallery.next = c.station.output.gallery.next ∧
      (∀ slot, copy.slot ≠ slot → (c.encoding index copy bitmap).station.output.gallery.picture? slot
        = c.station.output.gallery.picture? slot) ∧
      (c.encoding index copy bitmap).walks = c.walks ∧
      (c.encoding index copy bitmap).makers = c.makers ∧
      (c.encoding index copy bitmap).requested = c.requested ∧
      (c.encoding index copy bitmap).finished = c.finished := by
  have hpairs := (perm_cons_eraseIdx copied).map Prod.fst
  rw [List.map_cons] at hpairs
  have hmem : copy ∈ c.unfinished := by
    refine List.mem_append_left _ (List.mem_append_left _ (List.mem_append_right _ ?_))
    exact hpairs.subset List.mem_cons_self
  have hall : (c.recording.held ++ copy :: ((c.recording.encoding.eraseIdx index).map Prod.fst
      ++ (c.releasing ++ c.broken))).Perm c.unfinished := by
    unfold unfinished
    simp only [List.append_assoc]
    exact (hpairs.append_right (c.releasing ++ c.broken)).append_left c.recording.held
  have hreleased : (c.recording.held ++ (c.recording.encoding.eraseIdx index).map Prod.fst
      ++ (c.releasing ++ [copy]) ++ c.broken).Perm c.unfinished := by
    refine List.Perm.trans ?_ hall
    simp only [List.append_assoc, List.singleton_append]
    refine List.Perm.append_left c.recording.held ?_
    rw [← List.append_assoc]
    refine List.perm_middle.trans ?_
    rw [List.append_assoc]
  have hbroken : (c.recording.held ++ (c.recording.encoding.eraseIdx index).map Prod.fst
      ++ c.releasing ++ (c.broken ++ [copy])).Perm c.unfinished := by
    refine List.Perm.trans ?_ hreleased
    simp only [List.append_assoc]
    exact ((List.perm_append_comm.append_left c.releasing).append_left _).append_left _
  refine ⟨hmem, ?_⟩
  unfold Chronicle.encoding
  dsimp only
  split
  next picture _ =>
    exact ⟨hreleased, rfl, Gallery.next_fill _ _ _, fun slot hslot => Gallery.picture?_fill hslot _,
      rfl, rfl, rfl, rfl⟩
  next => exact ⟨hreleased, rfl, rfl, fun _ _ => rfl, rfl, rfl, rfl, rfl⟩
  next => exact ⟨hbroken, rfl, rfl, fun _ _ => rfl, rfl, rfl, rfl, rfl⟩

/-- One more copy that is not done is one more that its item has to wait for. -/
theorem owed_of_cons {copy : Copy} (h : k.unfinished.Perm (copy :: c.unfinished)) (id : ItemId) :
    k.owed id = c.owed id + if copy.item = id then 1 else 0 := by
  unfold owed
  rw [h.countP_eq, List.countP_cons]
  simp only [decide_eq_true_eq]

/-- Snapshots that are being made once a copy was asked for were being made before. -/
theorem exists_walk {before after : List Walk} {walk other : Walk} {copy : Copy} {rest : List Copy}
    (walks : c.walks = before ++ walk :: after) (copies : walk.copies = copy :: rest)
    (hother : other ∈ before ++ { walk with copies := rest } :: after) :
    ∃ old ∈ c.walks, other.item = old.item ∧ other.nodes = old.nodes ∧
      other.copies ⊆ old.copies := by
  rw [walks]
  rcases List.mem_append.mp hother with hother | hother
  · exact ⟨other, List.mem_append_left _ hother, rfl, rfl, List.Subset.refl _⟩
  rcases List.mem_cons.mp hother with rfl | hother
  · refine ⟨walk, List.mem_append_right _ List.mem_cons_self, rfl, rfl, ?_⟩
    rw [copies]
    exact List.subset_cons_self copy rest
  · exact ⟨other, List.mem_append_right _ (List.mem_cons_of_mem _ hother), rfl, rfl,
      List.Subset.refl _⟩

/-- When an item knows that a copy is done, the copy is done, and the item counts one less. -/
theorem freeing_frame (c : Chronicle) {before after : List Copy} {copy : Copy}
    (releasing : c.releasing = before ++ copy :: after) :
    c.unfinished.Perm (copy :: (c.freeing copy (before ++ after)).unfinished) ∧
      (c.freeing copy (before ++ after)).station.queue
        = c.station.queue.modify copy.item Item.finishJob ∧
      (c.freeing copy (before ++ after)).station.output = c.station.output := by
  refine ⟨?_, ?_⟩
  · unfold unfinished
    rw [releasing]
    change List.Perm _ (copy :: (c.recording.held ++ c.recording.encoding.map Prod.fst
      ++ (before ++ after) ++ c.broken))
    have hmiddle : (c.recording.held ++ c.recording.encoding.map Prod.fst ++ before
        ++ copy :: (after ++ c.broken)).Perm _ := List.perm_middle
    simp only [List.append_assoc, List.cons_append] at hmiddle ⊢
    exact hmiddle
  · change (c.station.finishJob copy.item).queue = _ ∧ (c.station.finishJob copy.item).output = _
    rcases c.station.finishJob_cases copy.item with h | ⟨-, h⟩ <;> rw [h]
    · rw [queue_requestDrain, output_requestDrain]
      exact ⟨rfl, rfl⟩
    · exact ⟨rfl, rfl⟩

/-! ## The accounts are kept -/

section Counting

variable {σ : Type} {s t : Station σ} {id i : ItemId} {f : Item → Item}

/-- A change of an item leaves the counters of the others alone. -/
theorem pendingJobs_modify_of_ne (hqueue : t.queue = s.queue.modify id f) (hid : id ≠ i) :
    t.pendingJobs i = s.pendingJobs i := by
  unfold Station.pendingJobs
  rw [hqueue, Queue.item?_modify_of_ne _ hid]

/-- The counter of the item that is changed is the one of the changed item. -/
theorem pendingJobs_modify_self (hqueue : t.queue = s.queue.modify id f) {item : Item}
    (hitem : s.queue.item? id = some item) : t.pendingJobs id = (f item).pendingJobs := by
  refine pendingJobs_of_item? ?_
  rw [hqueue, Queue.item?_modify_self, hitem]
  rfl

/-- An item whose picture is done counts one less. -/
theorem pendingJobs_finishJob (hqueue : t.queue = s.queue.modify id Item.finishJob) :
    t.pendingJobs id = s.pendingJobs id - 1 := by
  unfold Station.pendingJobs
  rw [hqueue, Queue.item?_modify_self]
  cases s.queue.item? id with
  | none => rfl
  | some item =>
    obtain ⟨data, content⟩ := item
    cases content <;> rfl

end Counting

namespace Sound

/-- Counting leaves alone what is known of the items. -/
theorem counting (h : c.Sound) {id : ItemId} (f : Snapshot → Snapshot)
    (hf : ∀ s, (f s).nodes = s.nodes)
    (hqueue : k.station.queue = c.station.queue.modify id (Item.mapSnapshot f))
    (hmakers : k.makers = c.makers) :
    (∀ walk ∈ c.walks, ∃ item, k.station.queue.item? walk.item = some item ∧
      item.awaitsNodes = true) ∧
    (∀ {i item}, k.station.queue.item? i = some item → k.Owns i item.nodes) ∧
    ∀ copy ∈ c.requested, ∃ item snapshot, k.station.queue.item? copy.item = some item ∧
      item.content = .snapshot snapshot := by
  have hsame : c.station.queue.SameNodes (c.station.queue.modify id (Item.mapSnapshot f)) :=
    .modify c.station.queue id hf
  unfold Owns
  rw [hqueue, hmakers]
  refine ⟨fun walk hwalk => ?_, fun {i item} hitem => ?_, fun copy hcopy => ?_⟩
  · obtain ⟨item, hitem, hawaits⟩ := h.awaits walk hwalk
    obtain ⟨new, hnew, hnodes⟩ := hsame.after hitem
    refine ⟨new, hnew, ?_⟩
    rw [new.awaitsNodes_eq, hnodes, ← item.awaitsNodes_eq]
    exact hawaits
  · obtain ⟨old, hold, hnodes⟩ := hsame.before hitem
    rw [item.nodes_eq, ← hnodes, ← old.nodes_eq]
    exact h.attached hold
  · obtain ⟨item, snapshot, hitem, hcontent⟩ := h.asked copy hcopy
    rcases Queue.item?_modify_of_some hitem id (Item.mapSnapshot f) with ⟨hsame, -⟩ | ⟨hnew, -⟩
    · exact ⟨item, snapshot, hsame, hcontent⟩
    · exact ⟨_, _, hnew, Item.snapshot_mapSnapshot f hcontent⟩

/-- An item that is accepted for a snapshot gets slots of its own: slots that are known stay known, and those
handed out now are known to be the item's. -/
theorem accept (h : c.Sound) {screen : ScreenInfo} (sketches : List (Node CopySource)) {id : ItemId}
    {s : Station Output} (accepted : c.station.addSnapshot screen = (some id, s)) :
    (c.beginning id sketches s).Sound := by
  obtain ⟨houtput, item, hnew, hawaits, hempty, hstays, hadded⟩ := addSnapshot_frame accepted
  let k := c.beginning id sketches s
  let next := s.output.gallery.next
  let stop := (Node.numberAll next sketches).2
  have hmakers : k.makers = c.makers ++ List.replicate (stop - next) id := rfl
  have hnext : next = c.makers.length := by
    rw [h.known]
    exact congrArg (·.gallery.next) houtput
  have hknown : ∀ {slot : Slot} {i : ItemId}, c.makers[slot]? = some i → k.makers[slot]? = some i := by
    intro slot i hslot
    rw [hmakers, List.getElem?_append_left (List.getElem?_eq_some_iff.mp hslot).1]
    exact hslot
  have hown : ∀ {slot : Slot}, next ≤ slot → slot < stop → k.makers[slot]? = some id := by
    intro slot hge hlt
    rw [hmakers, List.getElem?_append_right (hnext ▸ hge), List.getElem?_replicate, ← hnext,
      if_pos (Nat.sub_lt_sub_right hge hlt)]
  have howns : ∀ {i : ItemId} {nodes : List (Node Slot)}, c.Owns i nodes → k.Owns i nodes :=
    fun howns w hw slot hslot => hknown (howns w hw slot hslot)
  refine ⟨fun i => ?jobs, ?awaits, ?apart, ?known, ?walking, ?sketched, ?attached, h.balanced,
    fun copy hcopy => hknown (h.aimed copy hcopy), ?asked⟩
  case jobs =>
    have hjobs : k.owed i ≤ c.station.pendingJobs i := h.jobs i
    change k.owed i ≤ s.pendingJobs i
    cases hfound : c.station.queue.item? i with
    | some old =>
      rw [pendingJobs_of_item? hfound] at hjobs
      rw [pendingJobs_of_item? (hstays hfound).1]
      exact hjobs
    | none =>
      unfold Station.pendingJobs at hjobs
      rw [hfound] at hjobs
      exact Nat.le_trans hjobs (Nat.zero_le _)
  case awaits =>
    intro walk hwalk
    rcases List.mem_append.mp hwalk with hwalk | hwalk
    · obtain ⟨old, hfound, hawaits⟩ := h.awaits walk hwalk
      exact ⟨old, (hstays hfound).1, hawaits⟩
    · rw [List.mem_singleton.mp hwalk]
      exact ⟨item, hnew, hawaits⟩
  case apart =>
    refine List.pairwise_append.mpr
      ⟨h.apart, List.pairwise_singleton _ _, fun walk hwalk other hother => ?_⟩
    obtain ⟨old, hfound, -⟩ := h.awaits walk hwalk
    rw [List.mem_singleton.mp hother]
    exact (hstays hfound).2
  case known =>
    rw [hmakers, List.length_append, List.length_replicate, ← hnext]
    exact (Gallery.next_extend _ _).symm
  case walking =>
    intro walk hwalk copy hcopy
    rcases List.mem_append.mp hwalk with hwalk | hwalk
    · obtain ⟨hitem, hslot⟩ := h.walking walk hwalk copy hcopy
      exact ⟨hitem, hknown hslot⟩
    · rw [List.mem_singleton.mp hwalk] at hcopy ⊢
      obtain ⟨hitem, hge, hlt⟩ := Recording.slot_of_copies hcopy
      exact ⟨hitem, hown hge hlt⟩
  case sketched =>
    intro walk hwalk
    rcases List.mem_append.mp hwalk with hwalk | hwalk
    · exact howns (h.sketched walk hwalk)
    · rw [List.mem_singleton.mp hwalk]
      intro w hw slot hslot
      obtain ⟨hge, hlt⟩ := Node.slot_of_numberAll hw hslot
      exact hown hge hlt
  case attached =>
    intro i old hfound
    rcases hadded hfound with hfound | ⟨-, rfl⟩
    · exact howns (h.attached hfound)
    · rw [hempty]
      exact fun _ hw => (List.not_mem_nil hw).elim
  case asked =>
    intro copy hcopy
    obtain ⟨old, snapshot, hfound, hcontent⟩ := h.asked copy hcopy
    exact ⟨old, snapshot, (hstays hfound).1, hcontent⟩

/-- A copy that is asked for is counted. -/
theorem ask (h : c.Sound) {before after : List Walk} {walk : Walk} {copy : Copy} {rest : List Copy}
    (walks : c.walks = before ++ walk :: after) (copies : walk.copies = copy :: rest) :
    (c.asking copy (before ++ { walk with copies := rest } :: after)).Sound := by
  obtain ⟨hunfinished, hqueue, houtput, hwalks, hmakers, hrequested, hfinished⟩ :=
    c.asking_frame copy (before ++ { walk with copies := rest } :: after)
  generalize c.asking copy (before ++ { walk with copies := rest } :: after) = k at *
  have hwalk : walk ∈ c.walks := walks ▸ List.mem_append_right _ List.mem_cons_self
  obtain ⟨hitem, hslot⟩ := h.walking walk hwalk copy (copies ▸ List.mem_cons_self)
  obtain ⟨item, hfound, hawaits⟩ := h.awaits walk hwalk
  obtain ⟨snapshot, hsnapshot⟩ := Item.snapshot_of_awaitsNodes hawaits
  rw [← hitem] at hfound
  obtain ⟨hawaits', hattached, hasked⟩ :=
    h.counting (fun s => { s with pendingJobs := s.pendingJobs + 1 }) (fun _ => rfl) hqueue hmakers
  refine ⟨fun i => ?jobs, ?awaits, ?apart, ?known, ?walking, ?sketched, hattached, ?balanced, ?aimed,
    ?asked⟩
  case jobs =>
    rw [owed_of_cons hunfinished]
    by_cases hi : copy.item = i
    · subst hi
      rw [if_pos rfl, pendingJobs_modify_self hqueue hfound, Item.pendingJobs_startJob hsnapshot,
        ← pendingJobs_of_item? hfound]
      exact Nat.add_le_add_right (h.jobs _) 1
    · rw [if_neg hi, pendingJobs_modify_of_ne hqueue hi]
      exact h.jobs i
  case awaits =>
    rw [hwalks]
    intro other hother
    obtain ⟨old, hin, heq, -⟩ := exists_walk walks copies hother
    exact heq ▸ hawaits' old hin
  case apart =>
    have hapart := h.apart
    rw [walks] at hapart
    rw [hwalks]
    refine List.pairwise_map.mp ?_
    have hmap := List.pairwise_map (f := Walk.item) (R := (· ≠ ·)) |>.mpr hapart
    rw [List.map_append, List.map_cons] at hmap ⊢
    exact hmap
  case known => rw [hmakers, houtput, h.known]
  case walking =>
    rw [hwalks, hmakers]
    intro other hother x hx
    obtain ⟨old, hin, heq, -, hsub⟩ := exists_walk walks copies hother
    exact heq ▸ h.walking old hin x (hsub hx)
  case sketched =>
    rw [hwalks]
    unfold Owns
    rw [hmakers]
    intro other hother
    obtain ⟨old, hin, heq, hnodes, -⟩ := exists_walk walks copies hother
    rw [heq, hnodes]
    exact h.sketched old hin
  case balanced =>
    rw [hrequested, hfinished]
    refine List.perm_append_comm.trans ((h.balanced.cons copy).trans ?_)
    exact hunfinished.symm.append_right _
  case aimed =>
    rw [hmakers]
    intro x hx
    rcases List.mem_cons.mp (hunfinished.subset hx) with rfl | hx
    · rw [hitem]
      exact hslot
    · exact h.aimed x hx
  case asked =>
    rw [hrequested]
    intro x hx
    rcases List.mem_append.mp hx with hx | hx
    · exact hasked x hx
    · rw [List.mem_singleton.mp hx, hqueue, Queue.item?_modify_self, hfound]
      exact ⟨_, _, rfl, Item.snapshot_mapSnapshot _ hsnapshot⟩

/-- A copy that is done is no longer counted. -/
theorem release (h : c.Sound) {before after : List Copy} {copy : Copy}
    (releasing : c.releasing = before ++ copy :: after) :
    (c.freeing copy (before ++ after)).Sound := by
  obtain ⟨hunfinished, hqueue, houtput⟩ := c.freeing_frame releasing
  obtain ⟨hawaits, hattached, hasked⟩ := h.counting (k := c.freeing copy (before ++ after))
    (fun s => { s with pendingJobs := s.pendingJobs - 1 }) (fun _ => rfl) hqueue rfl
  refine ⟨fun i => ?jobs, hawaits, h.apart, houtput ▸ h.known, h.walking, h.sketched, hattached,
    ?balanced, ?aimed, hasked⟩
  case jobs =>
    have howed := owed_of_cons hunfinished i
    have hjobs := h.jobs i
    by_cases hi : copy.item = i
    · subst hi
      rw [if_pos rfl] at howed
      rw [pendingJobs_finishJob hqueue]
      omega
    · rw [if_neg hi] at howed
      rw [pendingJobs_modify_of_ne hqueue hi]
      omega
  case balanced =>
    refine h.balanced.trans ((hunfinished.append_right _).trans ?_)
    refine List.perm_middle.symm.trans (List.Perm.append_left _ ?_)
    exact (List.perm_append_comm : ([copy] ++ c.finished).Perm _)
  case aimed =>
    exact fun x hx => h.aimed x (hunfinished.symm.subset (List.mem_cons_of_mem _ hx))

/-- Nodes are attached to an item that they own the slots of. -/
theorem attach (h : c.Sound) {before after : List Walk} {walk : Walk}
    (walks : c.walks = before ++ walk :: after) :
    (c.attaching walk (before ++ after)).Sound := by
  let k := c.attaching walk (before ++ after)
  have hqueue : k.station.queue
      = c.station.queue.modify walk.item (Item.attachNodes walk.nodes) := rfl
  have hwalk : walk ∈ c.walks := walks ▸ List.mem_append_right _ List.mem_cons_self
  have hsub : (before ++ after).Sublist c.walks :=
    walks ▸ (List.Sublist.refl before).append (List.sublist_cons_self walk after)
  have hother : ∀ other ∈ before ++ after, walk.item ≠ other.item := by
    have hapart := h.apart
    rw [walks] at hapart
    exact fun other hin => List.rel_of_pairwise_cons
      (hapart.perm List.perm_middle fun hne => hne.symm) hin
  obtain ⟨item, hfound, -⟩ := h.awaits walk hwalk
  refine ⟨fun i => ?jobs, ?awaits, h.apart.sublist hsub, h.known, ?walking, ?sketched, ?attached,
    h.balanced, h.aimed, ?asked⟩
  case jobs =>
    have hjobs : k.owed i ≤ c.station.pendingJobs i := h.jobs i
    by_cases hi : walk.item = i
    · subst hi
      rw [pendingJobs_modify_self hqueue hfound, Item.pendingJobs_attachNodes,
        ← pendingJobs_of_item? hfound]
      exact hjobs
    · rw [pendingJobs_modify_of_ne hqueue hi]
      exact hjobs
  case awaits =>
    intro other hin
    obtain ⟨old, hold, hawaits⟩ := h.awaits other (hsub.subset hin)
    refine ⟨old, ?_, hawaits⟩
    rw [hqueue, Queue.item?_modify_of_ne _ (hother other hin)]
    exact hold
  case walking => exact fun other hin => h.walking other (hsub.subset hin)
  case sketched => exact fun other hin => h.sketched other (hsub.subset hin)
  case attached =>
    intro i new hnew
    rw [hqueue] at hnew
    rcases Queue.item?_of_modify hnew with ⟨hsame, -⟩ | ⟨old, hold, rfl, rfl⟩
    · exact h.attached hsame
    · rcases old.nodes_attachNodes walk.nodes with hnodes | hnodes <;> rw [hnodes]
      · exact h.sketched walk hwalk
      · exact h.attached hold
  case asked =>
    intro copy hcopy
    obtain ⟨old, snapshot, hold, hcontent⟩ := h.asked copy hcopy
    rw [hqueue]
    rcases Queue.item?_modify_of_some hold walk.item (Item.attachNodes walk.nodes) with
      ⟨hsame, -⟩ | ⟨hnew, -⟩
    · exact ⟨old, snapshot, hsame, hcontent⟩
    · exact ⟨_, _, hnew, Item.snapshot_mapSnapshot _ hcontent⟩

/-- Every step keeps the accounts. -/
theorem step (h : c.Sound) (hstep : Step c k) : k.Sound := by
  cases hstep with
  | deed d single => exact (c.idle_doing single).sound h
  | refuse screen s refused => exact (idle_refuse refused).sound h
  | accept screen sketches id s accepted => exact h.accept sketches accepted
  | ask before after walk copy rest walks copies => exact h.ask walks copies
  | answer index copy result held =>
    obtain ⟨hunfinished, hqueue, houtput, hwalks, hmakers, hrequested, hfinished⟩ :=
      c.answering_frame result held
    exact h.congr (.of_items (congrArg Queue.items hqueue)) hwalks hmakers
      (congrArg (·.gallery.next) houtput) hunfinished hrequested hfinished
  | encode index copy bitmap copied =>
    obtain ⟨-, hunfinished, hqueue, hnext, -, hwalks, hmakers, hrequested, hfinished⟩ :=
      c.encoding_frame copied
    exact h.congr (.of_items (congrArg Queue.items hqueue)) hwalks hmakers hnext hunfinished
      hrequested hfinished
  | release before after copy releasing => exact h.release releasing
  | attach before after walk walks copies => exact h.attach walks
  | request => exact (idle_request c).sound h
  | move busy s moves => exact (idle_move moves).sound h
  | deliver now id item busy head ready => exact (c.idle_delivering id item).sound h

/-- The accounts are kept by any run. -/
theorem run (h : c.Sound) (hrun : Reaches c k) : k.Sound := by
  induction hrun with
  | refl => exact h
  | tail _ hstep ih => exact ih.step hstep

/-- The accounts are right after any run. -/
theorem of_reaches {settings : Settings} (hrun : Reaches (start settings) c) : c.Sound :=
  (sound_start settings).run hrun

end Sound

end Chronicle

end SessionReplay
