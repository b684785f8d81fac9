import Mathlib.Tactic.ByContra
import SessionReplay.Proofs.Queue.Items
import SessionReplay.Proofs.Queue.Use

/-!
# What a drain takes out

A drain whose processor leaves alone what waits takes out the items in front of the first one that is
blocked, and nothing else (`drain_aloof`). What is no longer blocked stays so: an item that is too old
stays too old as long as its age is not wrapped around, nodes that are attached stay, and a picture is
only started while there are no nodes (`verdict_later`, `verdict_call`). So an item that a drain would
take out at some time would be taken out at any later time too, and it is handed over then only if it
would have been before (`Dismissed`).
-/

namespace SessionReplay

/-- The item was handed to the processor. -/
def Fate.Handed (fate : Fate) : Prop := fate = .processed ∨ fate = .failed

/-- What can become of an item that a drain takes out, by what is to be done with it. -/
def Verdict.Allows : Verdict → Fate → Prop
  | .stale, fate => fate = .stale
  | .invalid, fate => fate = .invalid
  | .ready, fate => fate.Handed
  | .blocked, _ => False

/-- An item at which a drain stops cannot be treated. -/
theorem Verdict.Allows.ne_blocked {verdict : Verdict} {fate : Fate} (h : verdict.Allows fate) :
    verdict ≠ .blocked := by
  rintro rfl
  exact h

/-- Only what is ready is handed over. -/
theorem Verdict.Allows.ready_of_handed {verdict : Verdict} {fate : Fate} (h : verdict.Allows fate)
    (hfate : fate.Handed) : verdict = .ready := by
  cases verdict with
  | ready => rfl
  | blocked => exact h.elim
  | _ =>
    obtain rfl : fate = _ := h
    rcases hfate with hfate | hfate <;> cases hfate

/-! ## Items that are not blocked stay so -/

namespace Item

variable {i : Item} {now later maxDelay : Int}

/-- A drain looks at the age of an item first. -/
theorem verdict_eq_stale_iff :
    i.verdict now maxDelay = .stale ↔ i.isTooOld now maxDelay = true := by
  unfold verdict
  by_cases hold : i.isTooOld now maxDelay = true
  · simp [hold]
  · rw [if_neg hold]
    split
    · simp [hold]
    · split <;> simp [hold]

/-- What is too old is so whatever it holds. -/
theorem verdict_of_stale {j : Item} (hdata : j.data = i.data)
    (h : i.verdict now maxDelay = .stale) : j.verdict now maxDelay = .stale := by
  rw [verdict_eq_stale_iff, isTooOld] at h ⊢
  rwa [hdata]

/-- What is not blocked is treated alike as long as it holds something or not, and stays complete if it
is. -/
theorem verdict_of_ne_blocked {j : Item} (hdata : j.data = i.data) (hvalid : j.isValid = i.isValid)
    (hready : i.isReady = true → j.isReady = true) (h : i.verdict now maxDelay ≠ .blocked) :
    j.verdict now maxDelay = i.verdict now maxDelay := by
  unfold verdict isTooOld at h ⊢
  rw [hdata, hvalid]
  by_cases hcomplete : i.isReady = true
  · rw [hcomplete, hready hcomplete]
  · simp only [hcomplete] at h ⊢
    split at h
    · next hold => simp [hold]
    · split at h
      · next hold hempty => simp [hold, hempty]
      · simp at h

/-- Among ages that are not wrapped around, an item is too old if its age is too large. -/
theorem isTooOld_iff (h : InReach i.data.timestamp now) :
    i.isTooOld now maxDelay = true ↔ maxDelay < now - i.data.timestamp := by
  unfold isTooOld
  rw [decide_eq_true_iff, elapsed_of_inReach h]

/-- **Later an item is treated as before**, or it is too old, if its age is not wrapped around. -/
theorem verdict_later (i : Item) (maxDelay : Int) (hle : now ≤ later)
    (hnow : InReach i.data.timestamp now) (hlater : InReach i.data.timestamp later) :
    i.verdict later maxDelay = i.verdict now maxDelay ∨ i.verdict later maxDelay = .stale := by
  by_cases hold : i.isTooOld later maxDelay = true
  · right
    exact verdict_eq_stale_iff.mpr hold
  · left
    have hfresh : ¬i.isTooOld now maxDelay = true := by
      rw [isTooOld_iff hlater] at hold
      rw [isTooOld_iff hnow]
      omega
    simp [verdict, hold, hfresh]

/-- An item whose nodes are not there can only be too old, or it is blocked. -/
theorem stale_of_awaitsNodes (hawaits : i.awaitsNodes = true)
    (h : i.verdict now maxDelay ≠ .blocked) : i.verdict now maxDelay = .stale := by
  obtain ⟨s, hs⟩ := snapshot_of_awaitsNodes hawaits
  have hnone : s.nodes = none := by simpa [awaitsNodes, hs] using hawaits
  by_contra hstale
  apply h
  have hfresh : ¬i.isTooOld now maxDelay = true := fun hold => hstale (by simp [verdict, hold])
  simp [verdict, hfresh, isValid, isReady, hs, hnone]

/-- A picture that is started for an item without nodes changes nothing for one that is not
blocked. -/
theorem verdict_startJob (hawaits : i.awaitsNodes = true) (h : i.verdict now maxDelay ≠ .blocked) :
    i.startJob.verdict now maxDelay = i.verdict now maxDelay := by
  have hstale := stale_of_awaitsNodes hawaits h
  obtain ⟨s, hs⟩ := snapshot_of_awaitsNodes hawaits
  have hdata : i.startJob.data = i.data := by simp [startJob, mapSnapshot, hs]
  rw [hstale]
  exact verdict_of_stale hdata hstale

/-- Neither does a picture that is done: if the item is complete, no picture is missing, and none less
is missing then. -/
theorem verdict_finishJob (h : i.verdict now maxDelay ≠ .blocked) :
    i.finishJob.verdict now maxDelay = i.verdict now maxDelay := by
  obtain ⟨data, content⟩ := i
  cases content with
  | touch records => rfl
  | snapshot s =>
    refine verdict_of_ne_blocked rfl rfl (fun hready => ?_) h
    have hnone : s.pendingJobs = 0 := by
      simp only [isReady, Bool.and_eq_true, beq_iff_eq] at hready
      exact hready.2
    simpa [finishJob, mapSnapshot, isReady, hnone] using hready

/-- Neither do nodes that are attached. -/
theorem verdict_attachNodes (nodes : List (Node Slot)) (h : i.verdict now maxDelay ≠ .blocked) :
    (i.attachNodes nodes).verdict now maxDelay = i.verdict now maxDelay := by
  by_cases hawaits : i.awaitsNodes = true
  · have hstale := stale_of_awaitsNodes hawaits h
    obtain ⟨s, hs⟩ := snapshot_of_awaitsNodes hawaits
    have hdata : (i.attachNodes nodes).data = i.data := by simp [attachNodes, mapSnapshot, hs]
    rw [hstale]
    exact verdict_of_stale hdata hstale
  · have hsame : i.attachNodes nodes = i := by
      obtain ⟨data, content⟩ := i
      cases content with
      | touch records => rfl
      | snapshot s =>
        have hthere : ¬s.nodes.isNone = true := hawaits
        simp [attachNodes, mapSnapshot, hthere]
    rw [hsame]

end Item

namespace Queue

variable {q : Queue} {now next : Int} {x : ItemId × Fate}

/-- A drain at a given time takes an item out once it comes to it. -/
def passes (q : Queue) (now : Int) (id : ItemId) : Bool :=
  ((q.item? id).map fun item => item.verdict now q.maxItemDelay != .blocked).getD false

/-- A drain passes an item exactly if it does not stop there. -/
theorem passes_iff {id : ItemId} :
    q.passes now id = true ↔
      ∃ item, q.item? id = some item ∧ item.verdict now q.maxItemDelay ≠ .blocked := by
  unfold passes
  cases q.item? id <;> simp

/-- A drain at a given time can treat an item in some way. -/
def Treats (q : Queue) (now : Int) (x : ItemId × Fate) : Prop :=
  ∃ item, q.item? x.1 = some item ∧ (item.verdict now q.maxItemDelay).Allows x.2

/-- A drain at a given time takes an item out, and hands it over only if it was handed over before. -/
def Dismissed (q : Queue) (now : Int) (x : ItemId × Fate) : Prop :=
  ∃ item, q.item? x.1 = some item ∧ item.verdict now q.maxItemDelay ≠ .blocked ∧
    (item.verdict now q.maxItemDelay = .ready → x.2.Handed)

/-- An item that is treated is dismissed. -/
theorem Treats.dismissed (h : q.Treats now x) : q.Dismissed now x := by
  obtain ⟨item, hitem, hallows⟩ := h
  refine ⟨item, hitem, hallows.ne_blocked, fun hready => ?_⟩
  rw [hready] at hallows
  exact hallows

/-- A drain passes an item that was dismissed. -/
theorem Dismissed.passes (h : q.Dismissed now x) : q.passes now x.1 = true := by
  obtain ⟨item, hitem, hpasses, -⟩ := h
  exact passes_iff.mpr ⟨item, hitem, hpasses⟩

/-- No item is so far from the given time that its age is wrapped around then. -/
def Near (q : Queue) (now : Int) : Prop := ∀ d ∈ q.data, InReach d.timestamp now

/-- What was dismissed stays dismissed as time goes by, and no age is wrapped around. -/
theorem Dismissed.later (h : q.Dismissed now x) (hle : now ≤ next) (hnow : q.Near now)
    (hnext : q.Near next) : q.Dismissed next x := by
  obtain ⟨item, hitem, hpasses, hhanded⟩ := h
  have hmade : item.data ∈ q.data := List.mem_of_getElem? (data_getElem? hitem)
  refine ⟨item, hitem, ?_, ?_⟩ <;>
    rcases item.verdict_later q.maxItemDelay hle (hnow _ hmade) (hnext _ hmade) with hsame | hstale
  · rwa [hsame]
  · simp [hstale]
  · rwa [hsame]
  · simp [hstale]

/-- When and in which view an item is made by a call. -/
def Call.made? : Call → Option ContextData
  | .create item => some item.data
  | _ => none

/-- A call is in order: an offer fits, and a picture is started only while there are no nodes. -/
def Admits (q : Queue) : Call → Prop
  | .offer _ => q.length < q.capacity
  | .startJob id => ∀ item, q.item? id = some item → item.awaitsNodes = true
  | _ => True

/-- The greatest age stays the same. -/
@[simp] theorem maxItemDelay_call (q : Queue) (c : Call) :
    (q.call c).maxItemDelay = q.maxItemDelay := by
  cases c with
  | offer id =>
    rcases Nat.lt_or_ge q.length q.capacity with h | h
    · rw [(offer_of_lt id h).1]
      rfl
    · rw [(offer_of_le id h).1]
  | _ => rfl

/-- **A call in order leaves an item that is not blocked as it is**, as far as drains can tell. -/
theorem verdict_call {c : Call} (hc : q.Admits c) {id : ItemId} {item : Item} {maxDelay : Int}
    (hitem : q.item? id = some item) (h : item.verdict now maxDelay ≠ .blocked) :
    ∃ new, (q.call c).item? id = some new ∧
      new.verdict now maxDelay = item.verdict now maxDelay := by
  have hmodify : ∀ (i : ItemId) (f : Item → Item),
      (i = id → (f item).verdict now maxDelay = item.verdict now maxDelay) →
      ∃ new, (q.modify i f).item? id = some new ∧
        new.verdict now maxDelay = item.verdict now maxDelay := by
    intro i f hf
    rcases item?_modify_of_some hitem i f with ⟨hsame, -⟩ | ⟨hnew, hid⟩
    · exact ⟨item, hsame, rfl⟩
    · exact ⟨f item, hnew, hf hid⟩
  cases c with
  | create new => exact ⟨item, item?_add_of_some hitem new, rfl⟩
  | offer i =>
    rw [(offer_of_lt i hc).1]
    exact ⟨item, hitem, rfl⟩
  | startJob i => exact hmodify i _ fun hid => Item.verdict_startJob (hc item (hid ▸ hitem)) h
  | finishJob i => exact hmodify i _ fun _ => Item.verdict_finishJob h
  | attachNodes i nodes => exact hmodify i _ fun _ => Item.verdict_attachNodes nodes h

/-- What was dismissed stays dismissed whatever is called. -/
theorem Dismissed.call (h : q.Dismissed now x) {c : Call} (hc : q.Admits c) :
    (q.call c).Dismissed now x := by
  obtain ⟨item, hitem, hpasses, hhanded⟩ := h
  obtain ⟨new, hnew, hsame⟩ := verdict_call hc hitem hpasses
  unfold Dismissed
  rw [maxItemDelay_call]
  refine ⟨new, hnew, ?_, ?_⟩ <;> rwa [hsame]

end Queue

/-! ## Drains with a processor that leaves alone what waits -/

/-- The same items wait in the second queue, as they wait in the first one. -/
structure Queue.SameWaiting (q r : Queue) : Prop where
  /-- Items are too old at the same age. -/
  maxItemDelay : r.maxItemDelay = q.maxItemDelay
  /-- There is room for as many items. -/
  capacity : r.capacity = q.capacity
  /-- The same ids wait, in the same order. -/
  waiting : r.waiting = q.waiting
  /-- Their items are the same. -/
  item? : ∀ id ∈ q.waiting, r.item? id = q.item? id

/-- A processor offers nothing and leaves the items that wait as they are. -/
def Processor.Aloof {σ : Type} (p : Processor σ) : Prop :=
  ∀ item (q : Queue) state, q.SameWaiting (p.handle item q state).queue

/-- A processor leaves the queue alone, with all its items. -/
def Processor.Detached {σ : Type} (p : Processor σ) : Prop :=
  ∀ item q state, (p.handle item q state).queue = q

namespace Queue

variable {q r : Queue} {now : Int}

/-- The items that wait are the same as themselves. -/
theorem SameWaiting.refl (q : Queue) : q.SameWaiting q :=
  ⟨rfl, rfl, rfl, fun _ _ => rfl⟩

/-- Items that wait are treated alike. -/
theorem SameWaiting.treats (h : q.SameWaiting r) {x : ItemId × Fate} (hx : x.1 ∈ q.waiting)
    (htreats : r.Treats now x) : q.Treats now x := by
  obtain ⟨item, hitem, hallows⟩ := htreats
  rw [h.item? _ hx] at hitem
  rw [h.maxItemDelay] at hallows
  exact ⟨item, hitem, hallows⟩

/-- Behind the head, the same items wait. -/
theorem SameWaiting.dropHead (h : q.SameWaiting r) : q.dropHead.SameWaiting r.dropHead where
  maxItemDelay := h.maxItemDelay
  capacity := h.capacity
  waiting := congrArg List.tail h.waiting
  item? := fun id hid => h.item? id (List.mem_of_mem_tail hid)

/-- They are the same if they are the same as others that are the same. -/
theorem SameWaiting.trans {t : Queue} (h : q.SameWaiting r) (h' : r.SameWaiting t) :
    q.SameWaiting t where
  maxItemDelay := h'.maxItemDelay.trans h.maxItemDelay
  capacity := h'.capacity.trans h.capacity
  waiting := h'.waiting.trans h.waiting
  item? := fun id hid => (h'.item? id (h.waiting ▸ hid)).trans (h.item? id hid)

end Queue

/-- A processor that leaves the queue alone leaves alone what waits. -/
theorem Processor.Detached.aloof {σ : Type} {p : Processor σ} (hp : p.Detached) : p.Aloof := by
  intro item q state
  rw [hp]
  exact .refl q

namespace Scan

variable {σ : Type} {p : Processor σ} {now : Int}

/-- A turn with such a processor takes the head out and leaves what waits behind it alone. -/
theorem step?_aloof (hp : p.Aloof) {s next : Scan σ} (h : s.step? p now = some next) :
    ∃ id fate, s.queue.waiting = id :: s.queue.dropHead.waiting ∧ s.queue.Treats now (id, fate) ∧
      s.queue.dropHead.SameWaiting next.queue ∧ next.popped = s.popped ++ [(id, fate)] := by
  obtain ⟨id, item, hhead, hcases⟩ := step?_eq_some_iff.mp h
  have hwaits := Queue.waiting_eq_cons_of_head? hhead
  have hitem := (Queue.head?_eq_some_iff.mp hhead).2
  rcases hcases with ⟨hverdict, rfl⟩ | ⟨hverdict, rfl⟩ | ⟨hverdict, rfl⟩
  · exact ⟨id, .stale, hwaits, ⟨item, hitem, by rw [hverdict]; rfl⟩, .refl _, rfl⟩
  · exact ⟨id, .invalid, hwaits, ⟨item, hitem, by rw [hverdict]; rfl⟩, .refl _, rfl⟩
  · refine ⟨id, _, hwaits, ⟨item, hitem, ?_⟩, ?_, popped_process s id item⟩
    · rw [hverdict]
      dsimp only
      split
      · exact .inr rfl
      · exact .inl rfl
    · rw [queue_process]
      exact hp item s.queue.dropHead s.state

/-- Where no turn is left, the first item that waits is blocked. -/
theorem waiting_of_step?_eq_none {q : Queue} {s : Scan σ}
    (hsame : { q with waiting := s.queue.waiting }.SameWaiting s.queue)
    (h : s.step? p now = none) :
    s.queue.waiting.takeWhile (q.passes now) = [] ∧
      s.queue.waiting.dropWhile (q.passes now) = s.queue.waiting := by
  cases hwaiting : s.queue.waiting with
  | nil => simp
  | cons id rest =>
    have hblocked : q.passes now id = false := by
      by_contra hpasses
      obtain ⟨item, hitem, hverdict⟩ := Queue.passes_iff.mp (eq_true_of_ne_false hpasses)
      have hthere : s.queue.item? id = some item := by
        rw [hsame.item? id (by simp [hwaiting])]
        exact hitem
      have hhead : s.queue.head? = some (id, item) :=
        Queue.head?_eq_some_iff.mpr ⟨by rw [hwaiting]; rfl, hthere⟩
      apply hverdict
      rw [← step?_eq_none_iff.mp h id item hhead, hsame.maxItemDelay]
    simp [hblocked]

/-- Turns one after the other take out what is in front of the first item that was blocked in the
beginning. -/
theorem run_aloof (hp : p.Aloof) (q : Queue) (fuel : Nat) (s : Scan σ)
    (hsame : { q with waiting := s.queue.waiting }.SameWaiting s.queue)
    (hfuel : s.queue.length ≤ fuel) :
    ∃ popped, (s.run p now fuel).popped = s.popped ++ popped ∧
      popped.map Prod.fst = s.queue.waiting.takeWhile (q.passes now) ∧
      (∀ x ∈ popped, q.Treats now x) ∧
      { q with waiting := s.queue.waiting.dropWhile (q.passes now) }.SameWaiting
        (s.run p now fuel).queue := by
  induction fuel generalizing s with
  | zero =>
    have hnil : s.queue.waiting = [] := List.eq_nil_of_length_eq_zero (Nat.le_zero.mp hfuel)
    rw [hnil] at hsame
    exact ⟨[], by simp [run], by simp [hnil], by simp, by rw [hnil]; exact hsame⟩
  | succ fuel ih =>
    cases hstep : s.step? p now with
    | none =>
      obtain ⟨htake, hdrop⟩ := waiting_of_step?_eq_none hsame hstep
      rw [run_of_step?_eq_none _ hstep, htake, hdrop]
      exact ⟨[], by simp, rfl, by simp, hsame⟩
    | some next =>
      obtain ⟨id, fate, hwaits, htreats, hrest, hpopped⟩ := step?_aloof hp hstep
      have hlength : next.queue.length ≤ fuel := by
        unfold Queue.length at hfuel ⊢
        rw [hwaits, List.length_cons] at hfuel
        rw [hrest.waiting]
        omega
      have hnext : { q with waiting := next.queue.waiting }.SameWaiting next.queue := by
        have hbehind := hsame.dropHead.trans hrest
        rw [hrest.waiting]
        exact hbehind
      obtain ⟨popped, hrun, hids, hall, hleft⟩ := ih next hnext hlength
      have hwaiting : id ∈ s.queue.waiting := by
        rw [hwaits]
        exact List.mem_cons_self
      have hhead : q.Treats now (id, fate) := hsame.treats hwaiting htreats
      have hpasses : q.passes now id = true := hhead.dismissed.passes
      rw [run_succ_of_step? hstep]
      refine ⟨(id, fate) :: popped, ?popped, ?ids, ?treated, ?left⟩
      case popped => rw [hrun, hpopped, List.append_assoc, List.singleton_append]
      case ids => rw [List.map_cons, hids, hrest.waiting, hwaits, List.takeWhile_cons_of_pos hpasses]
      case treated =>
        intro x hx
        rcases List.mem_cons.mp hx with rfl | hx
        · exact hhead
        · exact hall x hx
      case left => rwa [hwaits, List.dropWhile_cons_of_pos hpasses, ← hrest.waiting]

/-- If the queue is left alone altogether, then only what waits changes. -/
theorem run_detached (hp : p.Detached) (fuel : Nat) (s : Scan σ) :
    (s.run p now fuel).queue = { s.queue with waiting := (s.run p now fuel).queue.waiting } := by
  induction fuel generalizing s with
  | zero => rfl
  | succ fuel ih =>
    cases hstep : s.step? p now with
    | none => rw [run_of_step?_eq_none _ hstep]
    | some next =>
      have hnext : next.queue = s.queue.dropHead := by
        obtain ⟨id, item, -, hcases⟩ := step?_eq_some_iff.mp hstep
        rcases hcases with ⟨-, rfl⟩ | ⟨-, rfl⟩ | ⟨-, rfl⟩
        · rfl
        · rfl
        · rw [queue_process, hp]
      rw [run_succ_of_step? hstep, ih next, hnext]
      rfl

end Scan

/-- **A drain takes out the items in front of the first one that is blocked**, if the processor leaves
alone what waits. -/
theorem Queue.drain_aloof {σ : Type} {p : Processor σ} (hp : p.Aloof) (now : Int) (q : Queue)
    (state : σ) :
    (q.drain p now state).popped.map Prod.fst = q.waiting.takeWhile (q.passes now) ∧
      (∀ x ∈ (q.drain p now state).popped, q.Treats now x) ∧
      { q with waiting := q.waiting.dropWhile (q.passes now) }.SameWaiting
        (q.drain p now state).queue := by
  obtain ⟨popped, hpopped, hids, hall, hqueue⟩ :=
    @Scan.run_aloof σ p now hp q (q.length + p.budget now q state)
      { queue := q, state := state } (.refl q) (Nat.le_add_right _ _)
  have heq : (q.drain p now state).popped = popped := by
    simpa [Queue.drain] using hpopped
  rw [heq]
  exact ⟨hids, hall, hqueue⟩

/-- If the processor leaves the queue alone altogether, the drain changes nothing else in it. -/
theorem Queue.drain_detached {σ : Type} {p : Processor σ} (hp : p.Detached) (now : Int) (q : Queue)
    (state : σ) :
    (q.drain p now state).popped.map Prod.fst = q.waiting.takeWhile (q.passes now) ∧
      (∀ x ∈ (q.drain p now state).popped, q.Treats now x) ∧
      (q.drain p now state).queue
        = { q with waiting := q.waiting.dropWhile (q.passes now) } := by
  obtain ⟨hids, hall, hsame⟩ := drain_aloof hp.aloof now q state
  have hqueue : (q.drain p now state).queue
      = { q with waiting := (q.drain p now state).queue.waiting } :=
    Scan.run_detached hp _ { queue := q, state := state }
  rw [hsame.waiting] at hqueue
  exact ⟨hids, hall, hqueue⟩

end SessionReplay
