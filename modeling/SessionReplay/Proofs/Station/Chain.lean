import Mathlib.Data.List.Chain
import SessionReplay.Proofs.Queue.Items
import SessionReplay.Proofs.Station.Turns
import SessionReplay.Queue.Ledger

/-!
# The chain of views

Every item remembers the view of the item accepted before it, whatever was refused in between. The
invariant is `Chained`: the items form a chain, the tracker stands at its end, and what waits is the
last part of it. It depends on the queue and the tracker only, and only two things touch these:
`Chained.accept`, when an item is accepted, and `Chained.takeHead`, when the worker takes one out.
-/

namespace SessionReplay

/-- The view that an item made after the given ones follows. -/
def lastView (ds : List ContextData) : ViewContext :=
  (ds.getLast?.map ContextData.current).getD {}

/-- The last view is that of the last item. -/
@[simp] theorem lastView_append (ds : List ContextData) (d : ContextData) :
    lastView (ds ++ [d]) = d.current := by
  unfold lastView
  rw [List.getLast?_append, List.getLast?_singleton]
  rfl

namespace Station

variable {σ : Type} {e : Engine σ} {s t : Station σ} {capacity : Nat}

/-- The items of a station with room for `capacity` items form a chain of views. -/
structure Chained (capacity : Nat) (s : Station σ) : Prop where
  /-- The capacity stays. -/
  room : s.queue.capacity = capacity
  /-- The first item follows no view. -/
  first : ∀ d ∈ s.queue.data.head?, d.previous = {}
  /-- Every other item follows the view of the one accepted before it. -/
  linked : s.queue.data.IsChain fun d d' => d'.previous = d.current
  /-- Every item belongs to a valid view. -/
  valid : ∀ d ∈ s.queue.data, d.current.isValid = true
  /-- The tracker remembers the view of the last item. -/
  tracked : s.tracker.last = lastView s.queue.data
  /-- What waits are the last items, in the order in which they were accepted. -/
  waits : ∃ n ≤ s.queue.data.length,
    s.queue.waiting = List.range' n (s.queue.data.length - n)

/-- The items of a station that nothing has happened to form a chain. -/
theorem chained_fresh (maxItemDelay : Int) (capacity : Nat) (output : σ) :
    (fresh maxItemDelay capacity output).Chained capacity where
  room := rfl
  first := nofun
  linked := .nil
  valid := nofun
  tracked := rfl
  waits := ⟨0, Nat.le_refl _, rfl⟩

namespace Chained

/-- The chain is in the queue and the tracker only. -/
theorem congr (h : s.Chained capacity) (hroom : t.queue.capacity = s.queue.capacity)
    (hdata : t.queue.data = s.queue.data) (hwaiting : t.queue.waiting = s.queue.waiting)
    (htracker : t.tracker = s.tracker) : t.Chained capacity where
  room := hroom.trans h.room
  first := hdata ▸ h.first
  linked := hdata ▸ h.linked
  valid := hdata ▸ h.valid
  tracked := by rw [htracker, hdata, h.tracked]
  waits := by
    rw [hwaiting, hdata]
    exact h.waits

/-- Only the queue and the view that the next item follows matter. -/
theorem of_queue (h : s.Chained capacity) (hqueue : t.queue = s.queue)
    (htracker : t.tracker = s.tracker) : t.Chained capacity :=
  h.congr (congrArg Queue.capacity hqueue) (congrArg Queue.data hqueue)
    (congrArg Queue.waiting hqueue) htracker

/-- An item that is accepted comes at the end of the chain: its id is the number of items so far. -/
theorem accept (h : s.Chained capacity) {view : ViewContext} (hvalid : view.isValid = true)
    (content : ItemContent) : (s.accept view content).Chained capacity := by
  have hdata : (s.accept view content).queue.data
      = s.queue.data ++ [(s.newItem view content).data] := Queue.data_add _ _
  have hfollows : (s.newItem view content).data.previous = lastView s.queue.data := h.tracked
  refine ⟨h.room, ?first, ?linked, ?valid, ?tracked, ?waits⟩
  case first =>
    rw [hdata]
    cases hds : s.queue.data with
    | nil =>
      rintro _ ⟨⟩
      rw [hfollows, hds]
      rfl
    | cons d ds =>
      have hfirst := h.first
      rw [hds] at hfirst
      exact hfirst
  case linked =>
    rw [hdata]
    refine h.linked.append (.singleton _) ?_
    rintro d hd _ ⟨⟩
    rw [hfollows, lastView, Option.mem_def.mp hd]
    rfl
  case valid =>
    rw [hdata]
    intro d hd
    rcases List.mem_append.mp hd with hd | hd
    · exact h.valid d hd
    · rw [List.mem_singleton.mp hd]
      exact hvalid
  case tracked =>
    rw [hdata, lastView_append]
    rfl
  case waits =>
    obtain ⟨n, hn, hwaiting⟩ := h.waits
    have hnext : (s.accept view content).queue.waiting
        = s.queue.waiting ++ [s.queue.data.length] := by
      rw [← Queue.nextId_eq]
      rfl
    refine ⟨n, by rw [hdata, List.length_append]; omega, ?_⟩
    rw [hnext, hwaiting, hdata, List.length_append, List.length_singleton]
    have hlast : s.queue.data.length = n + (s.queue.data.length - n) := by omega
    have hmore : s.queue.data.length + 1 - n = s.queue.data.length - n + 1 := by omega
    rw [hmore, List.range'_1_concat, ← hlast]

/-- Taking the head out shortens what waits, not the chain. -/
theorem takeHead (h : s.Chained capacity) : s.takeHead.Chained capacity where
  room := h.room
  first := h.first
  linked := h.linked
  valid := h.valid
  tracked := h.tracked
  waits := by
    obtain ⟨n, hn, hwaiting⟩ := h.waits
    change ∃ n ≤ s.queue.data.length,
      s.queue.waiting.tail = List.range' n (s.queue.data.length - n)
    rw [hwaiting]
    rcases Nat.eq_or_lt_of_le hn with rfl | hlt
    · refine ⟨s.queue.data.length, Nat.le_refl _, ?_⟩
      rw [Nat.sub_self, List.range'_zero, List.tail_nil]
    · refine ⟨n + 1, hlt, ?_⟩
      have hmore : s.queue.data.length - n = s.queue.data.length - (n + 1) + 1 := by omega
      rw [hmore, List.range'_succ, List.tail_cons]

/-- An item belongs to a valid view. -/
theorem valid_of_item? (h : s.Chained capacity) {id : ItemId} {item : Item}
    (hitem : s.queue.item? id = some item) : item.data.current.isValid = true :=
  h.valid item.data (List.mem_of_getElem? (Queue.data_getElem? hitem))

/-- An item follows the view of the item accepted just before it. -/
theorem previous_of_item? (h : s.Chained capacity) {id : ItemId} {item : Item}
    (hitem : s.queue.item? id = some item) :
    item.data.previous = lastView (s.queue.data.take id) := by
  have hdata := Queue.data_getElem? hitem
  cases id with
  | zero =>
    rw [← List.head?_eq_getElem?] at hdata
    exact h.first item.data hdata
  | succ n =>
    obtain ⟨hlt, heq⟩ := List.getElem?_eq_some_iff.mp hdata
    have hlink := List.isChain_iff_getElem.mp h.linked n hlt
    rw [heq] at hlink
    have hbefore : s.queue.data[n]? = some s.queue.data[n] :=
      List.getElem?_eq_getElem (Nat.lt_of_succ_lt hlt)
    rw [hlink, lastView, List.getLast?_take]
    simp [hbefore]

/-- What items hold is not part of the chain. -/
theorem modifyItem (h : s.Chained capacity) (id : ItemId) (f : Snapshot → Snapshot) :
    (s.modifyItem id (Item.mapSnapshot f)).Chained capacity :=
  h.congr rfl (Queue.data_modify s.queue id (Item.data_mapSnapshot f)) rfl rfl

/-- A request for a drain keeps the chain. -/
theorem requestDrain (h : s.Chained capacity) : s.requestDrain.Chained capacity := by
  refine h.congr ?_ ?_ ?_ s.tracker_requestDrain
  all_goals rw [queue_requestDrain]

/-- Every call keeps the chain. -/
theorem call (h : s.Chained capacity) (c : Call σ) : (s.call c).Chained capacity := by
  cases c with
  | add content =>
    change (s.addItem content).2.Chained capacity
    rcases s.addItem_cases content with ⟨view, ⟨-, hvalid, -⟩, hadd⟩ | ⟨-, event, hadd⟩
    · rw [hadd]
      exact h.accept hvalid content
    · rw [hadd]
      exact h.congr rfl rfl rfl rfl
  | requestDrain => exact h.requestDrain
  | sendFlush =>
    rcases s.call_sendFlush_cases with ⟨-, hsend⟩ | ⟨-, hsend⟩
    · rw [hsend]
      exact h.congr rfl rfl rfl rfl
    · rw [hsend]
      exact h
  | startJob id => exact h.modifyItem id _
  | finishJob id =>
    change (s.finishJob id).Chained capacity
    rcases s.finishJob_cases id with hfinish | ⟨-, hfinish⟩
    · rw [hfinish]
      exact (h.modifyItem id _).requestDrain
    · rw [hfinish]
      exact h.modifyItem id _
  | attachNodes id nodes => exact h.modifyItem id _
  | activate view => exact h.congr rfl rfl rfl rfl
  | setClock millis => exact h.congr rfl rfl rfl rfl
  | note event => exact h.congr rfl rfl rfl rfl
  | put output => exact h.congr rfl rfl rfl rfl

/-- A turn of the worker keeps the chain, if all it does while it has an item are calls. -/
theorem turn (he : Orderly e) {now : Int} (h : s.Chained capacity) (hturn : Turn e now s t) :
    t.Chained capacity := by
  cases hturn with
  | stale id item head verdict => exact h.takeHead.congr rfl rfl rfl rfl
  | invalid id item head verdict => exact h.takeHead.congr rfl rfl rfl rfl
  | ready id item head verdict =>
    obtain ⟨cs, hcs⟩ := he item s.takeHead
    have hhandled : (e.handle item s.takeHead).1.Chained capacity := by
      rw [hcs]
      exact calls_induction (fun c _ _ hs => hs.call c) h.takeHead
    unfold afterHandling
    split
    · exact hhandled.congr rfl rfl rfl rfl
    · exact hhandled

/-- A step of the worker keeps the chain. -/
theorem work (he : Orderly e) (h : s.Chained capacity) (hstep : s.step? e = some t) :
    t.Chained capacity := by
  refine work_induction (P := Chained capacity) ?_ (fun _ _ hturn hu => hu.turn he hturn) h hstep
  intro u v hu _ hqueue htracker _ _
  exact hu.of_queue hqueue htracker

/-- Every step of a station keeps the chain. -/
theorem step (he : Orderly e) (h : s.Chained capacity) (hstep : Step e s t) :
    t.Chained capacity := by
  cases hstep with
  | call c => exact h.call c
  | start =>
    unfold startWorker
    split
    · exact h.congr rfl rfl rfl rfl
    · exact h
  | abandon =>
    unfold abandonWorker
    split
    · obtain ⟨replies, hdrop⟩ :=
        dropReplies_eq { s with mailbox := [], worker := .abandoned } s.mailbox
      rw [hdrop]
      exact h.congr rfl rfl rfl rfl
    · exact h
  | shutdown _ sent =>
    unfold sendShutdown send at sent
    cases htakes : s.worker.takesCommands with
    | true =>
      rw [htakes] at sent
      cases sent
      exact h.congr rfl rfl rfl rfl
    | false =>
      rw [htakes] at sent
      cases sent
  | work _ works => exact h.work he works

/-- The items form a chain after any run. -/
theorem run (he : Orderly e) (h : s.Chained capacity) (hrun : Reaches e s t) :
    t.Chained capacity := by
  induction hrun with
  | refl => exact h
  | tail _ hstep ih => exact ih.step he hstep

end Chained

/-- No call but making an item adds to the chain. -/
theorem data_call_of_ne_add (s : Station σ) {c : Call σ} (hc : ∀ content, c ≠ .add content) :
    (s.call c).queue.data = s.queue.data := by
  cases c with
  | add content => exact absurd rfl (hc content)
  | requestDrain => exact congrArg Queue.data s.queue_requestDrain
  | sendFlush =>
    rcases s.call_sendFlush_cases with ⟨-, hsend⟩ | ⟨-, hsend⟩ <;> rw [hsend]
  | startJob id => exact Queue.data_modify s.queue id (Item.data_mapSnapshot _)
  | finishJob id =>
    change (s.finishJob id).queue.data = s.queue.data
    have hmodify : (s.modifyItem id Item.finishJob).queue.data = s.queue.data :=
      Queue.data_modify s.queue id (Item.data_mapSnapshot _)
    rcases s.finishJob_cases id with hfinish | ⟨-, hfinish⟩
    · rw [hfinish, queue_requestDrain, hmodify]
    · rw [hfinish, hmodify]
  | attachNodes id nodes => exact Queue.data_modify s.queue id (Item.data_mapSnapshot _)
  | _ => rfl

/-- **Changes of view chain through refusals.** After any run, the accepted items, of which the last
ones wait, form a chain: the first follows the default view, every other one follows the view of the
item accepted before it, and all of them belong to valid views. The next item is accepted exactly in
a valid view with room in the queue, and then comes at the end of the chain in that view; a refusal
leaves the queue and the remembered view alone; and no other call adds to the chain. -/
theorem contexts_chain_through_refusals (he : Orderly e) {maxItemDelay : Int} {output : σ}
    (hrun : Reaches e (fresh maxItemDelay capacity output) s) :
    (∀ d ∈ s.queue.data.head?, d.previous = {}) ∧
    (s.queue.data.IsChain fun d d' => d'.previous = d.current) ∧
    (∀ d ∈ s.queue.data, d.current.isValid = true) ∧
    (∃ n ≤ s.queue.data.length, s.queue.waiting = List.range' n (s.queue.data.length - n)) ∧
    s.tracker.last = lastView s.queue.data ∧
    (∀ content id t, s.addItem content = (some id, t) →
      ∃ view, s.activeView = some view ∧ view.isValid = true ∧ id = s.queue.data.length ∧
        t.queue.data = s.queue.data ++ [⟨s.clock, lastView s.queue.data, view⟩] ∧
        t.queue.waiting = s.queue.waiting ++ [id] ∧ t.tracker.last = view) ∧
    (∀ content t, s.addItem content = (none, t) → t.queue = s.queue ∧ t.tracker = s.tracker) ∧
    (∀ content, (s.addItem content).1 = none ↔
      (∀ view, s.activeView = some view → view.isValid = false) ∨ capacity ≤ s.queue.length) ∧
    (∀ c : Call σ, (∀ content, c ≠ .add content) → (s.call c).queue.data = s.queue.data) := by
  have h : s.Chained capacity := (chained_fresh maxItemDelay capacity output).run he hrun
  refine ⟨h.first, h.linked, h.valid, h.waits, h.tracked, ?accepted, ?refused, ?exactly,
    fun c => s.data_call_of_ne_add⟩
  case accepted =>
    intro content id t hadd
    rcases s.addItem_cases content with ⟨view, ⟨hactive, hvalid, -⟩, hok⟩ | ⟨-, event, hrefused⟩
    · obtain ⟨hid, rfl⟩ := Prod.mk.inj (hok.symm.trans hadd)
      obtain rfl := Option.some.inj hid
      refine ⟨view, hactive, hvalid, s.queue.nextId_eq, ?_, rfl, rfl⟩
      rw [← h.tracked]
      exact Queue.data_add s.queue (s.newItem view content)
    · cases hrefused.symm.trans hadd
  case refused =>
    intro content t hadd
    rcases s.addItem_cases content with ⟨view, -, hok⟩ | ⟨-, event, hrefused⟩
    · cases hok.symm.trans hadd
    · cases hrefused.symm.trans hadd
      exact ⟨rfl, rfl⟩
  case exactly =>
    intro content
    rcases s.addItem_cases content with
      ⟨view, ⟨hactive, hvalid, hroom⟩, hok⟩ | ⟨hnone, event, hrefused⟩
    · rw [hok]
      refine ⟨nofun, ?_⟩
      rintro (hinvalid | hfull)
      · exact absurd (hinvalid view hactive) (by simp [hvalid])
      · rw [h.room] at hroom
        omega
    · rw [hrefused]
      refine ⟨fun _ => ?_, fun _ => rfl⟩
      by_cases hfull : capacity ≤ s.queue.length
      · exact .inr hfull
      · refine .inl fun view hactive => ?_
        have hroom : s.queue.length < s.queue.capacity := by
          rw [h.room]
          omega
        exact Bool.eq_false_iff.mpr fun hvalid => hnone view ⟨hactive, hvalid, hroom⟩

/-- Listing what is handed over uses the station through its calls only. -/
theorem ledger_orderly : Orderly Ledger.engine :=
  fun item s => ⟨[.put (s.output.list item).1], rfl⟩

/-- With room for one item, the change of view of an item that is refused is carried by the item
made after a drain. -/
theorem contexts_chain_through_refusals_ledger :
    ∃ s : Station Ledger, Reaches Ledger.engine (fresh 1000 1 {}) s ∧
      s.queue.data = [⟨0, {}, ⟨"a", "s", "v"⟩⟩, ⟨0, ⟨"a", "s", "v"⟩, ⟨"a", "s", "w"⟩⟩] ∧
      s.queue.data.IsChain (fun d d' => d'.previous = d.current) := by
  let touched : Call Ledger := .add (.touch [⟨0, .pointer {}⟩])
  let first : Item := ⟨⟨0, {}, ⟨"a", "s", "v"⟩⟩, .touch [⟨0, .pointer {}⟩]⟩
  let waiting : Station Ledger :=
    { clockReads := 2, activeView := some ⟨"a", "s", "w"⟩, tracker := ⟨⟨"a", "s", "v"⟩⟩
      queue := { maxItemDelay := 1000, capacity := 1, items := #[first], waiting := [0] }
      drainRequested := true, mailbox := [.drain], worker := .starting, output := {}
      log := #[.offerRefused (.full 1)] }
  have hrefused : Reaches Ledger.engine (fresh 1000 1 {}) waiting :=
    (((((Relation.ReflTransGen.single (.call _ (.activate (some ⟨"a", "s", "v"⟩)))).tail
      (.call _ touched)).tail (.call _ (.activate (some ⟨"a", "s", "w"⟩)))).tail
      (.call _ touched)).tail (.call _ .requestDrain)).tail (.start _)
  have hdrained : Reaches Ledger.engine (fresh 1000 1 {}) _ :=
    (hrefused.tail (.work _ _ rfl)).tail (.work _ _ rfl)
  have hrun : Reaches Ledger.engine (fresh 1000 1 {}) _ := hdrained.tail (.call _ touched)
  exact ⟨_, hrun, rfl, (contexts_chain_through_refusals ledger_orderly hrun).2.1⟩

end Station

end SessionReplay
