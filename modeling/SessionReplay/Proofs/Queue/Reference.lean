import SessionReplay.Proofs.Queue.Conservation
import SessionReplay.Proofs.Queue.Passing

/-!
# A drain in closed form

A drain looks at one head after the other, but what it does in the end can be said at once: it takes
out the longest run of items that are too old, empty or complete (`Queue.outgoing`), and the processor
gets those among them that are neither too old nor empty. To say what the processor gets, a processor is
replaced by one that writes down its calls (`Processor.traced`); a drain does the same with it
(`drain_traced`).

* `run_traced`: what is written down are the items that were handed over, as they were in the beginning.
* `drain_closed_form`: the queue, the calls and the outcome of a drain, and that a second drain at the
  same time finds nothing to do.

All of it is about processors that leave alone what waits. One that offers items is not covered, since
what it offers can be taken out by the same drain; nor is one that completes an item that waits.

An item is too old by an age of 64 bits (`elapsed`): the time of the drain less that of the item, wrapped
around where this does not fit. A build that checks for overflow breaks off instead, and with it the drain,
since the age is taken outside of what a failing processor is kept from.
-/

namespace SessionReplay

/-! ## The items that a drain takes out -/

namespace Item

variable {i : Item} {now maxDelay : Int}

/-- A drain does not stop at the item: it is too old, it holds nothing, or it is complete. -/
def leaves (i : Item) (now maxDelay : Int) : Bool :=
  i.isTooOld now maxDelay || !i.isValid || i.isReady

/-- The item is neither too old nor empty. -/
def isFit (i : Item) (now maxDelay : Int) : Bool :=
  !i.isTooOld now maxDelay && i.isValid

/-- A drain does not stop at an item exactly if the item does not block it. -/
theorem leaves_eq (i : Item) (now maxDelay : Int) :
    i.leaves now maxDelay = (i.verdict now maxDelay != .blocked) := by
  unfold leaves verdict
  cases i.isTooOld now maxDelay <;> cases i.isValid <;> cases i.isReady <;> rfl

end Item

/-- What a call of the processor was about, and whether it failed: nothing for an item that the processor
did not get. -/
def Fate.call? (item : Item) : Fate → Option (Item × Bool)
  | .processed => some (item, false)
  | .failed => some (item, true)
  | _ => none

/-- The processor gets what is fit, and nothing else. -/
theorem Item.isFit_of_allows {i : Item} {now maxDelay : Int} {fate : Fate}
    (h : (i.verdict now maxDelay).Allows fate) : i.isFit now maxDelay = (fate.call? i).isSome := by
  unfold isFit
  unfold verdict at h
  split at h
  · next hold =>
    obtain rfl : fate = .stale := h
    simp [hold, Fate.call?]
  · next hfresh =>
    split at h
    · next hempty =>
      obtain rfl : fate = .invalid := h
      simpa [Fate.call?] using fun _ => hempty
    · next hvalid =>
      split at h
      · rcases h with rfl | rfl <;> simpa [hfresh, Fate.call?] using hvalid
      · exact h.elim

namespace Queue

variable {q : Queue} {now : Int}

/-- The items in front of the first one that is neither too old nor empty nor complete. -/
def outgoing (q : Queue) (now : Int) : List ItemId :=
  q.waiting.takeWhile fun id => (q.item? id).any (·.leaves now q.maxItemDelay)

/-- The others: that item and what waits behind it. -/
def staying (q : Queue) (now : Int) : List ItemId :=
  q.waiting.dropWhile fun id => (q.item? id).any (·.leaves now q.maxItemDelay)

/-- It does not stop at an item of the queue either then. -/
theorem passes_eq (q : Queue) (now : Int) :
    q.passes now = fun id => (q.item? id).any (·.leaves now q.maxItemDelay) := by
  funext id
  unfold passes
  cases q.item? id with
  | none => rfl
  | some item => exact (item.leaves_eq now q.maxItemDelay).symm

/-- The call of the processor that an item taken out stands for. -/
def call? (q : Queue) (x : ItemId × Fate) : Option (Item × Bool) :=
  (q.item? x.1).bind fun item => x.2.call? item

/-- The calls that items taken out stand for are about the fit ones among them. -/
theorem calls_of_treats {popped : List (ItemId × Fate)} (h : ∀ x ∈ popped, q.Treats now x) :
    (popped.filterMap q.call?).map Prod.fst
        = ((popped.map Prod.fst).filterMap q.item?).filter (·.isFit now q.maxItemDelay) ∧
      popped.countP (fun (_, fate) => fate == .processed)
        = (popped.filterMap q.call?).countP fun call => !call.2 := by
  induction popped with
  | nil => exact ⟨rfl, rfl⟩
  | cons x rest ih =>
    obtain ⟨id, fate⟩ := x
    obtain ⟨hcalls, hcount⟩ := ih fun y hy => h y (List.mem_cons_of_mem _ hy)
    obtain ⟨item, hitem, hallows⟩ := h (id, fate) List.mem_cons_self
    have hfit := Item.isFit_of_allows hallows
    have hcall : q.call? (id, fate) = fate.call? item := by
      unfold call?
      rw [hitem]
      rfl
    rw [List.map_cons, List.filterMap_cons_some hitem, List.filterMap_cons, hcall, List.filter_cons,
      hfit, List.countP_cons]
    cases fate <;> simp [Fate.call?, hcalls, hcount]

end Queue

/-! ## The calls of the processor -/

section

variable {σ : Type} {p : Processor σ} {now : Int}

/-- The same processor, writing down which items it was called for and whether that failed. -/
def Processor.traced (p : Processor σ) : Processor (σ × List (Item × Bool)) where
  handle item q s :=
    let h := p.handle item q s.1
    { queue := h.queue, state := (h.state, s.2 ++ [(item, h.failed)]), failed := h.failed }
  note event s := (p.note event s.1, s.2)
  budget now q s := p.budget now q s.1

/-- The calls of the processor in a drain, in order: the items, and whether processing them failed. -/
def Queue.handings (p : Processor σ) (now : Int) (q : Queue) (state : σ) : List (Item × Bool) :=
  (q.drain p.traced now (state, [])).state.2

/-- Writing down calls leaves alone what waits. -/
theorem Processor.Aloof.traced (hp : p.Aloof) : p.traced.Aloof :=
  fun item q state => hp item q state.1

namespace Scan

/-- A drain without what is written down. -/
def untraced (s : Scan (σ × List (Item × Bool))) : Scan σ where
  queue := s.queue
  state := s.state.1
  popped := s.popped

/-- Writing the calls down changes nothing about what becomes of an item. -/
theorem process_untraced (s : Scan (σ × List (Item × Bool))) (id : ItemId) (item : Item) :
    (s.process p.traced id item).untraced = s.untraced.process p id item := by
  by_cases hfailed : (p.handle item s.queue.dropHead s.state.1).failed = true <;>
    simp [process, Processor.traced, untraced, hfailed]

/-- Nor about a turn. -/
theorem step?_untraced (s : Scan (σ × List (Item × Bool))) :
    (s.step? p.traced now).map untraced = s.untraced.step? p now := by
  have hqueue : s.untraced.queue = s.queue := rfl
  unfold step?
  rw [hqueue]
  cases s.queue.head? with
  | none => rfl
  | some head =>
    obtain ⟨id, item⟩ := head
    dsimp only
    cases item.verdict now s.queue.maxItemDelay with
    | ready => exact congrArg some (s.process_untraced id item)
    | _ => rfl

/-- Nor about the turns one after the other. -/
theorem run_untraced (fuel : Nat) (s : Scan (σ × List (Item × Bool))) :
    (s.run p.traced now fuel).untraced = s.untraced.run p now fuel := by
  induction fuel generalizing s with
  | zero => rfl
  | succ fuel ih =>
    have hstep := @step?_untraced σ p now s
    cases hnext : s.step? p.traced now with
    | none =>
      rw [hnext] at hstep
      rw [run_of_step?_eq_none _ hnext, run_of_step?_eq_none _ hstep.symm]
    | some next =>
      rw [hnext] at hstep
      rw [run_succ_of_step? hnext, run_succ_of_step? hstep.symm, ih next]

/-- A turn writes down the call that the item taken out stands for. -/
theorem step?_traced {s next : Scan (σ × List (Item × Bool))}
    (h : s.step? p.traced now = some next) :
    ∃ x, next.popped = s.popped ++ [x] ∧ s.queue.waiting.head? = some x.1 ∧
      next.state.2 = s.state.2 ++ (s.queue.call? x).toList := by
  obtain ⟨id, item, hhead, hcases⟩ := step?_eq_some_iff.mp h
  obtain ⟨hid, hitem⟩ := Queue.head?_eq_some_iff.mp hhead
  have hcall : ∀ fate, s.queue.call? (id, fate) = fate.call? item := by
    intro fate
    unfold Queue.call?
    rw [hitem]
    rfl
  rcases hcases with ⟨-, rfl⟩ | ⟨-, rfl⟩ | ⟨-, rfl⟩
  · exact ⟨(id, .stale), rfl, hid, by rw [hcall]; exact (List.append_nil _).symm⟩
  · exact ⟨(id, .invalid), rfl, hid, by rw [hcall]; exact (List.append_nil _).symm⟩
  · refine ⟨_, popped_process s id item, hid, ?_⟩
    rw [hcall]
    by_cases hfailed : (p.handle item s.queue.dropHead s.state.1).failed = true <;>
      simp [process, Processor.traced, hfailed, Fate.call?]

/-- **What is written down are the items handed over**, as they were in the beginning. -/
theorem run_traced (hp : p.Aloof) (q : Queue) (fuel : Nat) (s : Scan (σ × List (Item × Bool)))
    (hsame : { q with waiting := s.queue.waiting }.SameWaiting s.queue) :
    ∃ popped, (s.run p.traced now fuel).popped = s.popped ++ popped ∧
      (s.run p.traced now fuel).state.2 = s.state.2 ++ popped.filterMap q.call? := by
  induction fuel generalizing s with
  | zero => exact ⟨[], by simp [run], by simp [run]⟩
  | succ fuel ih =>
    cases hstep : s.step? p.traced now with
    | none =>
      rw [run_of_step?_eq_none _ hstep]
      exact ⟨[], by simp, by simp⟩
    | some next =>
      obtain ⟨x, hpopped, hhead, hstate⟩ := step?_traced hstep
      obtain ⟨-, -, -, -, hrest, -⟩ := step?_aloof hp.traced hstep
      have hnext : { q with waiting := next.queue.waiting }.SameWaiting next.queue := by
        have hbehind := hsame.dropHead.trans hrest
        rw [hrest.waiting]
        exact hbehind
      obtain ⟨popped, hrun, hcalls⟩ := ih next hnext
      have hcall : s.queue.call? x = q.call? x := by
        unfold Queue.call?
        rw [hsame.item? x.1 (List.mem_of_head? hhead)]
        rfl
      rw [run_succ_of_step? hstep]
      refine ⟨x :: popped, ?_, ?_⟩
      · rw [hrun, hpopped, List.append_assoc, List.singleton_append]
      · rw [hcalls, hstate, hcall, List.append_assoc, List.filterMap_cons]
        cases q.call? x <;> rfl

end Scan

/-- Writing the calls down changes nothing about a drain. -/
theorem Queue.drain_traced (q : Queue) (state : σ) (calls : List (Item × Bool)) :
    (q.drain p.traced now (state, calls)).untraced = q.drain p now state :=
  Scan.run_untraced _ _

/-- The calls of a drain are about the fit items among those taken out, and as many fail as items
failed. -/
theorem Queue.handings_eq (hp : p.Aloof) (q : Queue) (state : σ) :
    (q.handings p now state).map Prod.fst
        = ((q.outgoing now).filterMap q.item?).filter (·.isFit now q.maxItemDelay) ∧
      (q.drain p now state).outcome.processed
        = (q.handings p now state).countP fun call => !call.2 := by
  obtain ⟨hids, htreats, -⟩ := drain_aloof hp.traced now q (state, [])
  obtain ⟨popped, hpopped, hcalls⟩ := @Scan.run_traced σ p now hp q
    (q.length + p.budget now q state) { queue := q, state := (state, []) } (.refl q)
  have hdrained : (q.drain p.traced now (state, [])).popped = popped := hpopped
  have hhandings : q.handings p now state = popped.filterMap q.call? := hcalls
  rw [hdrained] at hids htreats
  obtain ⟨hfst, hcount⟩ := calls_of_treats htreats
  have houtgoing : popped.map Prod.fst = q.outgoing now := by
    rw [hids, passes_eq]
    rfl
  have hprocessed : (q.drain p now state).outcome.processed
      = popped.countP fun (_, fate) => fate == .processed := by
    rw [← drain_traced q state [], ← hdrained]
    rfl
  rw [hhandings, hprocessed, hfst, houtgoing]
  exact ⟨rfl, hcount⟩

/-- Where no turn is left, a drain does nothing. -/
theorem Queue.drain_of_step?_eq_none {q : Queue} {state : σ}
    (h : Scan.step? p now { queue := q, state := state } = none) :
    q.drain p now state = { queue := q, state := state } :=
  Scan.run_of_step?_eq_none _ h

/-- After a drain, no turn is left at the same time. -/
theorem Queue.drain_settled (hp : p.Aloof) (q : Queue) (state : σ) :
    Scan.step? p now { queue := (q.drain p now state).queue, state := (q.drain p now state).state }
      = none := by
  obtain ⟨-, -, hsame⟩ := drain_aloof hp now q state
  rw [Scan.step?_eq_none_iff]
  intro id item hhead
  obtain ⟨hid, hitem⟩ := head?_eq_some_iff.mp hhead
  rw [hsame.waiting] at hid
  have hstops := List.head?_dropWhile_not (q.passes now) q.waiting
  rw [hid] at hstops
  have hitem' : q.item? id = some item := (hsame.item? id (List.mem_of_head? hid)).symm.trans hitem
  by_contra hverdict
  rw [hsame.maxItemDelay] at hverdict
  exact Bool.false_ne_true (hstops.symm.trans (passes_iff.mpr ⟨item, hitem', hverdict⟩))

/-- **A drain in closed form**, for a processor that leaves alone what waits and fails whenever it likes.
What is left are the items from the first one on that is neither too old nor empty nor complete. The
processor was called once for each of the items in front of it that is neither too old nor empty, in
order. Those calls that did not fail are counted as processed, all other items in front of it as
discarded, and the drain is blocked if anything is left. Another drain at the same time changes nothing,
calls nobody and says the same about being blocked. This holds at every time and for every age, wrapped
around or not. -/
theorem Queue.drain_closed_form (hp : p.Aloof) (now : Int) (q : Queue) (state : σ) :
    let after := q.drain p now state
    let calls := q.handings p now state
    let again := after.queue.drain p now after.state
    { q with waiting := q.staying now }.SameWaiting after.queue ∧
      calls.map Prod.fst
        = ((q.outgoing now).filterMap q.item?).filter (·.isFit now q.maxItemDelay) ∧
      after.outcome.processed = calls.countP (fun call => !call.2) ∧
      after.outcome.processed + after.outcome.discarded = (q.outgoing now).length ∧
      (after.outcome.blocked = true ↔ after.queue.waiting ≠ []) ∧
      again.queue = after.queue ∧ again.state = after.state ∧
      after.queue.handings p now after.state = [] ∧
      again.outcome = { processed := 0, discarded := 0, blocked := after.outcome.blocked } := by
  intro after calls again
  obtain ⟨hids, -, hsame⟩ := drain_aloof hp now q state
  obtain ⟨hcalls, hprocessed⟩ := @handings_eq σ p now hp q state
  rw [passes_eq] at hids hsame
  have hagain : again = { queue := after.queue, state := after.state } :=
    drain_of_step?_eq_none (drain_settled hp q state)
  refine ⟨hsame, hcalls, hprocessed, ?counted, ?blocked, ?queue, ?state, ?calls, ?outcome⟩
  case counted =>
    have htotal : after.outcome.total = after.popped.length := after.total_outcome
    have hlength := congrArg List.length hids
    rw [List.length_map] at hlength
    exact htotal.trans hlength
  case blocked =>
    change (!after.queue.waiting.isEmpty) = true ↔ _
    simp
  case queue => rw [hagain]
  case state => rw [hagain]
  case calls =>
    have hnone : Scan.step? p.traced now { queue := after.queue, state := (after.state, []) }
        = none := by
      have hsteps := @Scan.step?_untraced σ p now { queue := after.queue, state := (after.state, []) }
      exact Option.map_eq_none_iff.mp (hsteps.trans (drain_settled hp q state))
    have hdrain := @drain_of_step?_eq_none _ _ _ _ _ hnone
    exact congrArg (fun s => s.state.2) hdrain
  case outcome =>
    rw [hagain]
    rfl

end

namespace Queue

/-- A processor that fails for the items of one time. -/
def failingAt (time : Int) : Processor Unit where
  handle item q s := { queue := q, state := s, failed := item.data.timestamp == time }
  note _ s := s
  budget _ _ _ := 0

/-- Heads of all kinds: a touch that is too old, a batch without touches, a snapshot whose processing
fails at 900, a touch, a snapshot without nodes, and a touch behind it. -/
def motley : Queue where
  maxItemDelay := 500
  capacity := 9
  items := #[⟨{ timestamp := 100 }, .touch [⟨100, .pointer {}⟩]⟩, ⟨{ timestamp := 800 }, .touch []⟩,
    ⟨{ timestamp := 900 }, .snapshot { screen := default, nodes := some [default] }⟩,
    ⟨{ timestamp := 910 }, .touch [⟨910, .pointer {}⟩]⟩,
    ⟨{ timestamp := 920 }, .snapshot { screen := default }⟩,
    ⟨{ timestamp := 930 }, .touch [⟨930, .pointer {}⟩]⟩]
  waiting := [0, 1, 2, 3, 4, 5]

/-- Four of the six are taken out, two of them are handed over, and one of these fails. -/
theorem drain_closed_form_motley :
    (failingAt 900).Aloof ∧
      ((motley.handings (failingAt 900) 1000 ()).map Prod.fst).map (·.data.timestamp) = [900, 910] ∧
      (motley.drain (failingAt 900) 1000 ()).outcome
        = { processed := 1, discarded := 3, blocked := true } ∧
      (motley.drain (failingAt 900) 1000 ()).queue.waiting = [4, 5] := by
  have haloof : (failingAt 900).Aloof := fun _ q _ => .refl q
  obtain ⟨hqueue, hcalls, -⟩ := drain_closed_form haloof 1000 motley ()
  refine ⟨haloof, ?_, by decide, ?_⟩
  · rw [hcalls]
    decide
  · rw [hqueue.waiting]
    decide

end Queue

end SessionReplay
