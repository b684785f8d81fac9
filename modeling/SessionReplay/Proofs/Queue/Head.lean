import SessionReplay.Queue.Drain

/-!
# One look at the head of the queue

What the operations on a queue do to the ids that wait, and everything that one turn of a drain can
do. Later modules argue about drains only through these lemmas:

* `offer_eq_ok_iff` and `offer_eq_error_iff`: an offer fits exactly while there is room.
* `step?_eq_some_iff`: a turn takes the head out as stale, as invalid, or to process it.
* `popped_of_step?`: whichever it is, the head is out and nothing else.
* `step?_eq_none_iff`: a drain ends at an empty queue or at a head that is blocked.
* `drain_ended`: with an honest budget, draining comes to that end.
-/

namespace SessionReplay

namespace Queue

/-! ## The ids that wait -/

/-- A new item does not wait yet. -/
@[simp] theorem waiting_add (q : Queue) (i : Item) : (q.add i).waiting = q.waiting := rfl

/-- It waits behind the others when it is offered. -/
@[simp] theorem waiting_append (q : Queue) (id : ItemId) :
    (q.append id).waiting = q.waiting ++ [id] := rfl

/-- Without its head a queue has its tail. -/
@[simp] theorem waiting_dropHead (q : Queue) : q.dropHead.waiting = q.waiting.tail := rfl

/-- One more item waits then. -/
@[simp] theorem length_append (q : Queue) (id : ItemId) :
    (q.append id).length = q.length + 1 := by
  unfold length
  rw [waiting_append, List.length_append, List.length_singleton]

/-- There is no more room than before. -/
@[simp] theorem capacity_append (q : Queue) (id : ItemId) :
    (q.append id).capacity = q.capacity := rfl

/-- The head is the item of the first id that waits. -/
theorem head?_eq_some_iff {q : Queue} {id : ItemId} {item : Item} :
    q.head? = some (id, item) ↔ q.waiting.head? = some id ∧ q.item? id = some item := by
  unfold head?
  cases q.waiting with
  | nil => simp
  | cons first rest =>
    simp only [List.head?_cons, Option.bind_some, Option.map_eq_some_iff, Prod.mk.injEq,
      Option.some.injEq]
    constructor
    · rintro ⟨x, hx, rfl, rfl⟩
      exact ⟨rfl, hx⟩
    · rintro ⟨rfl, hx⟩
      exact ⟨item, hx, rfl, rfl⟩

/-- A queue with a head is that head and what waits behind it. -/
theorem waiting_eq_cons_of_head? {q : Queue} {id : ItemId} {item : Item}
    (h : q.head? = some (id, item)) : q.waiting = id :: q.dropHead.waiting := by
  obtain ⟨hid, -⟩ := head?_eq_some_iff.mp h
  obtain ⟨rest, hrest⟩ := List.head?_eq_some_iff.mp hid
  rw [waiting_dropHead, hrest, List.tail_cons]

/-! ## Offers -/

/-- An offer is accepted exactly while there is room, and then waits behind the others. -/
theorem offer_eq_ok_iff {q q' : Queue} {id : ItemId} :
    q.offer id = .ok q' ↔ q.length < q.capacity ∧ q' = q.append id := by
  unfold offer hasRoom length
  by_cases h : q.waiting.length < q.capacity
  · simp [h, eq_comm]
  · simp [h]

/-- An offer is refused exactly when there is no room. -/
theorem offer_eq_error_iff {q : Queue} {id : ItemId} {error : OfferError} :
    q.offer id = .error error ↔ q.capacity ≤ q.length ∧ error = .full q.capacity := by
  unfold offer hasRoom length
  by_cases h : q.waiting.length < q.capacity
  · simp [h, Nat.not_le.mpr h]
  · simp [h, eq_comm, Nat.le_of_not_lt h]

end Queue

namespace Scan

variable {σ : Type} {p : Processor σ} {now : Int} {s next : Scan σ}

/-! ## Turns of a drain -/

/-- Processing leaves the queue that the processor leaves, whether it failed or not. -/
theorem queue_process (s : Scan σ) (id : ItemId) (item : Item) :
    (s.process p id item).queue = (p.handle item s.queue.dropHead s.state).queue := by
  unfold process
  dsimp only
  split <;> rfl

/-- Processing adds one item to those that were taken out. -/
theorem popped_process (s : Scan σ) (id : ItemId) (item : Item) :
    (s.process p id item).popped = s.popped ++
      [(id, if (p.handle item s.queue.dropHead s.state).failed then .failed else .processed)] := by
  unfold process
  dsimp only
  split <;> rfl

/-- **Everything one turn can do.** The head is taken out because it is too old, because it holds
nothing, or to be processed. -/
theorem step?_eq_some_iff :
    s.step? p now = some next ↔ ∃ id item, s.queue.head? = some (id, item) ∧
      ((item.verdict now s.queue.maxItemDelay = .stale ∧
          next = s.discard p id .stale (.staleItem item.data.timestamp now)) ∨
        (item.verdict now s.queue.maxItemDelay = .invalid ∧
          next = s.discard p id .invalid .invalidItem) ∨
        (item.verdict now s.queue.maxItemDelay = .ready ∧ next = s.process p id item)) := by
  unfold step?
  cases h : s.queue.head? with
  | none => simp
  | some head =>
    obtain ⟨id, item⟩ := head
    cases hv : item.verdict now s.queue.maxItemDelay <;>
      simp [hv, eq_comm (a := next), and_assoc]

/-- Whatever a turn does, it takes the head out, and nothing else. -/
theorem popped_of_step? {id : ItemId} {item : Item} (hhead : s.queue.head? = some (id, item))
    (h : s.step? p now = some next) : ∃ fate, next.popped = s.popped ++ [(id, fate)] := by
  obtain ⟨id', item', hhead', hcases⟩ := step?_eq_some_iff.mp h
  obtain ⟨rfl, rfl⟩ := Prod.mk.inj (Option.some.inj (hhead'.symm.trans hhead))
  obtain ⟨-, rfl⟩ | ⟨-, rfl⟩ | ⟨-, rfl⟩ := hcases
  · exact ⟨.stale, rfl⟩
  · exact ⟨.invalid, rfl⟩
  · exact ⟨_, popped_process s id' item'⟩

/-- A turn that does not process the head leaves the others as they were. -/
theorem queue_of_step?_of_ne_ready {id : ItemId} {item : Item}
    (hhead : s.queue.head? = some (id, item))
    (hunfit : item.verdict now s.queue.maxItemDelay ≠ .ready)
    (h : s.step? p now = some next) : next.queue = s.queue.dropHead := by
  obtain ⟨id', item', hhead', hcases⟩ := step?_eq_some_iff.mp h
  obtain ⟨rfl, rfl⟩ := Prod.mk.inj (Option.some.inj (hhead'.symm.trans hhead))
  obtain ⟨-, rfl⟩ | ⟨-, rfl⟩ | ⟨hready, -⟩ := hcases
  · rfl
  · rfl
  · exact absurd hready hunfit

/-- A drain ends when nothing waits, or at a head that is blocked. -/
theorem step?_eq_none_iff :
    s.step? p now = none ↔ ∀ id item, s.queue.head? = some (id, item) →
      item.verdict now s.queue.maxItemDelay = .blocked := by
  unfold step?
  cases h : s.queue.head? with
  | none => simp
  | some head =>
    obtain ⟨id, item⟩ := head
    cases hv : item.verdict now s.queue.maxItemDelay <;> simp [hv]

/-! ## The end of a drain -/

/-- A turn that can be done is done first. -/
theorem run_succ_of_step? {fuel : Nat} (h : s.step? p now = some next) :
    run p now (fuel + 1) s = run p now fuel next := by
  rw [run, h]

/-- A drain that has ended stays as it is. -/
theorem run_of_step?_eq_none (fuel : Nat) (h : s.step? p now = none) : run p now fuel s = s := by
  cases fuel with
  | zero => rfl
  | succ fuel => rw [run, h]

end Scan

/-- The budget of a processor is honest: every turn uses up some of what waits and what will still
be offered. -/
def Processor.Honest {σ : Type} (p : Processor σ) : Prop :=
  ∀ now (s next : Scan σ), s.step? p now = some next →
    next.queue.length + p.budget now next.queue next.state
      < s.queue.length + p.budget now s.queue s.state

/-- **Draining comes to the end of the drain**, if the budget is honest: there is no further turn. What waits
and what will still be offered bounds the turns that are left, at every turn. -/
theorem Queue.drain_ended {σ : Type} {p : Processor σ} (hp : p.Honest) (now : Int) (q : Queue)
    (state : σ) : (q.drain p now state).step? p now = none := by
  have hrun : ∀ fuel (s : Scan σ), s.queue.length + p.budget now s.queue s.state ≤ fuel →
      (Scan.run p now fuel s).step? p now = none := by
    intro fuel
    induction fuel with
    | zero =>
      intro s hs
      cases hstep : s.step? p now with
      | none => exact hstep
      | some next =>
        have hless := hp now s next hstep
        omega
    | succ fuel ih =>
      intro s hs
      cases hstep : s.step? p now with
      | none => rw [Scan.run_of_step?_eq_none _ hstep, hstep]
      | some next =>
        have hless := hp now s next hstep
        rw [Scan.run_succ_of_step? hstep]
        exact ih next (by omega)
  exact hrun _ _ (Nat.le_refl _)

end SessionReplay
