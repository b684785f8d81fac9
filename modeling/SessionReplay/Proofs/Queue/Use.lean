import Mathlib.Logic.Relation
import SessionReplay.Proofs.Queue.Head

/-!
# A queue in use

Whoever has a queue can call it at any time, also while it is being drained, and so can the
processor that has an item at that moment. A `Use` is a queue together with everything that
happened to it: the offers that were accepted, the items that were taken out with what became of
them, and the outcomes of the drains. A `Step` is a call, the beginning of a drain, one turn of it,
or its end.

* `offer_of_lt` and `offer_of_le`: an offer is accepted exactly while there is room.
* `waiting_call`: a call lets exactly the items wait that it has accepted.
-/

namespace SessionReplay

/-- What can be done with a queue besides draining it. -/
inductive Queue.Call where
  /-- Makes an item, which does not wait yet. -/
  | create (item : Item)
  /-- Offers an item. -/
  | offer (id : ItemId)
  /-- One more picture of an item is being made. -/
  | startJob (id : ItemId)
  /-- One picture less of an item is being made. -/
  | finishJob (id : ItemId)
  /-- Attaches the nodes of a snapshot. -/
  | attachNodes (id : ItemId) (nodes : List (Node Slot))

namespace Queue

/-- The queue after a call. -/
def call (q : Queue) : Call → Queue
  | .create item => q.add item
  | .offer id =>
    match q.offer id with
    | .ok accepted => accepted
    | .error _ => q
  | .startJob id => q.modify id Item.startJob
  | .finishJob id => q.modify id Item.finishJob
  | .attachNodes id nodes => q.modify id (Item.attachNodes nodes)

/-- The item that a call lets wait, if it is an offer that is accepted. -/
def accepts (q : Queue) : Call → List ItemId
  | .offer id =>
    match q.offer id with
    | .ok _ => [id]
    | .error _ => []
  | _ => []

/-- The queue after several calls. -/
def calls (q : Queue) (cs : List Call) : Queue := cs.foldl call q

/-- The items that several calls let wait, in order. -/
def acceptsAll (q : Queue) : List Call → List ItemId
  | [] => []
  | c :: cs => q.accepts c ++ (q.call c).acceptsAll cs

/-! ## What calls do -/

/-- An offer that fits is accepted. -/
theorem offer_of_lt {q : Queue} (id : ItemId) (h : q.length < q.capacity) :
    q.call (.offer id) = q.append id ∧ q.accepts (.offer id) = [id] := by
  have hok : q.offer id = .ok (q.append id) := offer_eq_ok_iff.mpr ⟨h, rfl⟩
  simp only [call, accepts, hok, and_self]

/-- An offer to a full queue is refused and changes nothing. -/
theorem offer_of_le {q : Queue} (id : ItemId) (h : q.capacity ≤ q.length) :
    q.call (.offer id) = q ∧ q.accepts (.offer id) = [] := by
  have herror : q.offer id = .error (.full q.capacity) := offer_eq_error_iff.mpr ⟨h, rfl⟩
  simp only [call, accepts, herror, and_self]

/-- A call lets exactly the items wait that it has accepted, behind the others. -/
theorem waiting_call (q : Queue) (c : Call) :
    (q.call c).waiting = q.waiting ++ q.accepts c := by
  cases c with
  | offer id =>
    rcases Nat.lt_or_ge q.length q.capacity with h | h
    · obtain ⟨hcall, haccepts⟩ := offer_of_lt id h
      rw [hcall, haccepts, waiting_append]
    · obtain ⟨hcall, haccepts⟩ := offer_of_le id h
      rw [hcall, haccepts, List.append_nil]
  | _ => exact (List.append_nil _).symm

/-- There is as much room as before. -/
@[simp] theorem capacity_call (q : Queue) (c : Call) : (q.call c).capacity = q.capacity := by
  cases c with
  | offer id =>
    rcases Nat.lt_or_ge q.length q.capacity with h | h
    · rw [(offer_of_lt id h).1, capacity_append]
    · rw [(offer_of_le id h).1]
  | _ => rfl

/-- A call leaves a queue within its capacity. -/
theorem length_call_le {q : Queue} (c : Call) (h : q.length ≤ q.capacity) :
    (q.call c).length ≤ q.capacity := by
  cases c with
  | offer id =>
    rcases Nat.lt_or_ge q.length q.capacity with hroom | hfull
    · rw [(offer_of_lt id hroom).1, length_append]
      exact hroom
    · rw [(offer_of_le id hfull).1]
      exact h
  | _ => exact h

end Queue

/-! ## Runs of a queue -/

/-- A drain that has begun and has not ended. -/
structure Going (σ : Type) where
  /-- The time that the drain goes by. -/
  now : Int
  /-- How many items waited when it began. -/
  waited : Nat
  /-- The offers accepted since it began, in order. -/
  offered : List ItemId := []
  /-- The items taken out since it began and done with, in order, with what became of them. -/
  popped : List (ItemId × Fate) := []
  /-- The item that the processor has, with the drain as it will be when the processor is done. -/
  inHand : Option (ItemId × Scan σ) := none

/-- A queue with everything that happened to it. -/
structure Use (σ : Type) where
  /-- The queue. -/
  queue : Queue
  /-- The processor's own state. -/
  state : σ
  /-- The offers accepted so far, in order. -/
  accepted : List ItemId := []
  /-- The items taken out by drains that have ended, in order, with what became of them. -/
  settled : List (ItemId × Fate) := []
  /-- The outcomes of the drains that have ended, in order. -/
  outcomes : List Outcome := []
  /-- The drain that is going on. -/
  going : Option (Going σ) := none

/-- The items among those taken out that were handed to the processor. -/
def handedOver (popped : List (ItemId × Fate)) : List ItemId :=
  (popped.filter fun (_, fate) => fate == .processed || fate == .failed).map Prod.fst

namespace Going

variable {σ : Type}

/-- The item that the processor has, if there is one. -/
def held (g : Going σ) : List ItemId := (g.inHand.map Prod.fst).toList

/-- All items that the drain took out, in order. -/
def out (g : Going σ) : List ItemId := g.popped.map Prod.fst ++ g.held

/-- All items that the drain handed to the processor, in order. -/
def handed (g : Going σ) : List ItemId := handedOver g.popped ++ g.held

end Going

namespace Use

variable {σ : Type}

/-- A queue that nothing has happened to. -/
def fresh (maxItemDelay : Int) (capacity : Nat) (state : σ) : Use σ where
  queue := { maxItemDelay := maxItemDelay, capacity := capacity }
  state := state

/-- All items taken out so far, in order. -/
def out (u : Use σ) : List ItemId :=
  u.settled.map Prod.fst ++ (u.going.map Going.out).getD []

/-- All items handed to the processor so far, in order. -/
def handed (u : Use σ) : List ItemId :=
  handedOver u.settled ++ (u.going.map Going.handed).getD []

/-- What a drain that is going on looks at. -/
def scan (u : Use σ) (g : Going σ) : Scan σ where
  queue := u.queue
  state := u.state
  popped := g.popped

/-- Somebody makes a call: the application, or the processor that has an item. -/
def call (u : Use σ) (c : Queue.Call) : Use σ :=
  { u with
    queue := u.queue.call c
    accepted := u.accepted ++ u.queue.accepts c
    going := u.going.map fun g => { g with offered := g.offered ++ u.queue.accepts c } }

/-- The drain goes on with what a turn has left. -/
def resume (u : Use σ) (g : Going σ) (next : Scan σ) : Use σ :=
  { u with
    queue := next.queue
    state := next.state
    going := some { g with popped := next.popped, inHand := none } }

/-- The processor gets an item. -/
def hand (u : Use σ) (g : Going σ) (id : ItemId) (next : Scan σ) : Use σ :=
  { u with queue := u.queue.dropHead, going := some { g with inHand := some (id, next) } }

/-- The drain ends. -/
def close (u : Use σ) (g : Going σ) : Use σ :=
  { u with
    settled := u.settled ++ g.popped
    outcomes := u.outcomes ++ [(u.scan g).outcome]
    going := none }

/-- One thing that can happen to a queue in use. While the processor has an item, calls can be made
as at any other time. -/
inductive Step (p : Processor σ) : Use σ → Use σ → Prop
  /-- A call is made. -/
  | call (u : Use σ) (c : Queue.Call) : Step p u (u.call c)
  /-- A drain begins. -/
  | start (u : Use σ) (now : Int) (idle : u.going = none) :
    Step p u { u with going := some { now := now, waited := u.queue.length } }
  /-- A drain takes the head out without handing it to the processor. -/
  | skip (u : Use σ) (g : Going σ) (id : ItemId) (item : Item) (next : Scan σ)
      (busy : u.going = some g) (free : g.inHand = none)
      (head : u.queue.head? = some (id, item))
      (unfit : item.verdict g.now u.queue.maxItemDelay ≠ .ready)
      (goes : (u.scan g).step? p g.now = some next) : Step p u (u.resume g next)
  /-- A drain takes the head out and hands it to the processor. -/
  | hand (u : Use σ) (g : Going σ) (id : ItemId) (item : Item) (next : Scan σ)
      (busy : u.going = some g) (free : g.inHand = none)
      (head : u.queue.head? = some (id, item))
      (fit : item.verdict g.now u.queue.maxItemDelay = .ready)
      (goes : (u.scan g).step? p g.now = some next) : Step p u (u.hand g id next)
  /-- The processor is done with its item, or has failed. Whatever was called meanwhile, by the
  processor or by others, has been done to the queue already. -/
  | done (u : Use σ) (g : Going σ) (id : ItemId) (next : Scan σ)
      (busy : u.going = some g) (has : g.inHand = some (id, next)) :
    Step p u (u.resume g { next with queue := u.queue })
  /-- A drain looks at the head and ends. -/
  | finish (u : Use σ) (g : Going σ) (busy : u.going = some g) (free : g.inHand = none)
      (ends : (u.scan g).step? p g.now = none) : Step p u (u.close g)

/-- What can have become of a queue after some steps. -/
abbrev Reaches (p : Processor σ) : Use σ → Use σ → Prop := Relation.ReflTransGen (Step p)

end Use

end SessionReplay
