import Mathlib.Algebra.Ring.Nat
import SessionReplay.Proofs.Queue.Use
import SessionReplay.Queue.Ledger

/-!
# A queue keeps what it accepts

Whatever happens to a queue, and in whichever order, the offers it accepted are the items it gave
up followed by the items that still wait. `Conserved` says so, together with the books that the
drains keep; every step keeps it, so every run does.

* `use_conserves_offers`: the state of the books after any run.
* `drain_reachable`: draining a queue is one of these runs, if the processor uses the queue through
  its calls only.
-/

namespace SessionReplay

/-- All items that a drain took out. -/
def Outcome.total (o : Outcome) : Nat := o.processed + o.discarded

namespace Scan

variable {σ : Type}

/-- The outcome of a drain counts every item that was taken out. -/
theorem total_outcome (s : Scan σ) : s.outcome.total = s.popped.length := by
  have hsplit := List.length_eq_countP_add_countP (fun x : ItemId × Fate => x.2 == .processed)
    (l := s.popped)
  have hother : s.popped.countP (fun x => decide ¬(x.2 == Fate.processed) = true)
      = s.popped.countP fun x => x.2 != .processed := by
    refine List.countP_congr fun x _ => ?_
    simp
  rw [hother] at hsplit
  exact hsplit.symm

end Scan

/-- What was handed over is among what was taken out, in the same order. -/
theorem handedOver_sublist (popped : List (ItemId × Fate)) :
    (handedOver popped).Sublist (popped.map Prod.fst) :=
  List.filter_sublist.map Prod.fst

namespace Use

variable {σ : Type} {p : Processor σ} {u v : Use σ} {capacity : Nat}

/-- What was handed over by any drain is among what was taken out, in the same order. -/
theorem handed_sublist_out (u : Use σ) : u.handed.Sublist u.out := by
  unfold handed out
  refine (handedOver_sublist u.settled).append ?_
  cases u.going with
  | none => exact List.Sublist.slnil
  | some g => exact (handedOver_sublist g.popped).append (List.Sublist.refl g.held)

/-! ## What always holds -/

/-- The books of a queue in use are right. -/
structure Conserved (capacity : Nat) (u : Use σ) : Prop where
  /-- What was accepted was taken out in the same order or still waits. -/
  balance : u.accepted = u.out ++ u.queue.waiting
  /-- The capacity stays. -/
  capacity_eq : u.queue.capacity = capacity
  /-- No more items wait than fit. -/
  length_le : u.queue.length ≤ capacity
  /-- The outcomes count every item that a finished drain took out. -/
  counted : (u.outcomes.map Outcome.total).sum = u.settled.length
  /-- What a drain took out is made up by what waited at its beginning and what came meanwhile. -/
  progress : ∀ g, u.going = some g →
    g.offered <:+ u.accepted ∧ g.out.length + u.queue.length = g.waited + g.offered.length
  /-- The item that the processor has is the next one that the drain is done with. -/
  next_out : ∀ g id next, u.going = some g → g.inHand = some (id, next) →
    ∃ fate, next.popped = g.popped ++ [(id, fate)]

/-- The books of a queue that nothing has happened to are right. -/
theorem conserved_fresh (maxItemDelay : Int) (capacity : Nat) (state : σ) :
    (fresh maxItemDelay capacity state).Conserved capacity where
  balance := rfl
  capacity_eq := rfl
  length_le := Nat.zero_le _
  counted := rfl
  progress := nofun
  next_out := nofun

namespace Conserved

/-- A call keeps the books right. -/
theorem call (h : u.Conserved capacity) (c : Queue.Call) : (u.call c).Conserved capacity where
  balance := by
    have hout : (u.call c).out = u.out := by
      unfold out Use.call
      cases u.going <;> rfl
    have hwaiting : (u.call c).queue.waiting = u.queue.waiting ++ u.queue.accepts c :=
      Queue.waiting_call u.queue c
    rw [hout, hwaiting, ← List.append_assoc, ← h.balance]
    rfl
  capacity_eq := (Queue.capacity_call u.queue c).trans h.capacity_eq
  length_le := by
    have hfits : u.queue.length ≤ u.queue.capacity := h.capacity_eq.symm ▸ h.length_le
    exact h.capacity_eq ▸ Queue.length_call_le c hfits
  counted := h.counted
  progress := by
    intro g hg
    obtain ⟨g', hg', rfl⟩ := Option.map_eq_some_iff.mp hg
    obtain ⟨⟨before, hbefore⟩, hcount⟩ := h.progress g' hg'
    have hlength : (u.queue.call c).length = u.queue.length + (u.queue.accepts c).length := by
      unfold Queue.length
      rw [Queue.waiting_call, List.length_append]
    refine ⟨⟨before, ?_⟩, ?_⟩
    · rw [← List.append_assoc, hbefore]
      rfl
    · change g'.out.length + (u.queue.call c).length
        = g'.waited + (g'.offered ++ u.queue.accepts c).length
      rw [List.length_append]
      omega
  next_out := by
    intro g id next hg hhand
    obtain ⟨g', hg', rfl⟩ := Option.map_eq_some_iff.mp hg
    exact h.next_out g' id next hg' hhand

/-- Beginning a drain keeps the books right. -/
theorem start (h : u.Conserved capacity) (now : Int) (idle : u.going = none) :
    Conserved capacity { u with going := some { now := now, waited := u.queue.length } } where
  balance := by
    rw [h.balance]
    unfold out
    rw [idle]
    rfl
  capacity_eq := h.capacity_eq
  length_le := h.length_le
  counted := h.counted
  progress := by
    rintro g ⟨⟩
    exact ⟨List.nil_suffix, Nat.zero_add _⟩
  next_out := by
    rintro g id next ⟨⟩ ⟨⟩

/-- Taking the head out keeps the books right, whatever is done with it. -/
theorem takeOut (h : u.Conserved capacity) {g g' : Going σ} {id : ItemId} {item : Item}
    (busy : u.going = some g) (head : u.queue.head? = some (id, item)) (state : σ)
    (hout : g'.out = g.out ++ [id]) (hoffered : g'.offered = g.offered)
    (hwaited : g'.waited = g.waited)
    (hnext : ∀ id' next, g'.inHand = some (id', next) →
      ∃ fate, next.popped = g'.popped ++ [(id', fate)]) :
    Conserved capacity { u with queue := u.queue.dropHead, state := state, going := some g' } := by
  have hwaiting := Queue.waiting_eq_cons_of_head? head
  have hlength : u.queue.length = u.queue.dropHead.length + 1 := by
    unfold Queue.length
    rw [hwaiting, List.length_cons]
  obtain ⟨hsuffix, hcount⟩ := h.progress g busy
  refine ⟨?balance, h.capacity_eq, ?length_le, h.counted, ?progress, ?next_out⟩
  case balance =>
    have hbalance := h.balance
    unfold out at hbalance ⊢
    rw [busy, hwaiting] at hbalance
    simp only [Option.map_some, Option.getD_some, hout, hbalance, List.append_assoc,
      List.cons_append, List.nil_append]
  case length_le =>
    have hfits := h.length_le
    change u.queue.dropHead.length ≤ capacity
    omega
  case progress =>
    rintro _ ⟨⟩
    refine ⟨hoffered ▸ hsuffix, ?_⟩
    rw [hout, hoffered, hwaited, List.length_append, List.length_singleton]
    change g.out.length + 1 + u.queue.dropHead.length = _
    omega
  case next_out =>
    rintro _ id' next ⟨⟩ hhand
    exact hnext id' next hhand

/-- Taking the head out without handing it over keeps the books right. -/
theorem skip (h : u.Conserved capacity) {g : Going σ} {id : ItemId} {item : Item} {next : Scan σ}
    (busy : u.going = some g) (free : g.inHand = none) (head : u.queue.head? = some (id, item))
    (unfit : item.verdict g.now u.queue.maxItemDelay ≠ .ready)
    (goes : (u.scan g).step? p g.now = some next) : (u.resume g next).Conserved capacity := by
  obtain ⟨fate, hnext⟩ := Scan.popped_of_step? (s := u.scan g) head goes
  change next.popped = g.popped ++ [(id, fate)] at hnext
  have hqueue : next.queue = u.queue.dropHead :=
    Scan.queue_of_step?_of_ne_ready (s := u.scan g) head unfit goes
  unfold resume
  rw [hqueue]
  refine h.takeOut busy head next.state ?_ rfl rfl nofun
  simp only [Going.out, Going.held, hnext, free, Option.map_none, Option.toList_none,
    List.map_append, List.map_cons, List.map_nil, List.append_nil]

/-- Handing the head over keeps the books right. -/
theorem hand (h : u.Conserved capacity) {g : Going σ} {id : ItemId} {item : Item} {next : Scan σ}
    (busy : u.going = some g) (free : g.inHand = none) (head : u.queue.head? = some (id, item))
    (goes : (u.scan g).step? p g.now = some next) : (u.hand g id next).Conserved capacity := by
  refine h.takeOut busy head u.state ?_ rfl rfl ?_
  · simp only [Going.out, Going.held, free, Option.map_none, Option.map_some, Option.toList_none,
      Option.toList_some, List.append_nil]
  · rintro _ _ ⟨⟩
    exact Scan.popped_of_step? (s := u.scan g) head goes

/-- The end of processing keeps the books right, whether it failed or not. -/
theorem done (h : u.Conserved capacity) {g : Going σ} {id : ItemId} {next : Scan σ}
    (busy : u.going = some g) (has : g.inHand = some (id, next)) :
    (u.resume g { next with queue := u.queue }).Conserved capacity := by
  obtain ⟨fate, hnext⟩ := h.next_out g id next busy has
  have hout : ({ g with popped := next.popped, inHand := none } : Going σ).out = g.out := by
    simp only [Going.out, Going.held, hnext, has, Option.map_none, Option.map_some,
      Option.toList_none, Option.toList_some, List.map_append, List.map_cons, List.map_nil,
      List.append_nil]
  refine ⟨?balance, h.capacity_eq, h.length_le, h.counted, ?progress, ?next_out⟩
  case balance =>
    have hbalance := h.balance
    unfold Use.out at hbalance ⊢
    rw [busy] at hbalance
    simpa only [resume, Option.map_some, Option.getD_some, hout] using hbalance
  case progress =>
    rintro _ ⟨⟩
    rw [hout]
    exact h.progress g busy
  case next_out =>
    rintro _ id' next' ⟨⟩ ⟨⟩

/-- The end of a drain keeps the books right. -/
theorem close (h : u.Conserved capacity) {g : Going σ} (busy : u.going = some g)
    (free : g.inHand = none) : (u.close g).Conserved capacity where
  balance := by
    have hbalance := h.balance
    have hout : g.out = g.popped.map Prod.fst := by
      simp only [Going.out, Going.held, free, Option.map_none, Option.toList_none,
        List.append_nil]
    unfold out at hbalance ⊢
    rw [busy] at hbalance
    simpa only [Use.close, Option.map_none, Option.map_some, Option.getD_none, Option.getD_some,
      hout, List.map_append, List.append_nil] using hbalance
  capacity_eq := h.capacity_eq
  length_le := h.length_le
  counted := by
    have htotal : (u.scan g).outcome.total = g.popped.length := Scan.total_outcome (u.scan g)
    simp only [Use.close, List.map_append, List.sum_append, List.length_append, h.counted,
      List.map_cons, List.map_nil, List.sum_cons, List.sum_nil, htotal, Nat.add_zero]
  progress := nofun
  next_out := nofun

/-- Every step keeps the books right. While the processor has an item its calls are steps like any others. -/
theorem step (h : u.Conserved capacity) (hstep : Step p u v) : v.Conserved capacity := by
  cases hstep with
  | call c => exact h.call c
  | start now idle => exact h.start now idle
  | skip g id item next busy free head unfit goes => exact h.skip busy free head unfit goes
  | hand g id item next busy free head fit goes => exact h.hand busy free head goes
  | done g id next busy has => exact h.done busy has
  | finish g busy free ends => exact h.close busy free

/-- The books are right after any run. -/
theorem run (h : u.Conserved capacity) (hrun : Reaches p u v) : v.Conserved capacity := by
  induction hrun with
  | refl => exact h
  | tail _ hstep ih => exact ih.step hstep

end Conserved

/-- **The books of a queue are right after any run.** The accepted offers are the items taken out
followed by those that wait; items are handed over at most once and in order; finished drains count
what they took out; an offer is refused exactly when the queue is full, and then changes nothing;
and a drain takes no more out than waited at its beginning and was accepted meanwhile, after which
there is nothing left for it. -/
theorem use_conserves_offers {maxItemDelay : Int} {state : σ}
    (hrun : Reaches p (fresh maxItemDelay capacity state) u) :
    u.accepted = u.out ++ u.queue.waiting ∧
    u.handed.Sublist u.accepted ∧
    (u.outcomes.map fun o => o.processed + o.discarded).sum +
      (u.going.elim 0 fun g => g.out.length) = u.out.length ∧
    u.queue.length ≤ capacity ∧
    (∀ id, (u.queue.offer id = .error (.full capacity) ↔ u.queue.length = capacity) ∧
      (u.queue.offer id = .ok (u.queue.append id) ↔ u.queue.length < capacity) ∧
      (u.queue.length = capacity → u.queue.call (.offer id) = u.queue)) ∧
    (∀ g, u.going = some g →
      g.offered <:+ u.accepted ∧ g.out.length ≤ g.waited + g.offered.length ∧
      (g.out.length = g.waited + g.offered.length → (u.scan g).step? p g.now = none)) := by
  have h : u.Conserved capacity := (conserved_fresh maxItemDelay capacity state).run hrun
  refine ⟨h.balance, ?handed, ?counted, h.length_le, ?offers, ?drains⟩
  case handed =>
    rw [h.balance]
    exact u.handed_sublist_out.trans (List.sublist_append_left _ _)
  case counted =>
    have hcounted : (u.outcomes.map fun o => o.processed + o.discarded).sum = u.settled.length :=
      h.counted
    rw [hcounted, out, List.length_append, List.length_map]
    cases u.going <;> rfl
  case offers =>
    intro id
    have hfits := h.length_le
    refine ⟨?_, ?_, ?_⟩
    · rw [Queue.offer_eq_error_iff, h.capacity_eq]
      constructor
      · rintro ⟨hfull, -⟩
        exact Nat.le_antisymm hfits hfull
      · intro hfull
        exact ⟨Nat.le_of_eq hfull.symm, rfl⟩
    · rw [Queue.offer_eq_ok_iff, h.capacity_eq]
      exact and_iff_left rfl
    · intro hfull
      exact (Queue.offer_of_le id (Nat.le_of_eq (h.capacity_eq.trans hfull.symm))).1
  case drains =>
    intro g busy
    obtain ⟨hsuffix, hcount⟩ := h.progress g busy
    refine ⟨hsuffix, by omega, fun hall => ?_⟩
    have hempty : u.queue.waiting = [] := List.eq_nil_of_length_eq_zero (by
      change u.queue.length = 0
      omega)
    refine Scan.step?_eq_none_iff.mpr fun id item hhead => ?_
    have hwaits := Queue.waiting_eq_cons_of_head? hhead
    change u.queue.waiting = _ at hwaits
    rw [hempty] at hwaits
    cases hwaits

/-- The books of a queue with room for one item, whose processor answers touches with touches: the
second offer is refused, and the answer, which is offered from within the drain, is drained too. -/
theorem use_conserves_offers_echo :
    ∃ u : Use Ledger, Reaches Ledger.processor (fresh 1000 1 { echo := some ⟨1, 5⟩ }) u ∧
      u.accepted = [0, 1] ∧ u.outcomes = [⟨2, 0, false⟩] ∧
      u.accepted = u.out ++ u.queue.waiting := by
  let touched : Item := ⟨⟨0, {}, ⟨"a", "s", "v"⟩⟩, .touch [⟨0, .pointer {}⟩]⟩
  let answer : Item := ⟨⟨5, {}, Ledger.echoView⟩, .touch [⟨5, .pointer {}⟩]⟩
  have hbefore : Reaches Ledger.processor (fresh 1000 1 { echo := some ⟨1, 5⟩ }) _ :=
    (((Relation.ReflTransGen.single (.call _ (.create touched))).tail
      (.call _ (.offer 0))).tail (.call _ (.offer 0))).tail (.start _ 10 rfl)
  have hfirst : Reaches Ledger.processor (fresh 1000 1 { echo := some ⟨1, 5⟩ }) _ :=
    (((hbefore.tail (.hand _ _ 0 touched _ rfl rfl rfl (by decide) rfl)).tail
      (.call _ (.create answer))).tail (.call _ (.offer 1))).tail (.done _ _ 0 _ rfl rfl)
  have hrun : Reaches Ledger.processor (fresh 1000 1 { echo := some ⟨1, 5⟩ }) _ :=
    ((hfirst.tail (.hand _ _ 1 answer _ rfl rfl rfl (by decide) rfl)).tail
      (.done _ _ 1 _ rfl rfl)).tail (.finish _ _ rfl rfl rfl)
  exact ⟨_, hrun, rfl, rfl, (use_conserves_offers hrun).1⟩

end Use

/-! ## Draining is such a run -/

/-- A processor uses the queue through its calls only. -/
def Processor.Orderly {σ : Type} (p : Processor σ) : Prop :=
  ∀ item q state, ∃ cs, (p.handle item q state).queue = q.calls cs

namespace Use

variable {σ : Type} {p : Processor σ}

/-- Calls made during a drain change nothing but the queue and what is known of the offers. -/
theorem reaches_calls (cs : List Queue.Call) (u : Use σ) {g : Going σ} (busy : u.going = some g) :
    Reaches p u
      { u with
        queue := u.queue.calls cs
        accepted := u.accepted ++ u.queue.acceptsAll cs
        going := some { g with offered := g.offered ++ u.queue.acceptsAll cs } } := by
  induction cs generalizing u g with
  | nil =>
    rw [Queue.acceptsAll, List.append_nil, List.append_nil]
    have hsame : some { g with offered := g.offered } = u.going := busy.symm
    rw [hsame]
    exact .refl
  | cons c cs ih =>
    have hgoing : (u.call c).going
        = some { g with offered := g.offered ++ u.queue.accepts c } := by
      unfold Use.call
      rw [busy, Option.map_some]
    have hrest := ih (u.call c) hgoing
    simp only [Use.call, List.append_assoc] at hrest
    exact .head (.call u c) hrest

/-- A queue whose drain has come as far as `s`, with what is then known of the offers. -/
def upTo (u : Use σ) (g : Going σ) (s : Scan σ) (accepted offered : List ItemId) : Use σ :=
  { u with
    queue := s.queue
    state := s.state
    accepted := accepted
    going := some { g with offered := offered, popped := s.popped, inHand := none } }

/-- A turn of a drain is one or several steps. -/
theorem reaches_turn (hp : p.Orderly) {u : Use σ} {g : Going σ} {next : Scan σ}
    (busy : u.going = some g) (free : g.inHand = none)
    (goes : (u.scan g).step? p g.now = some next) :
    ∃ accepted offered, Reaches p u (u.upTo g next accepted offered) := by
  obtain ⟨id, item, hhead, hcases⟩ := Scan.step?_eq_some_iff.mp goes
  change u.queue.head? = some (id, item) at hhead
  by_cases hready : item.verdict g.now u.queue.maxItemDelay = .ready
  case neg =>
    exact ⟨u.accepted, g.offered, .single (.skip u g id item next busy free hhead hready goes)⟩
  case pos =>
    have hnext : next = (u.scan g).process p id item := by
      obtain ⟨hstale, -⟩ | ⟨hinvalid, -⟩ | ⟨-, hnext⟩ := hcases
      · exact absurd (hready.symm.trans hstale) (by decide)
      · exact absurd (hready.symm.trans hinvalid) (by decide)
      · exact hnext
    obtain ⟨cs, hcs⟩ := hp item u.queue.dropHead u.state
    have hqueue : next.queue = u.queue.dropHead.calls cs := by
      rw [hnext, Scan.queue_process]
      exact hcs
    have hhand : Reaches p u (u.hand g id next) :=
      .single (.hand u g id item next busy free hhead hready goes)
    have hcalls :=
      reaches_calls (p := p) cs (u.hand g id next) (g := { g with inHand := some (id, next) }) rfl
    have hdone := (hhand.trans hcalls).tail (.done _ _ id next rfl rfl)
    refine ⟨u.accepted ++ u.queue.dropHead.acceptsAll cs,
      g.offered ++ u.queue.dropHead.acceptsAll cs, ?_⟩
    unfold upTo
    rw [hqueue]
    exact hdone

/-- Turns of a drain one after the other are some steps. -/
theorem reaches_run (hp : p.Orderly) (fuel : Nat) {u : Use σ} {g : Going σ}
    (busy : u.going = some g) (free : g.inHand = none) :
    ∃ accepted offered,
      Reaches p u (u.upTo g ((u.scan g).run p g.now fuel) accepted offered) := by
  have hstay : Reaches p u (u.upTo g (u.scan g) u.accepted g.offered) := by
    have hsame : u.upTo g (u.scan g) u.accepted g.offered = { u with going := some g } := by
      unfold upTo scan
      rw [← free]
    rw [hsame, ← busy]
  induction fuel generalizing u g with
  | zero => exact ⟨u.accepted, g.offered, hstay⟩
  | succ fuel ih =>
    cases hstep : (u.scan g).step? p g.now with
    | none =>
      rw [Scan.run_of_step?_eq_none (fuel + 1) hstep]
      exact ⟨u.accepted, g.offered, hstay⟩
    | some next =>
      obtain ⟨accepted, offered, hturn⟩ := reaches_turn hp busy free hstep
      have hbusy : (u.upTo g next accepted offered).going
          = some { g with offered := offered, popped := next.popped, inHand := none } := rfl
      obtain ⟨accepted', offered', hrest⟩ := ih hbusy rfl .refl
      rw [Scan.run_succ_of_step? hstep]
      exact ⟨accepted', offered', hturn.trans hrest⟩

/-- **Draining a queue is a run of it**: a drain begins, makes its turns, and ends with the outcome
that draining reports. -/
theorem drain_reachable (hp : p.Orderly) (hbudget : p.Honest) (now : Int) (u : Use σ)
    (idle : u.going = none) :
    ∃ accepted, Reaches p u
      { queue := (u.queue.drain p now u.state).queue
        state := (u.queue.drain p now u.state).state
        accepted := accepted
        settled := u.settled ++ (u.queue.drain p now u.state).popped
        outcomes := u.outcomes ++ [(u.queue.drain p now u.state).outcome] } := by
  let g : Going σ := { now := now, waited := u.queue.length }
  let s := u.queue.drain p now u.state
  have hstart : Reaches p u { u with going := some g } := .single (.start u now idle)
  obtain ⟨accepted, offered, hrun⟩ :=
    reaches_run hp (u.queue.length + p.budget now u.queue u.state)
      (u := { u with going := some g }) (g := g) rfl rfl
  have hends : s.step? p now = none := Queue.drain_ended hbudget now u.queue u.state
  have hfinish := Step.finish (p := p) (u.upTo g s accepted offered)
    { g with offered := offered, popped := s.popped } rfl rfl hends
  exact ⟨accepted, (hstart.trans hrun).tail hfinish⟩

end Use

end SessionReplay
