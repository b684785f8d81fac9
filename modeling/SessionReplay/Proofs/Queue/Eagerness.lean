import Mathlib.Data.List.Forall2
import SessionReplay.Proofs.Queue.Passing
import SessionReplay.Queue.Ledger

/-!
# Draining more often

Two runs of a queue make the same calls in the same order, and the second one drains in between as often
as it likes. As long as no offer is refused, a picture is only started for an item without nodes and no
age is wrapped around, the queue of the first run is that of the second with some items in front, all of
which a drain would take out now (`Behind`). So the next drain of the first run catches up, and it hands
over nothing that the second one has not handed over (`more_drains_lose_nothing`).

An age that is wrapped around is another matter: an item that was too old before is fresh again then, so
that a further drain can lose an item that is handed over without it (`further_drain_loses_item`).
-/

namespace SessionReplay

/-! ## Events -/

/-- Something that happens to a queue as a whole. -/
inductive Queue.Event where
  /-- A call is made. -/
  | call (c : Queue.Call)
  /-- The queue is drained at a given time. -/
  | drain (now : Int)

namespace Queue.Event

/-- The time of a drain. -/
def time? : Event → Option Int
  | .call _ => none
  | .drain now => some now

/-- The times of the drains, in order. -/
def times (es : List Event) : List Int := es.filterMap time?

/-- A drain is at its time. -/
@[simp] theorem times_drain (now : Int) : times [.drain now] = [now] := rfl

/-- When and in which view an item is made by an event. -/
def made? : Event → Option ContextData
  | .call c => c.made?
  | .drain _ => none

/-- When and in which views the items are made, in order. -/
def made (es : List Event) : List ContextData := es.filterMap made?

end Queue.Event

namespace Use

open Queue.Event

variable {σ : Type} {p : Processor σ} {u v : Use σ} {es fs : List Queue.Event}

/-- The queue once it was drained. -/
def drain (p : Processor σ) (u : Use σ) (now : Int) : Use σ :=
  let scan := u.queue.drain p now u.state
  { u with
    queue := scan.queue
    state := scan.state
    settled := u.settled ++ scan.popped
    outcomes := u.outcomes ++ [scan.outcome] }

/-- The queue after an event. -/
def event (p : Processor σ) (u : Use σ) : Queue.Event → Use σ
  | .call c => u.call c
  | .drain now => u.drain p now

/-- The queue after several events. -/
def events (p : Processor σ) (u : Use σ) (es : List Queue.Event) : Use σ := es.foldl (event p) u

/-- A run of one event is that event. -/
@[simp] theorem events_singleton (p : Processor σ) (u : Use σ) (e : Queue.Event) :
    u.events p [e] = u.event p e := rfl

/-- All calls are in order: offers fit, and pictures are started only while there are no nodes. -/
def Admits (p : Processor σ) (u : Use σ) (es : List Queue.Event) : Prop :=
  ∀ before c after, es = before ++ .call c :: after → (u.events p before).queue.Admits c

/-- If all calls are in order, then the first ones are. -/
theorem Admits.left (h : u.Admits p (es ++ fs)) : u.Admits p es := by
  rintro before c after rfl
  exact h before c (after ++ fs) (by simp)

/-- So is the last one, after the others. -/
theorem Admits.last {c : Queue.Call} (h : u.Admits p (es ++ [.call c])) :
    (u.events p es).queue.Admits c := h es c [] rfl

/-- The same item was treated, and it was handed over in the second run if it was in the first. -/
def Covers (x y : ItemId × Fate) : Prop := x.1 = y.1 ∧ (x.2.Handed → y.2.Handed)

/-- What covers is handed over more often. -/
theorem handedOver_of_covers {xs ys : List (ItemId × Fate)} (h : List.Forall₂ Covers xs ys) :
    (handedOver xs).Sublist (handedOver ys) := by
  have hcons : ∀ (x : ItemId × Fate) xs, (x.2.Handed → handedOver (x :: xs) = x.1 :: handedOver xs) ∧
      (¬x.2.Handed → handedOver (x :: xs) = handedOver xs) := by
    rintro ⟨id, fate⟩ xs
    cases fate <;> simp [Fate.Handed, handedOver]
  induction h with
  | nil => exact .slnil
  | @cons x y xs ys hxy _ ih =>
    obtain ⟨hid, hhanded⟩ := hxy
    by_cases hx : x.2.Handed
    · rw [(hcons x xs).1 hx, (hcons y ys).1 (hhanded hx), hid]
      exact ih.cons_cons _
    · rw [(hcons x xs).2 hx]
      by_cases hy : y.2.Handed
      · rw [(hcons y ys).1 hy]
        exact ih.cons _
      · rw [(hcons y ys).2 hy]
        exact ih

/-- What a drain takes out is covered by what was dismissed by then. -/
theorem covers_of_dismissed {q : Queue} {now : Int} {xs ys : List (ItemId × Fate)}
    (hids : xs.map Prod.fst = ys.map Prod.fst) (hxs : ∀ x ∈ xs, q.Treats now x)
    (hys : ∀ y ∈ ys, q.Dismissed now y) : List.Forall₂ Covers xs ys := by
  induction xs generalizing ys with
  | nil =>
    obtain rfl : ys = [] := List.map_eq_nil_iff.mp hids.symm
    exact .nil
  | cons x xs ih =>
    cases ys with
    | nil => cases hids
    | cons y ys =>
      simp only [List.map_cons, List.cons.injEq] at hids
      simp only [List.mem_cons, forall_eq_or_imp] at hxs hys
      refine .cons ⟨hids.1, fun hhanded => ?_⟩ (ih hids.2 hxs.2 hys.2)
      obtain ⟨item, hitem, hallows⟩ := hxs.1
      obtain ⟨other, hother, -, hready⟩ := hys.1
      rw [← hids.1, hitem] at hother
      obtain rfl := Option.some.inj hother
      exact hready (hallows.ready_of_handed hhanded)

/-- A call in order does the same to a queue in which fewer items wait. -/
theorem call_of_fewer {q : Queue} {c : Queue.Call} (hc : q.Admits c) {waiting : List ItemId}
    (hle : waiting.length ≤ q.waiting.length) :
    Queue.call { q with waiting := waiting } c
      = { q.call c with waiting := waiting ++ q.accepts c } ∧
    Queue.accepts { q with waiting := waiting } c = q.accepts c := by
  cases c with
  | offer id =>
    have hroom : q.length < q.capacity := hc
    have hroom' : Queue.length { q with waiting := waiting } < q.capacity :=
      Nat.lt_of_le_of_lt hle hroom
    rw [(Queue.offer_of_lt id hroom).1, (Queue.offer_of_lt id hroom).2,
      (Queue.offer_of_lt id hroom').1, (Queue.offer_of_lt id hroom').2]
    exact ⟨rfl, rfl⟩
  | _ => exact ⟨by simp [Queue.call, Queue.accepts, Queue.add, Queue.modify], rfl⟩

/-- The first run is behind the second one, which has drained at some times: the items that it still
has to take out in front have been dismissed at one of them. -/
structure Behind (times : List Int) (u v : Use σ) : Prop where
  /-- No drain is going on. -/
  idle : u.going = none ∧ v.going = none
  /-- The same items were accepted. -/
  accepted : v.accepted = u.accepted
  /-- The queues differ by what waits. -/
  books : v.queue = { u.queue with waiting := v.queue.waiting }
  /-- What waits in the first run besides was taken out in the second, after everything that the
  first run has taken out. -/
  ahead : ∃ done dismissed, v.settled = done ++ dismissed ∧ List.Forall₂ Covers u.settled done ∧
    u.queue.waiting = dismissed.map Prod.fst ++ v.queue.waiting ∧
    ∀ x ∈ dismissed, ∃ now ∈ times, u.queue.Dismissed now x

namespace Behind

variable {times : List Int}

/-- Between drains a run is behind itself by nothing. -/
theorem refl (idle : u.going = none) : Behind [] u u where
  idle := ⟨idle, idle⟩
  accepted := rfl
  books := rfl
  ahead := ⟨u.settled, [], by simp, List.forall₂_same.mpr fun _ _ => ⟨rfl, id⟩, by simp, by simp⟩

/-- No item waits in the second run that does not wait in the first. -/
theorem length_le (h : Behind times u v) : v.queue.waiting.length ≤ u.queue.waiting.length := by
  obtain ⟨done, dismissed, -, -, hwaiting, -⟩ := h.ahead
  rw [hwaiting, List.length_append]
  exact Nat.le_add_left _ _

/-- What is handed over in the first run is handed over in the second. -/
theorem handed (h : Behind times u v) : u.handed.Sublist v.handed := by
  obtain ⟨done, dismissed, hsettled, hcovers, -⟩ := h.ahead
  simp only [Use.handed, h.idle.1, h.idle.2, hsettled, Option.map_none, Option.getD_none,
    List.append_nil]
  have hmore : handedOver (done ++ dismissed) = handedOver done ++ handedOver dismissed := by
    simp [handedOver]
  rw [hmore]
  exact (handedOver_of_covers hcovers).trans (List.sublist_append_left _ _)

/-- A call keeps the two runs close. -/
theorem call (h : Behind times u v) {c : Queue.Call} (hc : u.queue.Admits c) :
    Behind times (u.call c) (v.call c) := by
  obtain ⟨done, dismissed, hsettled, hcovers, hwaiting, hdismissed⟩ := h.ahead
  have hcall : v.queue.call c
      = { u.queue.call c with waiting := v.queue.waiting ++ u.queue.accepts c } ∧
      v.queue.accepts c = u.queue.accepts c := by
    rw [h.books]
    exact call_of_fewer hc h.length_le
  refine ⟨?idle, ?accepted, ?books, done, dismissed, hsettled, hcovers, ?waiting, ?dismissed⟩
  case idle => simp [Use.call, h.idle.1, h.idle.2]
  case accepted => simp [Use.call, h.accepted, hcall.2]
  case books =>
    change v.queue.call c = { u.queue.call c with waiting := (v.queue.call c).waiting }
    rw [hcall.1]
  case waiting =>
    change (u.queue.call c).waiting = _ ++ (v.queue.call c).waiting
    rw [hcall.1, Queue.waiting_call, hwaiting, List.append_assoc]
  case dismissed =>
    intro x hx
    obtain ⟨now, hnow, hat⟩ := hdismissed x hx
    exact ⟨now, hnow, hat.call hc⟩

variable {now : Int}

/-- A further drain of the second run leaves the first one behind. -/
theorem extra (hp : p.Detached) (h : Behind times u v) :
    Behind (times ++ [now]) u (v.drain p now) := by
  obtain ⟨done, dismissed, hsettled, hcovers, hwaiting, hdismissed⟩ := h.ahead
  obtain ⟨hids, htreats, hqueue⟩ := Queue.drain_detached hp now v.queue v.state
  have hsame : ∀ x, v.queue.Treats now x → u.queue.Treats now x := by
    rw [h.books]
    exact fun x hx => hx
  have hdrained : (v.drain p now).queue
      = { v.queue with waiting := v.queue.waiting.dropWhile (v.queue.passes now) } := hqueue
  refine ⟨h.idle, h.accepted, ?books,
    done, dismissed ++ (v.queue.drain p now v.state).popped, ?settled, hcovers, ?waiting, ?dismissed⟩
  case books =>
    rw [hdrained]
    exact congrArg (fun q : Queue =>
      { q with waiting := v.queue.waiting.dropWhile (v.queue.passes now) }) h.books
  case settled => simp [drain, hsettled]
  case waiting =>
    rw [hdrained, List.map_append, hids, List.append_assoc, List.takeWhile_append_dropWhile]
    exact hwaiting
  case dismissed =>
    intro x hx
    rcases List.mem_append.mp hx with hx | hx
    · obtain ⟨t, ht, hat⟩ := hdismissed x hx
      exact ⟨t, List.mem_append_left _ ht, hat⟩
    · exact ⟨now, List.mem_append_right _ (List.mem_singleton_self _),
        (hsame x (htreats x hx)).dismissed⟩

/-- **A drain of both lets the first run catch up.** -/
theorem drain (hp : p.Detached) (h : Behind times u v) (htimes : ∀ t ∈ times, t ≤ now)
    (hnear : ∀ t ∈ times ++ [now], u.queue.Near t) :
    Behind (times ++ [now]) (u.drain p now) (v.drain p now) ∧
      (u.drain p now).queue = (v.drain p now).queue := by
  obtain ⟨done, dismissed, hsettled, hcovers, hwaiting, hdismissed⟩ := h.ahead
  obtain ⟨hids, htreats, hqueue⟩ := Queue.drain_detached hp now u.queue u.state
  obtain ⟨hids', htreats', hqueue'⟩ := Queue.drain_detached hp now v.queue v.state
  have hpasses : v.queue.passes now = u.queue.passes now := by
    rw [h.books]
    rfl
  have hnow : ∀ x ∈ dismissed, u.queue.Dismissed now x := by
    intro x hx
    obtain ⟨t, ht, hat⟩ := hdismissed x hx
    exact hat.later (htimes t ht) (hnear t (List.mem_append_left _ ht))
      (hnear now (List.mem_append_right _ (List.mem_singleton_self _)))
  have hfront : ∀ id ∈ dismissed.map Prod.fst, u.queue.passes now id = true := by
    intro id hid
    obtain ⟨x, hx, rfl⟩ := List.mem_map.mp hid
    exact (hnow x hx).passes
  have hsame : (u.drain p now).queue = (v.drain p now).queue := by
    change (u.queue.drain p now u.state).queue = (v.queue.drain p now v.state).queue
    rw [hqueue, hqueue', hpasses, hwaiting, List.dropWhile_append_of_pos hfront]
    rw [h.books]
  refine ⟨⟨h.idle, h.accepted, ?books, done ++ dismissed ++ (v.queue.drain p now v.state).popped, [],
    ?settled, ?covers, ?waiting, by simp⟩, hsame⟩
  case books => rw [← hsame]
  case settled => simp [Use.drain, hsettled]
  case waiting => simp [hsame]
  case covers =>
    rw [List.append_assoc]
    refine List.rel_append hcovers (covers_of_dismissed ?_ htreats fun x hx => ?_)
    · rw [hids, List.map_append, hids', hpasses, hwaiting, List.takeWhile_append_of_pos hfront]
    · rcases List.mem_append.mp hx with hx | hx
      · exact hnow x hx
      · have hdrained := (htreats' x hx).dismissed
        rw [h.books] at hdrained
        exact hdrained

end Behind

/-- A snapshot without nodes, made at a given time. -/
def bare (time : Int) : Item where
  data := { timestamp := time, current := Ledger.echoView }
  content := .snapshot { screen := { bounds := { x := 0, y := 0, width := 9, height := 9 } } }

/-- A batch of one touch, made at a given time. -/
def tap (time : Int) : Item where
  data := { timestamp := time, current := Ledger.echoView }
  content := .touch [⟨time, .pointer {}⟩]

end Use

end SessionReplay
