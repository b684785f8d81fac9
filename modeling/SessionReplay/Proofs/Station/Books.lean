import SessionReplay.Proofs.Queue.Conservation
import SessionReplay.Proofs.Station.Turns

/-!
# The books of a station's queue

What is done to a station is, as far as its queue is concerned, some calls of the queue
(`queue_call`). So the worker's side of a drain is an orderly processor, and every drain of the
worker is a run of the queue for which the books are right (`drain_books`).
-/

namespace SessionReplay

namespace Station

variable {σ : Type} {e : Engine σ}

/-- A call of a station is some calls of its queue. -/
theorem queue_call (s : Station σ) (c : Call σ) : ∃ cs, (s.call c).queue = s.queue.calls cs := by
  cases c with
  | add content =>
    change ∃ cs, (s.addItem content).2.queue = s.queue.calls cs
    rcases s.addItem_cases content with ⟨view, ⟨-, -, hroom⟩, hadd⟩ | ⟨-, event, hadd⟩ <;> rw [hadd]
    · refine ⟨[.create (s.newItem view content), .offer s.queue.nextId], ?_⟩
      have hfits : (s.queue.add (s.newItem view content)).length
          < (s.queue.add (s.newItem view content)).capacity := hroom
      exact (Queue.offer_of_lt s.queue.nextId hfits).1.symm
    · exact ⟨[], rfl⟩
  | requestDrain => exact ⟨[], s.queue_requestDrain⟩
  | sendFlush =>
    rcases s.call_sendFlush_cases with ⟨-, hsend⟩ | ⟨-, hsend⟩ <;> rw [hsend] <;> exact ⟨[], rfl⟩
  | startJob id => exact ⟨[.startJob id], rfl⟩
  | finishJob id =>
    change ∃ cs, (s.finishJob id).queue = s.queue.calls cs
    rcases s.finishJob_cases id with hfinish | ⟨-, hfinish⟩ <;> rw [hfinish]
    · rw [queue_requestDrain]
      exact ⟨[.finishJob id], rfl⟩
    · exact ⟨[.finishJob id], rfl⟩
  | attachNodes id nodes => exact ⟨[.attachNodes id nodes], rfl⟩
  | _ => exact ⟨[], rfl⟩

/-- Calls of a station are some calls of its queue. -/
theorem queue_calls (s : Station σ) (cs : List (Call σ)) :
    ∃ qs, (s.calls cs).queue = s.queue.calls qs := by
  refine calls_induction (P := fun t => ∃ qs, t.queue = s.queue.calls qs) (fun c _ t ht => ?_)
    ⟨[], rfl⟩
  obtain ⟨qs, hqs⟩ := ht
  obtain ⟨qs', hqs'⟩ := t.queue_call c
  refine ⟨qs ++ qs', ?_⟩
  rw [hqs', hqs]
  exact (List.foldl_append ..).symm

/-- The worker's side of a drain uses the queue through its calls only, if the engine uses the
station through its calls only. -/
theorem processor_orderly (he : Orderly e) : (processor e).Orderly := by
  intro item q s
  obtain ⟨cs, hcs⟩ := he item { s with queue := q }
  obtain ⟨qs, hqs⟩ := queue_calls { s with queue := q } cs
  refine ⟨qs, ?_⟩
  change (e.handle item { s with queue := q }).1.queue = q.calls qs
  rw [hcs, hqs]

/-- **A drain of the worker is a run of the queue**, in which it ends with the outcome that the
worker reports. -/
theorem drain_books (he : Orderly e) (hend : Honest e) (s : Station σ) :
    ∃ (accepted : List ItemId) (popped : List (ItemId × Fate)),
      Use.Reaches (processor e) { queue := s.queue, state := s.readClock }
        { queue := (s.drain e).1.queue
          state := (s.queue.drain (processor e) s.clock s.readClock).state
          accepted := accepted
          settled := popped
          outcomes := [(s.drain e).2] } := by
  obtain ⟨accepted, hrun⟩ := Use.drain_reachable (processor_orderly he) (processor_honest hend)
    s.clock { queue := s.queue, state := s.readClock } rfl
  rw [queue_drain, outcome_drain]
  exact ⟨accepted, _, hrun⟩

end Station

end SessionReplay
