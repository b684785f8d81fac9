import SessionReplay.Proofs.Recording.Accounts

/-!
# The course of a recording

A step of a chronicle is known once it is said what happened (`Event`): which copy ended with which
result, which pixels were encoded, what the application did, or that the worker went on. So a run can be
told as the list of these events, its `Course`, and every run has one (`reaches_iff_course`).

Two things can be read off the course of a run that begins with nothing: which copies were asked for
(`asked`) and which items were told that a copy is done (`released`). No two copies have the same slot
(`Distinct`), so each of them is told apart from the others.
-/

namespace SessionReplay

/-! ## The worker's own moves -/

namespace Station

/-- What the worker does next on its own, that is without processing an item and without answering,
with the time that the drain which is going on goes by. -/
def moved? (busy : Option Int) (s : Station Output) : Option (Option Int × Station Output) :=
  match busy with
  | none =>
    match s.worker, s.mailbox with
    | .starting, _ => some (none, { s with worker := .serving }.note .workerStarted)
    | .serving, .drain :: rest =>
      some (some s.clock, readClock { s with mailbox := rest, drainRequested := false })
    | .serving, .flush _ :: rest => some (some s.clock, readClock { s with mailbox := rest })
    | .serving, .shutdown :: rest =>
      some (none, ((((({ s with mailbox := [], worker := .stopped } : Station Output).dropReplies
        rest).note .workerStopping).note .workerStopped)))
    | _, _ => none
  | some now =>
    match s.queue.head? with
    | none => some (none, s)
    | some (_, item) =>
      match item.verdict now s.queue.maxItemDelay with
      | .stale => some (some now, s.takeHead.note (.staleItem item.data.timestamp now))
      | .invalid => some (some now, s.takeHead.note .invalidItem)
      | .blocked => some (none, s)
      | .ready => none

/-- The moves of the worker are its own ones, and answers. -/
theorem move_iff {busy busy' : Option Int} {s t : Station Output} :
    Move busy s busy' t ↔ s.moved? busy = some (busy', t) ∨
      busy = none ∧ busy' = none ∧ ∃ ticket answer, t = s.reply ticket answer := by
  constructor
  · intro h
    cases h with
    | wake _ starting => simp [moved?, starting]
    | drain _ rest serving mail => simp [moved?, serving, mail]
    | flush _ ticket rest serving mail => simp [moved?, serving, mail]
    | stale now _ id item head verdict => simp [moved?, head, verdict]
    | invalid now _ id item head verdict => simp [moved?, head, verdict]
    | finish now _ ends =>
      left
      cases hhead : s.queue.head? with
      | none => simp [moved?, hhead]
      | some head => simp [moved?, hhead, ends head.1 head.2 hhead]
    | reply _ ticket answer => exact .inr ⟨rfl, rfl, ticket, answer, rfl⟩
    | stop _ rest serving mail => simp [moved?, serving, mail]
  · rintro (h | ⟨rfl, rfl, ticket, answer, rfl⟩)
    · unfold moved? at h
      split at h
      · split at h
        case h_1 _ _ hworker => cases h; exact .wake s hworker
        case h_2 rest hworker hmail => cases h; exact .drain s rest hworker hmail
        case h_3 ticket rest hworker hmail => cases h; exact .flush s ticket rest hworker hmail
        case h_4 rest hworker hmail => cases h; exact .stop s rest hworker hmail
        case h_5 => cases h
      next now =>
        split at h
        next hhead =>
          cases h
          exact .finish now s fun id item hsome => nomatch hhead.symm.trans hsome
        next id item hhead =>
          split at h
          next hverdict => cases h; exact .stale now s id item hhead hverdict
          next hverdict => cases h; exact .invalid now s id item hhead hverdict
          next hverdict =>
            cases h
            refine .finish now s fun id' item' hsome => ?_
            cases hhead.symm.trans hsome
            exact hverdict
          next => cases h
    · exact .reply s ticket answer

end Station

namespace Chronicle

open Station

/-! ## Events -/

/-- What happens in a step. Copies are told by themselves, and snapshots that are being made by their
place among the others. -/
inductive Event where
  /-- Somebody does something that is one step. -/
  | deed (d : Deed)
  /-- A snapshot of some sketches begins, unless it is refused. -/
  | snapshot (screen : ScreenInfo) (sketches : List (Node CopySource))
  /-- A copy is asked for. -/
  | ask (place : Nat) (copy : Copy)
  /-- A copy ends that was asked for. -/
  | answer (copy : Copy) (result : CopyResult)
  /-- Copied pixels are encoded. -/
  | encode (copy : Copy) (bitmap : Bitmap)
  /-- An item gets to know that one of its copies is done. -/
  | release (copy : Copy)
  /-- The nodes of a snapshot are attached. -/
  | attach (place : Nat)
  /-- A drain is requested. -/
  | request
  /-- The worker goes on, without processing an item. -/
  | work
  /-- The worker answers a flush. -/
  | reply
  /-- The worker is handed an item. -/
  | deliver

/-- An event happens between two chronicles. -/
def Happens : Event → Chronicle → Chronicle → Prop
  | .deed d, c, k => Single d ∧ k = c.doing d
  | .snapshot screen sketches, c, k =>
    (∃ s, c.station.addSnapshot screen = (none, s) ∧ k = c.withStation s) ∨
      ∃ id s, c.station.addSnapshot screen = (some id, s) ∧ k = c.beginning id sketches s
  | .ask place copy, c, k =>
    ∃ before walk after rest, c.walks = before ++ walk :: after ∧ before.length = place ∧
      walk.copies = copy :: rest ∧ k = c.asking copy (before ++ { walk with copies := rest } :: after)
  | .answer copy result, c, k =>
    ∃ index, c.recording.held[index]? = some copy ∧ k = c.answering index copy result
  | .encode copy bitmap, c, k =>
    ∃ index, c.recording.encoding[index]? = some (copy, bitmap) ∧ k = c.encoding index copy bitmap
  | .release copy, c, k =>
    ∃ before after, c.releasing = before ++ copy :: after ∧ k = c.freeing copy (before ++ after)
  | .attach place, c, k =>
    ∃ before walk after, c.walks = before ++ walk :: after ∧ before.length = place ∧
      walk.copies = [] ∧ k = c.attaching walk (before ++ after)
  | .request, c, k => k = c.withStation c.station.requestDrain
  | .work, c, k =>
    ∃ busy s, c.station.moved? c.draining = some (busy, s) ∧
      k = { c.withStation s with draining := busy }
  | .reply, c, k =>
    c.draining = none ∧ ∃ ticket answer, k = c.withStation (c.station.reply ticket answer)
  | .deliver, c, k =>
    ∃ now id item, c.draining = some now ∧ c.station.queue.head? = some (id, item) ∧
      item.verdict now c.station.queue.maxItemDelay = .ready ∧ k = c.delivering id item

/-- **Every step is an event.** -/
theorem step_iff_happens {c k : Chronicle} : Step c k ↔ ∃ e, Happens e c k := by
  constructor
  · intro h
    cases h with
    | deed d single => exact ⟨.deed d, single, rfl⟩
    | refuse screen s refused => exact ⟨.snapshot screen [], .inl ⟨s, refused, rfl⟩⟩
    | accept screen sketches id s accepted =>
      exact ⟨.snapshot screen sketches, .inr ⟨id, s, accepted, rfl⟩⟩
    | ask before after walk copy rest walks copies =>
      exact ⟨.ask before.length copy, before, walk, after, rest, walks, rfl, copies, rfl⟩
    | answer index copy result held => exact ⟨.answer copy result, index, held, rfl⟩
    | encode index copy bitmap copied => exact ⟨.encode copy bitmap, index, copied, rfl⟩
    | release before after copy releasing => exact ⟨.release copy, before, after, releasing, rfl⟩
    | attach before after walk walks copies =>
      exact ⟨.attach before.length, before, walk, after, walks, rfl, copies, rfl⟩
    | request => exact ⟨.request, rfl⟩
    | move busy s moves =>
      rcases move_iff.mp moves with hmoved | ⟨hidle, rfl, ticket, answer, rfl⟩
      · exact ⟨.work, busy, s, hmoved, rfl⟩
      · refine ⟨.reply, hidle, ticket, answer, ?_⟩
        rw [← hidle]
        rfl
    | deliver now id item busy head ready => exact ⟨.deliver, now, id, item, busy, head, ready, rfl⟩
  · rintro ⟨e, h⟩
    cases e with
    | deed d =>
      obtain ⟨single, rfl⟩ := h
      exact .deed c d single
    | snapshot screen sketches =>
      rcases h with ⟨s, refused, rfl⟩ | ⟨id, s, accepted, rfl⟩
      · exact .refuse c screen s refused
      · exact .accept c screen sketches id s accepted
    | ask place copy =>
      obtain ⟨before, walk, after, rest, walks, -, copies, rfl⟩ := h
      exact .ask c before after walk copy rest walks copies
    | answer copy result =>
      obtain ⟨index, held, rfl⟩ := h
      exact .answer c index copy result held
    | encode copy bitmap =>
      obtain ⟨index, copied, rfl⟩ := h
      exact .encode c index copy bitmap copied
    | release copy =>
      obtain ⟨before, after, releasing, rfl⟩ := h
      exact .release c before after copy releasing
    | attach place =>
      obtain ⟨before, walk, after, walks, -, copies, rfl⟩ := h
      exact .attach c before after walk walks copies
    | request =>
      obtain rfl : k = _ := h
      exact .request c
    | work =>
      obtain ⟨busy, s, hmoved, rfl⟩ := h
      exact .move c busy s (move_iff.mpr (.inl hmoved))
    | reply =>
      obtain ⟨hidle, ticket, answer, rfl⟩ := h
      have hmove := Step.move c none (c.station.reply ticket answer) (hidle ▸ .reply _ ticket answer)
      rw [← hidle] at hmove
      exact hmove
    | deliver =>
      obtain ⟨now, id, item, busy, head, ready, rfl⟩ := h
      exact .deliver c now id item busy head ready

/-- Some events happen one after the other. -/
def Course : Chronicle → List Event → Chronicle → Prop
  | c, [], k => k = c
  | c, e :: es, k => ∃ next, Happens e c next ∧ Course next es k

section Courses

variable {c k l : Chronicle} {e : Event} {es fs : List Event}

/-- A course is one part and then the other. -/
theorem course_append : Course c (es ++ fs) l ↔ ∃ k, Course c es k ∧ Course k fs l := by
  induction es generalizing c with
  | nil => simp [Course]
  | cons e es ih =>
    simp only [List.cons_append, Course, ih]
    constructor
    · rintro ⟨next, hnext, k, hk, hl⟩
      exact ⟨k, ⟨next, hnext, hk⟩, hl⟩
    · rintro ⟨k, ⟨next, hnext, hk⟩, hl⟩
      exact ⟨next, hnext, k, hk, hl⟩

/-- A course of one event is that event. -/
theorem course_singleton : Course c [e] k ↔ Happens e c k := by
  simp [Course]

/-- What holds before a course and is kept by each of its events holds after it. -/
theorem course_induction {P : List Event → Chronicle → Prop} (h : P [] c)
    (hstep : ∀ es e k l, Course c es k → P es k → Happens e k l → P (es ++ [e]) l)
    (hcourse : Course c es k) : P es k := by
  induction es using List.reverseRecOn generalizing k with
  | nil =>
    obtain rfl : k = c := hcourse
    exact h
  | append_singleton es e ih =>
    obtain ⟨next, hbefore, hlast⟩ := course_append.mp hcourse
    exact hstep es e next k hbefore (ih hbefore) (course_singleton.mp hlast)

/-- **Every run has a course.** -/
theorem reaches_iff_course : Reaches c k ↔ ∃ es, Course c es k := by
  constructor
  · intro h
    induction h with
    | refl => exact ⟨[], rfl⟩
    | tail _ hlast ih =>
      obtain ⟨es, hes⟩ := ih
      obtain ⟨e, he⟩ := step_iff_happens.mp hlast
      exact ⟨es ++ [e], course_append.mpr ⟨_, hes, course_singleton.mpr he⟩⟩
  · rintro ⟨es, hes⟩
    refine course_induction (P := fun _ k => Reaches c k) .refl ?_ hes
    intro _ e k l _ hrun he
    exact hrun.tail (step_iff_happens.mpr ⟨e, he⟩)

end Courses

/-! ## Slots -/

/-- The copies that were asked for and those that will be for snapshots that are being made. -/
def planned (c : Chronicle) : List Copy := c.requested ++ c.walks.flatMap Walk.copies

/-- No two copies have the same slot. -/
structure Distinct (c : Chronicle) : Prop where
  /-- The slots are told apart. -/
  nodup : (c.planned.map Copy.slot).Nodup
  /-- All of them were handed out. -/
  below : ∀ copy ∈ c.planned, copy.slot < c.station.output.gallery.next

namespace Distinct

variable {c k : Chronicle} {e : Event}

/-- Only the copies and the next slot matter. -/
theorem congr (h : c.Distinct) (hplanned : k.planned.Perm c.planned)
    (hnext : k.station.output.gallery.next = c.station.output.gallery.next) : k.Distinct where
  nodup := (hplanned.map Copy.slot).nodup_iff.mpr h.nodup
  below := by
    intro copy hcopy
    rw [hnext]
    exact h.below copy (hplanned.subset hcopy)

/-- What does nothing to the accounts takes no slot. -/
theorem idle (h : c.Distinct) (hidle : Idle c k) : k.Distinct := by
  refine h.congr ?_ (congrArg Gallery.next hidle.gallery)
  unfold planned
  rw [hidle.walks, hidle.requested]

/-- The slots of the copies for a snapshot are new and one after the other. -/
theorem accept (h : c.Distinct) {screen : ScreenInfo} (sketches : List (Node CopySource))
    {id : ItemId} {s : Station Output} (accepted : c.station.addSnapshot screen = (some id, s)) :
    (c.beginning id sketches s).Distinct := by
  obtain ⟨houtput, -⟩ := addSnapshot_frame accepted
  let next := s.output.gallery.next
  let copies := Recording.copies sketches next id
  have hold : ∀ copy ∈ c.planned, copy.slot < next := by
    intro copy hcopy
    simpa [next, houtput] using h.below copy hcopy
  have hle : next ≤ (Node.numberAll next sketches).2 := by
    rw [(Node.pictures_numberAll next sketches).2]
    exact Nat.le_add_right _ _
  have hstop : (c.beginning id sketches s).station.output.gallery.next
      = (Node.numberAll next sketches).2 := by
    change (s.output.gallery.extend ((Node.numberAll next sketches).2 - next)).next = _
    rw [Gallery.next_extend]
    exact Nat.add_sub_cancel' hle
  have hplanned : (c.beginning id sketches s).planned = c.planned ++ copies := by
    simp [planned, beginning, copies, next]
  have hslots : copies.map Copy.slot = List.range' next copies.length := by
    apply List.ext_getElem
    · simp
    · intro i _ _
      simp [copies, Recording.copies]
  constructor
  · rw [hplanned, List.map_append, hslots]
    refine List.nodup_append.mpr ⟨h.nodup, List.nodup_range' _, ?_⟩
    intro slot hslot other hother
    obtain ⟨copy, hcopy, rfl⟩ := List.mem_map.mp hslot
    exact Nat.ne_of_lt (Nat.lt_of_lt_of_le (hold copy hcopy) (List.mem_range'_1.mp hother).1)
  · intro copy hcopy
    rw [hstop]
    rw [hplanned] at hcopy
    rcases List.mem_append.mp hcopy with hcopy | hcopy
    · exact Nat.lt_of_lt_of_le (hold copy hcopy) hle
    · exact (Recording.slot_of_copies hcopy).2.2

/-- Every event tells the slots apart. -/
theorem happens (h : c.Distinct) (he : Happens e c k) : k.Distinct := by
  cases e with
  | deed d =>
    obtain ⟨single, rfl⟩ := he
    exact h.idle (c.idle_doing single)
  | snapshot screen sketches =>
    rcases he with ⟨s, refused, rfl⟩ | ⟨id, s, accepted, rfl⟩
    · exact h.idle (idle_refuse refused)
    · exact h.accept sketches accepted
  | ask place copy =>
    obtain ⟨before, walk, after, rest, walks, -, copies, rfl⟩ := he
    obtain ⟨-, -, houtput, hwalks, -, hrequested, -⟩ :=
      c.asking_frame copy (before ++ { walk with copies := rest } :: after)
    refine h.congr ?_ (congrArg (·.gallery.next) houtput)
    unfold planned
    rw [hwalks, hrequested, walks]
    simp only [List.flatMap_append, List.flatMap_cons, copies, List.append_assoc, List.cons_append,
      List.nil_append]
    exact List.perm_middle.symm.append_left c.requested
  | answer copy result =>
    obtain ⟨index, held, rfl⟩ := he
    obtain ⟨-, -, houtput, hwalks, -, hrequested, -⟩ := c.answering_frame result held
    refine h.congr ?_ (congrArg (·.gallery.next) houtput)
    unfold planned
    rw [hwalks, hrequested]
  | encode copy bitmap =>
    obtain ⟨index, copied, rfl⟩ := he
    obtain ⟨-, -, -, hnext, -, hwalks, -, hrequested, -⟩ := c.encoding_frame copied
    refine h.congr ?_ hnext
    unfold planned
    rw [hwalks, hrequested]
  | release copy =>
    obtain ⟨before, after, releasing, rfl⟩ := he
    obtain ⟨-, -, houtput⟩ := c.freeing_frame releasing
    exact h.congr (.refl _) (congrArg (·.gallery.next) houtput)
  | attach place =>
    obtain ⟨before, walk, after, walks, -, copies, rfl⟩ := he
    refine h.congr ?_ rfl
    unfold planned
    rw [walks]
    simp [attaching, withStation, copies]
  | request =>
    obtain rfl : k = _ := he
    exact h.idle c.idle_request
  | work =>
    obtain ⟨busy, s, hmoved, rfl⟩ := he
    exact h.idle (idle_move (move_iff.mpr (.inl hmoved)))
  | reply =>
    obtain ⟨-, ticket, answer, rfl⟩ := he
    exact h.congr (.refl _) rfl
  | deliver =>
    obtain ⟨now, id, item, -, -, -, rfl⟩ := he
    exact h.idle (c.idle_delivering id item)

/-- **No two copies have the same slot**, after any course. -/
theorem of_course {settings : Settings} {es : List Event} (hcourse : Course (start settings) es c) :
    c.Distinct := by
  have hstart : (start settings).Distinct := ⟨by simp [planned, start], by simp [planned, start]⟩
  exact course_induction (P := fun _ k => k.Distinct) hstart
    (fun _ _ _ _ _ h he => h.happens he) hcourse

end Distinct

end Chronicle

end SessionReplay
