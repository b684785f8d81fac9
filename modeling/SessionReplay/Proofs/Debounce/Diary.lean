import Mathlib.Data.List.Pairwise
import Mathlib.Logic.Relation
import SessionReplay.Debounce.Run

/-!
# The diary of a debouncer

A request can wait for its timer or, once that has fired, for the thread that is to run it; all the
while it can be replaced, cancelled, or overtaken by a request that is answered at once, and timers
and tasks of requests that are long gone can still be around. A `Diary` is a run of a debouncer with a
number for each request and a list of what happened: which tasks were requested and run, and when
everything was cancelled.

The invariant is `Told`: if a request is live, nothing has happened since it was made. So a task is run
right after its request (`Told.runTask`), and whatever happens first after a request other than that
ends it for good (`latest_request_wins`). The steps of a diary are finer than what a debouncer's run
does by itself, which is some of them: timers that fire (`reaches_expire`), tasks that are run
(`reaches_runPosted`), and the passing of time (`reaches_advance`). All of these are `Dutiful`: no
timer of a request that is live gets lost.
-/

namespace SessionReplay

/-- Something that happens to a debouncer. -/
inductive DebounceEvent (τ : Type) where
  /-- A task is requested. -/
  | requested (id : Nat) (link : τ)
  /-- The task of a request is run. -/
  | ran (id : Nat) (link : τ)
  /-- The request that waits is cancelled, if there is one. -/
  | cancelled

namespace DebounceEvent

variable {τ : Type}

/-- The request that was made. -/
def requested? : DebounceEvent τ → Option Nat
  | .requested id _ => some id
  | _ => none

/-- The request whose task was run, with the task. -/
def ran? : DebounceEvent τ → Option (Nat × τ)
  | .ran id link => some (id, link)
  | _ => none

end DebounceEvent

/-- **Everything that a request can do, and when.** If the burst that it belongs to has lasted long
enough, it is answered at once and ends the burst; if not, it waits for the quiet time. -/
theorem Debouncer.request_eq (d : Debouncer) (now : Nat) :
    (d.patience ≤ now - d.burstStart.getD now ∧
      d.request now = (.now, { d with burstStart := none, live := none })) ∨
    (now - d.burstStart.getD now < d.patience ∧
      d.request now = (.wait d.issued (now + d.quiet),
        { d with
          burstStart := some (d.burstStart.getD now)
          live := some d.issued
          issued := d.issued + 1 })) := by
  unfold request
  dsimp only
  by_cases hlong : d.patience ≤ now - d.burstStart.getD now
  · exact .inl ⟨hlong, if_pos hlong⟩
  · exact .inr ⟨Nat.lt_of_not_le hlong, if_neg hlong⟩

/-- A request is answered at once, and then none waits; or it waits, with a ticket that was never
issued before. -/
theorem Debouncer.request_cases (d : Debouncer) (now : Nat) :
    (∃ x, d.request now = (.now, x) ∧ x.live = none ∧ x.issued = d.issued) ∨
    ∃ deadline x, d.request now = (.wait d.issued deadline, x) ∧ x.live = some d.issued ∧
      x.issued = d.issued + 1 := by
  rcases d.request_eq now with ⟨-, h⟩ | ⟨-, h⟩
  · exact .inl ⟨_, h, rfl, rfl⟩
  · exact .inr ⟨_, _, h, rfl, rfl⟩

namespace Agenda

variable {α : Type} (a : Agenda α)

/-- The tasks that are still around, live or not. -/
def tasks : List α := a.timers.map Timer.task ++ a.posted

/-- A timer that is started joins the others. -/
theorem start_timers_perm (deadline : Nat) (task : α) :
    (a.start deadline task).timers.Perm (⟨deadline, task⟩ :: a.timers) := by
  have hsplit := a.timers.takeWhile_append_dropWhile (p := fun t => t.deadline ≤ deadline)
  unfold start
  refine List.perm_middle.trans ?_
  rw [hsplit]

/-- With a timer comes its task. -/
theorem tasks_start_perm (deadline : Nat) (task : α) :
    (a.start deadline task).tasks.Perm (task :: a.tasks) :=
  ((a.start_timers_perm deadline task).map Timer.task).append_right a.posted

/-- A task that is around once a timer was started was around before, or it is the timer's. -/
theorem mem_tasks_start {deadline : Nat} {task other : α}
    (h : other ∈ (a.start deadline task).tasks) : other = task ∨ other ∈ a.tasks :=
  List.mem_cons.mp ((a.tasks_start_perm deadline task).mem_iff.mp h)

/-- A timer that is taken away leaves the others. -/
theorem mem_timers {before after : List (Timer α)} {timer : Timer α}
    (h : a.timers = before ++ timer :: after) :
    timer ∈ a.timers ∧ before ++ after ⊆ a.timers := by
  rw [h]
  refine ⟨List.mem_append_right _ List.mem_cons_self, ?_⟩
  exact ((List.Sublist.refl before).append (List.sublist_cons_self timer after)).subset

/-- So it leaves the other tasks. -/
theorem tasks_timers {before after : List (Timer α)} {timer : Timer α}
    (h : a.timers = before ++ timer :: after) :
    timer.task ∈ a.tasks ∧ ({ a with timers := before ++ after } : Agenda α).tasks ⊆ a.tasks := by
  obtain ⟨hmem, hsub⟩ := a.mem_timers h
  refine ⟨List.mem_append_left _ (List.mem_map_of_mem hmem), ?_⟩
  refine List.append_subset.mpr ⟨fun _ hother => ?_, List.subset_append_right _ _⟩
  exact List.mem_append_left _ (List.map_subset _ hsub hother)

/-- A task that is posted leaves the timers alone. -/
theorem post_timers (timers : List (Timer α)) (task : α) :
    post { a with timers := timers } task = { a.post task with timers := timers } := by
  obtain ⟨now, mode, timers', posted⟩ := a
  cases mode <;> rfl

/-- Posting a task leaves the timers alone. -/
@[simp] theorem timers_post (task : α) : (a.post task).timers = a.timers := by
  unfold post
  split <;> rfl

/-- It takes no time. -/
theorem now_post (task : α) : (a.post task).now = a.now := by
  unfold post
  split <;> rfl

/-- A task that waits has been posted now or before. -/
theorem mem_posted_post {task other : α} (h : other ∈ (a.post task).posted) :
    other = task ∨ other ∈ a.posted := by
  unfold post at h
  split at h
  · exact .inr h
  · exact (List.mem_append.mp h).symm.imp_left List.mem_singleton.mp

/-- A task that is posted is around if it was before. -/
theorem mem_tasks_post {task other : α} (h : other ∈ (a.post task).tasks) :
    other = task ∨ other ∈ a.tasks := by
  rcases List.mem_append.mp h with h | h
  · rw [timers_post] at h
    exact .inr (List.mem_append_left _ h)
  · exact (a.mem_posted_post h).imp_right (List.mem_append_right _)

/-- A task that waits can be taken away. -/
theorem tasks_posted {task : α} {rest : List α} (h : a.posted = task :: rest) :
    task ∈ a.tasks ∧ ({ a with posted := rest } : Agenda α).tasks ⊆ a.tasks := by
  unfold tasks
  rw [h]
  refine ⟨List.mem_append_right _ List.mem_cons_self, ?_⟩
  exact List.append_subset.mpr ⟨List.subset_append_left _ _,
    fun _ hmem => List.mem_append_right _ (List.mem_cons_of_mem _ hmem)⟩

end Agenda

/-- A run of a debouncer with what happened to it. -/
structure Diary (τ : Type) where
  /-- The run. -/
  run : DebounceRun τ
  /-- What happened, in order. -/
  events : List (DebounceEvent τ) := []
  /-- How many requests were made. -/
  made : Nat := 0
  /-- The requests that waited, by their tickets. -/
  owners : List Nat := []

namespace Diary

variable {τ : Type}

/-- A diary of a debouncer that nothing has happened to. -/
def start (quiet patience now : Nat) (mode : PostMode) : Diary τ where
  run :=
    { debouncer := { quiet := quiet, patience := patience }
      agenda := { now := now, mode := mode } }

/-- Requests a chain. -/
def request (d : Diary τ) : List τ → Diary τ
  | [] => d
  | link :: rest =>
    match d.run.debouncer.request d.run.agenda.now with
    | (.now, x) =>
      request
        { d with
          run := { d.run with debouncer := x, ran := d.run.ran ++ [(link, d.run.agenda.now)] }
          events := d.events ++ [.requested d.made link, .ran d.made link]
          made := d.made + 1 } rest
    | (.wait ticket deadline, x) =>
      { run :=
          { d.run with debouncer := x, agenda := d.run.agenda.start deadline (ticket, link :: rest) }
        events := d.events ++ [.requested d.made link]
        made := d.made + 1
        owners := d.owners ++ [d.made] }

/-- Cancels the request that waits. -/
def cancel (d : Diary τ) : Diary τ :=
  { d with run := d.run.cancel, events := d.events ++ [.cancelled] }

/-- Runs a posted task, unless its request has been replaced or cancelled meanwhile. -/
def runTask (d : Diary τ) (task : Nat × List τ) : Diary τ :=
  if d.run.debouncer.isLive task.1 then
    let r := { d.run with debouncer := d.run.debouncer.complete }
    match task.2 with
    | [] => { d with run := r }
    | link :: rest =>
      request
        { d with
          run := { r with ran := r.ran ++ [(link, r.agenda.now)] }
          events := d.events ++ [.ran (d.owners.getD task.1 0) link] } rest
  else d

/-- The diary with another agenda. -/
def withAgenda (d : Diary τ) (agenda : Agenda (Nat × List τ)) : Diary τ :=
  { d with run := { d.run with agenda := agenda } }

/-- A diary is kept of requests as they are. -/
theorem run_request (d : Diary τ) (chain : List τ) : (d.request chain).run = d.run.request chain := by
  induction chain generalizing d with
  | nil => rfl
  | cons link rest ih =>
    unfold request DebounceRun.request
    rcases d.run.debouncer.request_cases d.run.agenda.now with ⟨x, h, -⟩ | ⟨deadline, x, h, -⟩ <;>
      rw [h]
    exact ih _

/-- And of tasks as they are. -/
theorem run_runTask (d : Diary τ) (task : Nat × List τ) :
    (d.runTask task).run = d.run.runTask task := by
  obtain ⟨ticket, chain⟩ := task
  unfold runTask DebounceRun.runTask
  split
  · cases chain with
    | nil => rfl
    | cons link rest => exact run_request _ rest
  · rfl

/-! ## Ways to take a request -/

section Ways

variable (d : Diary τ) (link : τ) (rest : List τ)

/-- A request is answered at once. -/
def answer : Diary τ :=
  { d with
    run :=
      { d.run with
        debouncer := { d.run.debouncer with burstStart := none, live := none }
        ran := d.run.ran ++ [(link, d.run.agenda.now)] }
    events := d.events ++ [.requested d.made link, .ran d.made link]
    made := d.made + 1 }

/-- A request waits, with what is to be requested after it. -/
def defer : Diary τ :=
  let x := d.run.debouncer
  let now := d.run.agenda.now
  { run :=
      { d.run with
        debouncer :=
          { x with
            burstStart := some (x.burstStart.getD now)
            live := some x.issued
            issued := x.issued + 1 }
        agenda := d.run.agenda.start (now + x.quiet) (x.issued, link :: rest) }
    events := d.events ++ [.requested d.made link]
    made := d.made + 1
    owners := d.owners ++ [d.made] }

/-- A request that has waited is answered. -/
def complete (ticket : Nat) : Diary τ :=
  { d with
    run :=
      { d.run with
        debouncer := d.run.debouncer.complete
        ran := d.run.ran ++ [(link, d.run.agenda.now)] }
    events := d.events ++ [.ran (d.owners.getD ticket 0) link] }

/-- **The first link of a chain is answered at once**, if its burst has lasted long enough, and then
the rest is requested; or it waits with the rest. -/
theorem request_cons_cases :
    (d.run.debouncer.patience ≤ d.run.agenda.now - d.run.debouncer.burstStart.getD d.run.agenda.now ∧
      d.request (link :: rest) = (d.answer link).request rest) ∨
    (d.run.agenda.now - d.run.debouncer.burstStart.getD d.run.agenda.now < d.run.debouncer.patience ∧
      d.request (link :: rest) = d.defer link rest) := by
  rcases d.run.debouncer.request_eq d.run.agenda.now with ⟨hlong, h⟩ | ⟨hshort, h⟩
  · refine .inl ⟨hlong, ?_⟩
    rw [request, h]
    rfl
  · refine .inr ⟨hshort, ?_⟩
    rw [request, h]
    rfl

/-- A task that is live is run, and then the requests are made that follow it. -/
theorem runTask_of_live {ticket : Nat} (hlive : d.run.debouncer.live = some ticket) :
    d.runTask (ticket, link :: rest) = (d.complete link ticket).request rest := by
  have hlive : d.run.debouncer.isLive ticket = true := beq_iff_eq.mpr hlive
  exact if_pos hlive

/-- A task that is not live is not run. -/
theorem runTask_of_dead {ticket : Nat} (chain : List τ)
    (hdead : d.run.debouncer.live ≠ some ticket) : d.runTask (ticket, chain) = d :=
  if_neg fun hlive => hdead (beq_iff_eq.mp hlive)

/-- A request that is answered at once is followed by its run. -/
theorem events_answer :
    (d.answer link).events = d.events ++ [.requested d.made link, .ran d.made link] := rfl

/-- Then its link was run last. -/
theorem ran_answer : (d.answer link).run.ran = d.run.ran ++ [(link, d.run.agenda.now)] := rfl

/-- A request that waits is all that happens. -/
theorem events_defer : (d.defer link rest).events = d.events ++ [.requested d.made link] := rfl

/-- A task that is run is entered for the request that its ticket was given to. -/
theorem events_complete (ticket : Nat) :
    (d.complete link ticket).events = d.events ++ [.ran (d.owners.getD ticket 0) link] := rfl

/-- Then its link was run last. -/
theorem ran_complete (ticket : Nat) :
    (d.complete link ticket).run.ran = d.run.ran ++ [(link, d.run.agenda.now)] := rfl

end Ways

/-- One thing that happens to a debouncer. -/
inductive Step : Diary τ → Diary τ → Prop
  /-- A chain is requested. -/
  | request (d : Diary τ) (chain : List τ) : Step d (d.request chain)
  /-- The request that waits is cancelled. -/
  | cancel (d : Diary τ) : Step d d.cancel
  /-- Time passes. -/
  | elapse (d : Diary τ) (nanos : Nat) : Step d (d.withAgenda (d.run.agenda.elapse nanos))
  /-- A timer that is due posts its task. -/
  | fire (d : Diary τ) (before after : List (Timer (Nat × List τ))) (timer : Timer (Nat × List τ))
      (timers : d.run.agenda.timers = before ++ timer :: after)
      (due : d.run.agenda.isDue timer = true) :
    Step d (d.withAgenda
      (Agenda.post { d.run.agenda with timers := before ++ after } timer.task))
  /-- A timer ends and posts nothing. -/
  | lapse (d : Diary τ) (before after : List (Timer (Nat × List τ))) (timer : Timer (Nat × List τ))
      (timers : d.run.agenda.timers = before ++ timer :: after) :
    Step d (d.withAgenda { d.run.agenda with timers := before ++ after })
  /-- The thread runs the first task that waits. -/
  | run (d : Diary τ) (task : Nat × List τ) (rest : List (Nat × List τ))
      (posted : d.run.agenda.posted = task :: rest) :
    Step d ((d.withAgenda { d.run.agenda with posted := rest }).runTask task)

/-- What can have become of a diary after some steps. -/
abbrev Reaches : Diary τ → Diary τ → Prop := Relation.ReflTransGen Step

/-- One thing that happens to a debouncer whose timers do their duty: only a timer of a request that
is not live any more ends without posting its task. -/
inductive Dutiful : Diary τ → Diary τ → Prop
  /-- A chain is requested. -/
  | request (d : Diary τ) (chain : List τ) : Dutiful d (d.request chain)
  /-- The request that waits is cancelled. -/
  | cancel (d : Diary τ) : Dutiful d d.cancel
  /-- Time passes. -/
  | elapse (d : Diary τ) (nanos : Nat) : Dutiful d (d.withAgenda (d.run.agenda.elapse nanos))
  /-- A timer that is due posts its task. -/
  | fire (d : Diary τ) (before after : List (Timer (Nat × List τ))) (timer : Timer (Nat × List τ))
      (timers : d.run.agenda.timers = before ++ timer :: after)
      (due : d.run.agenda.isDue timer = true) :
    Dutiful d (d.withAgenda
      (Agenda.post { d.run.agenda with timers := before ++ after } timer.task))
  /-- A timer of a request that is not live ends and posts nothing. -/
  | lapse (d : Diary τ) (before after : List (Timer (Nat × List τ))) (timer : Timer (Nat × List τ))
      (timers : d.run.agenda.timers = before ++ timer :: after)
      (dead : d.run.debouncer.isLive timer.task.1 = false) :
    Dutiful d (d.withAgenda { d.run.agenda with timers := before ++ after })
  /-- The thread runs the first task that waits. -/
  | run (d : Diary τ) (task : Nat × List τ) (rest : List (Nat × List τ))
      (posted : d.run.agenda.posted = task :: rest) :
    Dutiful d ((d.withAgenda { d.run.agenda with posted := rest }).runTask task)

/-- This is among what can happen to any debouncer. -/
theorem Dutiful.step {d d' : Diary τ} (h : Dutiful d d') : Step d d' := by
  cases h with
  | request chain => exact .request d chain
  | cancel => exact .cancel d
  | elapse nanos => exact .elapse d nanos
  | fire before after timer timers due => exact .fire d before after timer timers due
  | lapse before after timer timers dead => exact .lapse d before after timer timers
  | run task rest posted => exact .run d task rest posted

/-- What can have become of a diary after some steps in which timers do their duty. -/
abbrev ReachesDutifully : Diary τ → Diary τ → Prop := Relation.ReflTransGen Dutiful

/-! ## What a diary tells -/

/-- In a list of events, each run comes right after its request. -/
def Prompt (events : List (DebounceEvent τ)) : Prop :=
  ∀ before after id link, events = before ++ .ran id link :: after →
    ∃ earlier, before = earlier ++ [.requested id link]

/-- Events other than runs can come at any time. -/
theorem Prompt.append {events : List (DebounceEvent τ)} (h : Prompt events) {e : DebounceEvent τ}
    (he : ∀ id link, e = .ran id link → ∃ earlier, events = earlier ++ [.requested id link]) :
    Prompt (events ++ [e]) := by
  intro before after id link heq
  rcases List.eq_nil_or_concat after with rfl | ⟨after', last, rfl⟩
  · obtain ⟨rfl, hlast⟩ := List.append_inj' heq rfl
    exact he id link (List.singleton_inj.mp hlast)
  · rw [List.concat_eq_append, ← List.cons_append, ← List.append_assoc] at heq
    exact h before after' id link (List.append_inj_left' heq rfl)

/-- What a diary tells is right, and if a request is live, it is the last thing that happened. -/
structure Told (d : Diary τ) : Prop where
  /-- Requests are numbered in the order in which they were made. -/
  numbered : d.events.filterMap DebounceEvent.requested? = List.range d.made
  /-- The runs are those of the debouncer. -/
  ran : (d.events.filterMap DebounceEvent.ran?).map Prod.snd = d.run.ran.map Prod.fst
  /-- Each run came right after its request. -/
  prompt : Prompt d.events
  /-- It is known who has which ticket. -/
  owned : d.owners.length = d.run.debouncer.issued
  /-- Tasks that are around have a ticket. -/
  ticketed : ∀ task ∈ d.run.agenda.tasks, task.1 < d.run.debouncer.issued
  /-- A request that is live is the last thing that happened, and its task is the one that was
  requested. -/
  live : ∀ ticket, d.run.debouncer.live = some ticket →
    ∃ earlier link, d.events = earlier ++ [.requested (d.owners.getD ticket 0) link] ∧
      ∀ task ∈ d.run.agenda.tasks, task.1 = ticket → ∃ rest, task.2 = link :: rest

/-- Nothing is told at the beginning. -/
theorem told_start (quiet patience now : Nat) (mode : PostMode) :
    (start quiet patience now mode : Diary τ).Told where
  numbered := rfl
  ran := rfl
  prompt before _ _ _ h := by
    cases before <;> cases h
  owned := rfl
  ticketed _ hmem := (List.not_mem_nil hmem).elim
  live := nofun

namespace Told

variable {d : Diary τ}

/-- Where tasks only go away, everything told is right. -/
theorem withAgenda (h : d.Told) {agenda : Agenda (Nat × List τ)}
    (hsub : agenda.tasks ⊆ d.run.agenda.tasks) : (d.withAgenda agenda).Told where
  numbered := h.numbered
  ran := h.ran
  prompt := h.prompt
  owned := h.owned
  ticketed task hmem := h.ticketed task (hsub hmem)
  live ticket hlive := by
    obtain ⟨earlier, link, hlast, htask⟩ := h.live ticket hlive
    exact ⟨earlier, link, hlast, fun task hmem => htask task (hsub hmem)⟩

/-- A request that is answered at once is followed by its run, and no request is live then. -/
theorem answer (h : d.Told) (link : τ) : (d.answer link).Told := by
  have hrequested : Prompt (d.events ++ [.requested d.made link]) := h.prompt.append nofun
  refine ⟨?numbered, ?ran, ?prompt, h.owned, h.ticketed, nofun⟩
  case numbered =>
    rw [events_answer, List.filterMap_append, h.numbered]
    exact List.range_succ.symm
  case ran =>
    rw [events_answer, ran_answer, List.filterMap_append, List.map_append, List.map_append, h.ran]
    rfl
  case prompt =>
    rw [events_answer, show d.events ++ [.requested d.made link, .ran d.made link]
      = d.events ++ [.requested d.made link] ++ [.ran d.made link] by simp]
    refine hrequested.append ?_
    rintro _ _ ⟨⟩
    exact ⟨d.events, rfl⟩

/-- A request that waits is live and the last thing that happened: no other task that is around has its
ticket. -/
theorem defer (h : d.Told) (link : τ) (rest : List τ) : (d.defer link rest).Told := by
  refine ⟨?numbered, ?ran, h.prompt.append nofun, ?owned, ?ticketed, ?live⟩
  case numbered =>
    rw [events_defer, List.filterMap_append, h.numbered]
    exact List.range_succ.symm
  case ran =>
    rw [events_defer, List.filterMap_append, List.map_append, h.ran]
    exact List.append_nil _
  case owned =>
    change (d.owners ++ [d.made]).length = d.run.debouncer.issued + 1
    rw [List.length_append, h.owned]
    rfl
  case ticketed =>
    intro task hmem
    rcases Agenda.mem_tasks_start _ hmem with rfl | hmem
    · exact Nat.lt_succ_self _
    · exact Nat.lt_succ_of_lt (h.ticketed task hmem)
  case live =>
    rintro _ ⟨⟩
    refine ⟨d.events, link, ?_, fun task hmem hticket => ?_⟩
    · change _ = d.events ++ [.requested ((d.owners ++ [d.made]).getD d.run.debouncer.issued 0) link]
      rw [← h.owned, List.getD_eq_getElem?_getD, List.getElem?_concat_length]
      rfl
    · rcases Agenda.mem_tasks_start _ hmem with rfl | hmem
      · exact ⟨rest, rfl⟩
      · exact absurd hticket (Nat.ne_of_lt (h.ticketed task hmem))

/-- No task that was around before has the ticket of a request that waits. -/
theorem dead_of_defer (h : d.Told) (link : τ) (rest : List τ) {task : Nat × List τ}
    (hmem : task ∈ d.run.agenda.tasks) :
    (d.defer link rest).run.debouncer.isLive task.1 = false := by
  have hlt := h.ticketed task hmem
  exact beq_false_of_ne fun heq => Nat.ne_of_gt hlt (Option.some.inj heq)

/-- **A request keeps what is told right**, one link of the chain after the other. -/
theorem request (h : d.Told) (chain : List τ) : (d.request chain).Told := by
  induction chain generalizing d with
  | nil => exact h
  | cons link rest ih =>
    rcases d.request_cons_cases link rest with ⟨-, heq⟩ | ⟨-, heq⟩ <;> rw [heq]
    · exact ih (h.answer link)
    · exact h.defer link rest

/-- Cancelling keeps what is told right. -/
theorem cancel (h : d.Told) : d.cancel.Told where
  numbered := by
    unfold Diary.cancel
    dsimp only
    rw [List.filterMap_append, h.numbered]
    exact List.append_nil _
  ran := by
    unfold Diary.cancel
    dsimp only
    rw [List.filterMap_append, List.map_append, h.ran]
    exact List.append_nil _
  prompt := h.prompt.append nofun
  owned := h.owned
  ticketed := h.ticketed
  live := nofun

/-- The task of the last request can be run. -/
theorem complete (h : d.Told) {ticket : Nat} {link : τ}
    (hlast : ∃ earlier, d.events = earlier ++ [.requested (d.owners.getD ticket 0) link]) :
    (d.complete link ticket).Told := by
  refine ⟨?numbered, ?ran, ?prompt, h.owned, h.ticketed, nofun⟩
  case numbered =>
    rw [events_complete, List.filterMap_append, h.numbered]
    exact List.append_nil _
  case ran =>
    rw [events_complete, ran_complete, List.filterMap_append, List.map_append, List.map_append,
      h.ran]
    rfl
  case prompt =>
    refine h.prompt.append ?_
    rintro _ _ ⟨⟩
    exact hlast

/-- **A task is run right after its request**, if it is the task of the request that is live. -/
theorem runTask (h : d.Told) {task : Nat × List τ}
    (htask : d.run.debouncer.live = some task.1 → ∃ earlier link rest, task.2 = link :: rest ∧
      d.events = earlier ++ [.requested (d.owners.getD task.1 0) link]) : (d.runTask task).Told := by
  obtain ⟨ticket, chain⟩ := task
  by_cases hlive : d.run.debouncer.live = some ticket
  · obtain ⟨earlier, link, rest, rfl, hlast⟩ := htask hlive
    rw [d.runTask_of_live link rest hlive]
    exact (h.complete ⟨earlier, hlast⟩).request rest
  · rw [d.runTask_of_dead chain hlive]
    exact h

/-- **Every step keeps what is told right.** -/
theorem step (h : d.Told) {d' : Diary τ} (hstep : Step d d') : d'.Told := by
  cases hstep with
  | request chain => exact h.request chain
  | cancel => exact h.cancel
  | elapse nanos => exact h.withAgenda (List.Subset.refl _)
  | fire before after timer timers due =>
    obtain ⟨hmem, hsub⟩ := d.run.agenda.tasks_timers timers
    refine h.withAgenda fun task hposted => ?_
    rcases Agenda.mem_tasks_post _ hposted with rfl | hother
    · exact hmem
    · exact hsub hother
  | lapse before after timer timers => exact h.withAgenda (d.run.agenda.tasks_timers timers).2
  | run task rest posted =>
    obtain ⟨hmem, hsub⟩ := d.run.agenda.tasks_posted posted
    refine (h.withAgenda hsub).runTask fun hlive => ?_
    obtain ⟨earlier, link, hlast, hchain⟩ := h.live task.1 hlive
    obtain ⟨rest, hrest⟩ := hchain task hmem rfl
    exact ⟨earlier, link, rest, hrest, hlast⟩

/-- What a diary tells is right after any run. -/
theorem of_reaches {quiet patience now : Nat} {mode : PostMode}
    (hrun : Reaches (start quiet patience now mode) d) : d.Told := by
  induction hrun with
  | refl => exact told_start quiet patience now mode
  | tail _ hstep ih => exact ih.step hstep

end Told

/-! ## What a run does by itself -/

/-- Timers at the front that are due can fire, and those of requests that are not live post nothing. -/
theorem reaches_fire (due rest : List (Timer (Nat × List τ))) {d : Diary τ}
    (htimers : d.run.agenda.timers = due ++ rest)
    (hdue : ∀ timer ∈ due, d.run.agenda.isDue timer = true) :
    ReachesDutifully d (d.withAgenda ((due.filter fun t => d.run.debouncer.isLive t.task.1).foldl
      (fun a t => a.post t.task) { d.run.agenda with timers := rest })) := by
  induction due generalizing d with
  | nil =>
    have hsame : d.withAgenda { d.run.agenda with timers := rest } = d := by
      rw [← List.nil_append rest, ← htimers]
      rfl
    rw [List.filter_nil, List.foldl_nil, hsame]
  | cons timer due ih =>
    have hrest : ∀ t ∈ due, d.run.agenda.isDue t = true :=
      fun t ht => hdue t (List.mem_cons_of_mem _ ht)
    cases hlive : d.run.debouncer.isLive timer.task.1 with
    | false =>
      rw [List.filter_cons_of_neg (by simp [hlive])]
      exact .head (.lapse d [] (due ++ rest) timer htimers hlive)
        (ih (d := d.withAgenda { d.run.agenda with timers := due ++ rest }) rfl hrest)
    | true =>
      rw [List.filter_cons_of_pos (by simp [hlive]), List.foldl_cons]
      have hfire := Dutiful.fire d [] (due ++ rest) timer htimers (hdue timer List.mem_cons_self)
      rw [List.nil_append, Agenda.post_timers] at hfire
      rw [Agenda.post_timers]
      refine .head hfire (ih (d := d.withAgenda
        { d.run.agenda.post timer.task with timers := due ++ rest }) rfl fun t ht => ?_)
      have hdue := hrest t ht
      unfold Agenda.isDue at hdue ⊢
      rw [← d.run.agenda.now_post timer.task] at hdue
      exact hdue

/-- The timers that are due can fire as they do in a run. -/
theorem reaches_expire (d : Diary τ) : ∃ d', ReachesDutifully d d' ∧ d'.run = d.run.expire := by
  refine ⟨_, reaches_fire _ _ List.takeWhile_append_dropWhile.symm fun t ht => ?_, rfl⟩
  exact List.all_eq_true.mp List.all_takeWhile t ht

end Diary

namespace DebounceRun

variable {τ : Type}

/-- The run with other tasks that wait. -/
def withPosted (r : DebounceRun τ) (posted : List (Nat × List τ)) : DebounceRun τ :=
  { r with agenda := { r.agenda with posted := posted } }

/-- A request is none of the business of tasks that wait. -/
theorem request_withPosted (r : DebounceRun τ) (posted : List (Nat × List τ)) (chain : List τ) :
    (r.withPosted posted).request chain = (r.request chain).withPosted posted := by
  induction chain generalizing r with
  | nil => rfl
  | cons link rest ih =>
    unfold request
    have hagain : (r.withPosted posted).debouncer.request (r.withPosted posted).agenda.now
        = r.debouncer.request r.agenda.now := rfl
    rw [hagain]
    rcases r.debouncer.request_cases r.agenda.now with ⟨x, h, -⟩ | ⟨deadline, x, h, -⟩ <;> rw [h]
    · exact ih { r with debouncer := x, ran := r.ran ++ [(link, r.agenda.now)] }
    · rfl

/-- Nor is running a task. -/
theorem runTask_withPosted (r : DebounceRun τ) (posted : List (Nat × List τ))
    (task : Nat × List τ) :
    (r.withPosted posted).runTask task = (r.runTask task).withPosted posted := by
  obtain ⟨ticket, chain⟩ := task
  unfold runTask
  change (if r.debouncer.isLive ticket then _ else _) = _
  split
  · cases chain with
    | nil => rfl
    | cons link rest =>
      exact request_withPosted { r with
        debouncer := r.debouncer.complete, ran := r.ran ++ [(link, r.agenda.now)] } posted rest
  · rfl

end DebounceRun

namespace Diary

variable {τ : Type}

/-- The thread can run the tasks that wait as it does in a run. -/
theorem reaches_runPosted (d : Diary τ) : ∃ d', ReachesDutifully d d' ∧ d'.run = d.run.runPosted := by
  suffices h : ∀ tasks (d : Diary τ), d.run.agenda.posted = tasks →
      ∃ d', ReachesDutifully d d' ∧ d'.run = tasks.foldl DebounceRun.runTask (d.run.withPosted []) from
    h _ d rfl
  intro tasks
  induction tasks with
  | nil =>
    intro d hposted
    refine ⟨d, .refl, ?_⟩
    rw [List.foldl_nil, ← hposted]
    rfl
  | cons task rest ih =>
    intro d hposted
    have hrun : ((d.withAgenda { d.run.agenda with posted := rest }).runTask task).run
        = (d.run.runTask task).withPosted rest := by
      rw [run_runTask]
      exact d.run.runTask_withPosted rest task
    obtain ⟨d', hreaches, hd'⟩ := ih _ (congrArg (·.agenda.posted) hrun)
    refine ⟨d', .head (.run d task rest hposted) hreaches, ?_⟩
    rw [hd', hrun, List.foldl_cons, DebounceRun.runTask_withPosted]
    rfl

/-- Everything that happens in a run without time passing can happen. -/
theorem reaches_settleFor (rounds : Nat) (d : Diary τ) :
    ∃ d', ReachesDutifully d d' ∧ d'.run = d.run.settleFor rounds := by
  induction rounds generalizing d with
  | zero => exact ⟨d, .refl, rfl⟩
  | succ rounds ih =>
    obtain ⟨e, hexpire, he⟩ := d.reaches_expire
    unfold DebounceRun.settleFor
    dsimp only
    rw [← he]
    split
    · obtain ⟨f, hposted, hf⟩ := e.reaches_runPosted
      obtain ⟨g, hsettle, hg⟩ := ih f
      exact ⟨g, (hexpire.trans hposted).trans hsettle, hf ▸ hg⟩
    · exact ⟨e, hexpire, rfl⟩

/-- **Time passes in a diary as it does in a run**, with everything that becomes possible. -/
theorem reaches_advance (d : Diary τ) (step n : Nat) :
    ∃ d', ReachesDutifully d d' ∧ d'.run = d.run.advance step n := by
  induction n generalizing d with
  | zero => exact ⟨d, .refl, rfl⟩
  | succ n ih =>
    let e := d.withAgenda (d.run.agenda.elapse step)
    obtain ⟨f, hsettle, hf⟩ := reaches_settleFor (e.run.outstanding + 1) e
    obtain ⟨g, hrest, hg⟩ := ih f
    refine ⟨g, (Relation.ReflTransGen.head (.elapse d step) hsettle).trans hrest, ?_⟩
    rw [hg, hf]
    rfl

/-! ## The latest request wins -/

namespace Prompt

variable {events before after : List (DebounceEvent τ)} {id : Nat} {link : τ}

/-- What came first was prompt before the rest came. -/
theorem of_append (h : Prompt (before ++ after)) : Prompt before := by
  rintro earlier later id link rfl
  exact h earlier (later ++ after) id link (by simp)

/-- Runs that come right after their requests are in the order of the requests. A run takes two events off the
end, its request being the one before it. -/
theorem sublist (h : Prompt events) : ((events.filterMap DebounceEvent.ran?).map Prod.fst).Sublist
    (events.filterMap DebounceEvent.requested?) := by
  induction hn : events.length using Nat.strongRecOn generalizing events with
  | _ n ih =>
    rcases List.eq_nil_or_concat events with rfl | ⟨earlier, e, rfl⟩
    · exact .refl _
    · rw [List.concat_eq_append] at h hn ⊢
      rw [List.length_append, List.length_singleton] at hn
      rw [List.filterMap_append, List.filterMap_append, List.map_append]
      cases e with
      | requested id link =>
        have hearlier := ih _ (by omega) h.of_append rfl
        exact hearlier.append (List.nil_sublist _)
      | cancelled => exact (ih _ (by omega) h.of_append rfl).append (.refl [])
      | ran id link =>
        obtain ⟨first, rfl⟩ := h earlier [] id link rfl
        rw [List.length_append, List.length_singleton] at hn
        have hfirst := ih _ (by omega) h.of_append.of_append rfl
        rw [List.filterMap_append, List.filterMap_append, List.map_append]
        change (_ ++ [] ++ [id]).Sublist (_ ++ [id] ++ [])
        rw [List.append_nil, List.append_nil]
        exact hfirst.append (.refl _)

/-- **What happens after a request ends it**: if requests are told apart, the task of a request is not
run later than right after it. -/
theorem not_mem_after (h : Prompt events)
    (hnodup : (events.filterMap DebounceEvent.requested?).Nodup) {e : DebounceEvent τ}
    (heq : events = before ++ e :: after) (hrequested : .requested id link ∈ before) (link' : τ) :
    .ran id link' ∉ after := by
  intro hran
  obtain ⟨between, rest, rfl⟩ := List.append_of_mem hran
  have hagain : events = (before ++ e :: between) ++ .ran id link' :: rest := by
    rw [heq, List.append_assoc, List.cons_append]
  obtain ⟨earlier, hearlier⟩ := h _ _ _ _ hagain
  have hlast : DebounceEvent.requested id link' ∈ e :: between := by
    have hgetLast := congrArg List.getLast? hearlier
    rw [List.getLast?_append, List.getLast?_concat, List.getLast?_cons] at hgetLast
    exact List.mem_of_getLast? (List.getLast?_cons.trans hgetLast)
  rw [hagain, List.filterMap_append, List.filterMap_append] at hnodup
  have hdisjoint := (List.nodup_append.mp (List.nodup_append.mp hnodup).1).2.2
  exact hdisjoint id (List.mem_filterMap.mpr ⟨_, hrequested, rfl⟩) id
    (List.mem_filterMap.mpr ⟨_, hlast, rfl⟩) rfl

end Prompt

/-- **The latest request wins, and a cancellation is final.** After any requests, cancellations, timers
and runs of posted tasks, in any order and with time passing in between:

* the tasks that the debouncer ran are those that the diary tells of, and its requests are numbered in
  the order in which they were made;
* each task was run right after its request, with nothing requested or cancelled in between;
* tasks were run in the order of their requests, each of them once at most;
* once something has happened after a request, be it another request, a run or a cancellation, the
  task of that request is not run any more. -/
theorem latest_request_wins {quiet patience now : Nat} {mode : PostMode} {d : Diary τ}
    (hrun : Reaches (start quiet patience now mode) d) :
    (d.run.ran.map Prod.fst = (d.events.filterMap DebounceEvent.ran?).map Prod.snd ∧
      d.events.filterMap DebounceEvent.requested? = List.range d.made) ∧
    (∀ before after id link, d.events = before ++ .ran id link :: after →
      ∃ earlier, before = earlier ++ [.requested id link]) ∧
    ((d.events.filterMap DebounceEvent.ran?).map Prod.fst).Pairwise (· < ·) ∧
    (∀ before e after id link link', d.events = before ++ e :: after →
      .requested id link ∈ before → .ran id link' ∉ after) := by
  have h := Told.of_reaches hrun
  refine ⟨⟨h.ran.symm, h.numbered⟩, h.prompt, ?ordered, ?final⟩
  case ordered =>
    have hsublist := h.prompt.sublist
    rw [h.numbered] at hsublist
    exact List.pairwise_lt_range.sublist hsublist
  case final =>
    intro before e after id link link' heq hrequested
    exact h.prompt.not_mem_after (h.numbered ▸ List.nodup_range) heq hrequested link'

/-- A request waits for the thread when it is replaced by another one; the thread runs the task of the
latter only, although it comes to that of the former first. -/
theorem latest_request_wins_posted :
    ∃ d : Diary String, Reaches (start 1 5 0 .queued) d ∧ d.run.ran = [("b", 2)] ∧
      d.events = [.requested 0 "a", .requested 1 "b", .ran 1 "b"] ∧
      ∀ link', .ran 0 link' ∉ [DebounceEvent.ran 1 "b"] := by
  have hfirst : Reaches (start 1 5 0 .queued) _ :=
    ((Relation.ReflTransGen.single (.request _ ["a"])).tail (.elapse _ 1)).tail
      (.fire _ [] [] ⟨1, 0, ["a"]⟩ rfl rfl)
  have hsecond : Reaches (start 1 5 0 .queued) _ :=
    ((hfirst.tail (.request _ ["b"])).tail (.elapse _ 1)).tail
      (.fire _ [] [] ⟨2, 1, ["b"]⟩ rfl rfl)
  have hrun : Reaches (start 1 5 0 .queued) _ :=
    (hsecond.tail (.run _ (0, ["a"]) [(1, ["b"])] rfl)).tail (.run _ (1, ["b"]) [] rfl)
  exact ⟨_, hrun, rfl, rfl,
    fun link' => (latest_request_wins hrun).2.2.2 [.requested 0 "a"] (.requested 1 "b") _ 0 "a" link'
      rfl List.mem_cons_self⟩

end Diary

end SessionReplay
