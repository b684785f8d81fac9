import SessionReplay.Proofs.Debounce.Almanac

/-!
# The request that waits

While a burst goes on, exactly one request is live, and its task is around exactly once: with a timer,
or posted. `Kept` is the invariant, on diaries whose timers do their duty and whose posted tasks are
not dropped. The request that is live is the last one, and so its timer ends when the almanac says
(`Almanac.Dated`); since the last request came before the patience was over, a burst has an end no
matter how densely its requests come (`Almanac.latest_request_waits`).

Timers stay ordered by their deadlines (`Agenda.Ordered`), and so those that are due stand in front and
all fire at once (`Agenda.Ordered.mem_posted_expire`).
-/

namespace SessionReplay

namespace Agenda

variable {α : Type} (a : Agenda α)

/-- Posting a task leaves the mode alone. -/
@[simp] theorem mode_post (task : α) : (a.post task).mode = a.mode := by
  unfold post
  split <;> rfl

/-- Unless posted tasks are dropped, a task that is posted waits behind the others. -/
theorem post_eq (hmode : a.mode ≠ .dropped) (task : α) :
    a.post task = { a with posted := a.posted ++ [task] } := by
  unfold post
  split
  · next h => exact absurd h hmode
  · rfl

/-- A timer that fires hands its task over. -/
theorem tasks_post_perm (hmode : a.mode ≠ .dropped) {before after : List (Timer α)}
    {timer : Timer α} (htimers : a.timers = before ++ timer :: after) :
    (post { a with timers := before ++ after } timer.task).tasks.Perm a.tasks := by
  have hpost := post_eq { a with timers := before ++ after } hmode timer.task
  unfold tasks
  rw [hpost, htimers]
  simp only [List.map_append, List.map_cons, List.append_assoc, List.cons_append]
  refine .append_left _ ?_
  simpa using (List.perm_append_singleton timer.task (after.map Timer.task ++ a.posted))

/-! ### The order of the timers -/

/-- Timers are ordered by their deadlines. -/
def Ordered : Prop := a.timers.Pairwise fun t t' => t.deadline ≤ t'.deadline

variable {a}

/-- The timers that are left once all up to some time are gone end later. -/
theorem Ordered.lt_of_mem_dropWhile (h : a.Ordered) {time : Nat} {timer : Timer α}
    (hmem : timer ∈ a.timers.dropWhile fun t => t.deadline ≤ time) : time < timer.deadline := by
  unfold Ordered at h
  generalize a.timers = timers at h hmem
  induction timers with
  | nil => simp at hmem
  | cons first rest ih =>
    obtain ⟨hfirst, hrest⟩ := List.pairwise_cons.mp h
    by_cases hle : first.deadline ≤ time
    · rw [List.dropWhile_cons_of_pos (by simpa using hle)] at hmem
      exact ih hrest hmem
    · rw [List.dropWhile_cons_of_neg (by simpa using hle)] at hmem
      rcases List.mem_cons.mp hmem with rfl | hmem
      · exact Nat.lt_of_not_le hle
      · exact (Nat.lt_of_not_le hle).trans_le (hfirst timer hmem)

/-- **A timer that is started keeps the order.** -/
theorem Ordered.start (h : a.Ordered) (deadline : Nat) (task : α) :
    (a.start deadline task).Ordered := by
  have hsplit := a.timers.takeWhile_append_dropWhile (p := fun t => t.deadline ≤ deadline)
  have hordered := h
  unfold Ordered at hordered
  rw [← hsplit] at hordered
  obtain ⟨hearlier, hlater, hacross⟩ := List.pairwise_append.mp hordered
  refine List.pairwise_append.mpr ⟨hearlier, List.pairwise_cons.mpr ⟨?_, hlater⟩, ?_⟩
  · intro timer hmem
    exact Nat.le_of_lt (h.lt_of_mem_dropWhile hmem)
  · intro timer hmem timer' hmem'
    rcases List.mem_cons.mp hmem' with rfl | hmem'
    · simpa using List.mem_takeWhile_imp hmem
    · exact hacross timer hmem timer' hmem'

/-- Timers that go leave the order. -/
theorem Ordered.of_sublist (h : a.Ordered) {b : Agenda α} (hsub : b.timers.Sublist a.timers) :
    b.Ordered :=
  List.Pairwise.sublist hsub h

/-! ### Timers that are due -/

/-- Tasks are posted behind those that wait, in the order of their timers. -/
theorem foldl_post (hmode : a.mode ≠ .dropped) (due : List (Timer α)) :
    due.foldl (fun a t => a.post t.task) a
      = { a with posted := a.posted ++ due.map Timer.task } := by
  induction due generalizing a with
  | nil => simp
  | cons timer due ih =>
    have hrest := ih (a := { a with posted := a.posted ++ [timer.task] }) hmode
    rw [List.foldl_cons, a.post_eq hmode, hrest]
    simp

/-- Unless posted tasks are dropped, the tasks of timers that are due and live wait behind the
others. -/
theorem expire_eq (hmode : a.mode ≠ .dropped) (isLive : α → Bool) :
    a.expire isLive = { a with
      timers := a.timers.dropWhile a.isDue
      posted := a.posted ++
        ((a.timers.takeWhile a.isDue).filter fun t => isLive t.task).map Timer.task } :=
  foldl_post (a := { a with timers := a.timers.dropWhile a.isDue }) hmode _

/-- Of the tasks that are live, none gets lost. -/
theorem filter_tasks_expire (hmode : a.mode ≠ .dropped) (isLive : α → Bool) :
    ((a.expire isLive).tasks.filter isLive).Perm (a.tasks.filter isLive) := by
  have hsplit := a.timers.takeWhile_append_dropWhile (p := a.isDue)
  have htasks : a.tasks = (a.timers.takeWhile a.isDue).map Timer.task ++
      ((a.timers.dropWhile a.isDue).map Timer.task ++ a.posted) := by
    rw [← List.append_assoc, ← List.map_append, hsplit]
    rfl
  rw [expire_eq hmode, htasks]
  unfold tasks
  simp only [List.filter_append, List.filter_map, List.filter_filter, Function.comp_def,
    Bool.and_self]
  rw [← List.append_assoc]
  exact List.perm_append_comm

/-- **The task of a timer that is due and live is posted.** -/
theorem Ordered.mem_posted_expire (h : a.Ordered) (hmode : a.mode ≠ .dropped)
    {isLive : α → Bool} {timer : Timer α} (hmem : timer ∈ a.timers)
    (hdue : a.isDue timer = true) (hlive : isLive timer.task = true) :
    timer.task ∈ (a.expire isLive).posted := by
  have hsplit := a.timers.takeWhile_append_dropWhile (p := a.isDue)
  rw [← hsplit] at hmem
  rcases List.mem_append.mp hmem with htaken | hleft
  · rw [expire_eq hmode]
    refine List.mem_append_right _ (List.mem_map_of_mem (List.mem_filter.mpr ⟨htaken, hlive⟩))
  · have hlater : a.now < timer.deadline := h.lt_of_mem_dropWhile hleft
    exact absurd (of_decide_eq_true hdue) (Nat.not_le_of_lt hlater)

end Agenda

namespace DebounceRun

variable {τ : Type}

/-- The tasks of the request that is live, wherever they are. -/
def waiting (r : DebounceRun τ) : List (Nat × List τ) :=
  r.agenda.tasks.filter fun task => r.debouncer.isLive task.1

/-- What is run stays run. -/
theorem ran_request (r : DebounceRun τ) (chain : List τ) :
    ∃ more, (r.request chain).ran = r.ran ++ more := by
  induction chain generalizing r with
  | nil => exact ⟨[], by simp [request]⟩
  | cons link rest ih =>
    unfold request
    rcases r.debouncer.request_cases r.agenda.now with ⟨x, h, -⟩ | ⟨deadline, x, h, -⟩ <;> rw [h]
    · obtain ⟨more, hmore⟩ :=
        ih { r with debouncer := x, ran := r.ran ++ [(link, r.agenda.now)] }
      exact ⟨(link, r.agenda.now) :: more, by simp [hmore]⟩
    · exact ⟨[], by simp⟩

/-- A request whose burst has lasted long enough is run at once. -/
theorem ran_request_of_le (r : DebounceRun τ)
    (hlong : r.debouncer.patience ≤ r.agenda.now - r.debouncer.burstStart.getD r.agenda.now)
    (link : τ) (rest : List τ) :
    ∃ more, (r.request (link :: rest)).ran = r.ran ++ (link, r.agenda.now) :: more := by
  rcases r.debouncer.request_eq r.agenda.now with ⟨-, h⟩ | ⟨hshort, -⟩
  · obtain ⟨more, hmore⟩ := ran_request { r with
      debouncer := { r.debouncer with burstStart := none, live := none }
      ran := r.ran ++ [(link, r.agenda.now)] } rest
    refine ⟨more, ?_⟩
    rw [request, h]
    simp [hmore]
  · exact absurd hlong (Nat.not_le_of_lt hshort)

/-- The task of a request that is live is run. -/
theorem ran_runTask_of_live (r : DebounceRun τ) {ticket : Nat}
    (hlive : r.debouncer.isLive ticket = true) (link : τ) (rest : List τ) :
    ∃ more, (r.runTask (ticket, link :: rest)).ran = r.ran ++ (link, r.agenda.now) :: more := by
  unfold runTask
  rw [if_pos hlive]
  obtain ⟨more, hmore⟩ := ran_request { r with
    debouncer := r.debouncer.complete, ran := r.ran ++ [(link, r.agenda.now)] } rest
  exact ⟨more, by simp [hmore]⟩

/-- Running a task adds to what was run. -/
theorem ran_runTask (r : DebounceRun τ) (task : Nat × List τ) :
    ∃ more, (r.runTask task).ran = r.ran ++ more := by
  obtain ⟨ticket, chain⟩ := task
  cases hlive : r.debouncer.isLive ticket with
  | false => exact ⟨[], by simp [runTask, hlive]⟩
  | true =>
    cases chain with
    | nil => exact ⟨[], by simp [runTask, hlive]⟩
    | cons link rest =>
      obtain ⟨more, hmore⟩ := r.ran_runTask_of_live hlive link rest
      exact ⟨_, hmore⟩

/-- So does running several tasks. -/
theorem ran_foldl_runTask (r : DebounceRun τ) (tasks : List (Nat × List τ)) :
    ∃ more, (tasks.foldl runTask r).ran = r.ran ++ more := by
  induction tasks generalizing r with
  | nil => exact ⟨[], by simp⟩
  | cons task tasks ih =>
    obtain ⟨first, hfirst⟩ := r.ran_runTask task
    obtain ⟨more, hmore⟩ := ih (r.runTask task)
    exact ⟨first ++ more, by simp [hmore, hfirst]⟩

/-- Tasks of requests that are not live are not run. -/
theorem foldl_runTask_of_dead (r : DebounceRun τ) {tasks : List (Nat × List τ)}
    (hdead : ∀ task ∈ tasks, r.debouncer.isLive task.1 = false) : tasks.foldl runTask r = r := by
  induction tasks with
  | nil => rfl
  | cons task tasks ih =>
    have hfirst : r.runTask task = r := by simp [runTask, hdead task]
    rw [List.foldl_cons, hfirst]
    exact ih fun task hmem => hdead task (List.mem_cons_of_mem _ hmem)

/-- **The thread runs the task of the request that is live**, whatever else has been posted: it is the only one
that is live, so those before it are not run. -/
theorem ran_runPosted (r : DebounceRun τ) {ticket : Nat} {link : τ} {rest : List τ}
    (hwaiting : r.waiting = [(ticket, link :: rest)])
    (hposted : (ticket, link :: rest) ∈ r.agenda.posted) :
    ∃ more, r.runPosted.ran = r.ran ++ (link, r.agenda.now) :: more := by
  have hlive : r.debouncer.isLive ticket = true := by
    have hmem : (ticket, link :: rest) ∈ r.waiting := by simp [hwaiting]
    exact (List.mem_filter.mp hmem).2
  obtain ⟨before, after, hsplit⟩ := List.append_of_mem hposted
  have hdead : before.filter (fun task => r.debouncer.isLive task.1) = [] := by
    have hlength := congrArg List.length hwaiting
    simp [waiting, Agenda.tasks, hsplit, hlive] at hlength
    exact List.length_eq_zero_iff.mp (by omega)
  let left : DebounceRun τ := { r with agenda := r.agenda.takePosted.2 }
  have hbefore : before.foldl runTask left = left := by
    refine left.foldl_runTask_of_dead fun task hmem => ?_
    simpa using List.filter_eq_nil_iff.mp hdead task hmem
  obtain ⟨first, hfirst⟩ := left.ran_runTask_of_live hlive link rest
  obtain ⟨more, hmore⟩ := (left.runTask (ticket, link :: rest)).ran_foldl_runTask after
  have hrun : r.runPosted = after.foldl runTask (left.runTask (ticket, link :: rest)) := by
    change r.agenda.posted.foldl runTask left = _
    rw [hsplit, List.foldl_append, hbefore, List.foldl_cons]
  refine ⟨first ++ more, ?_⟩
  rw [hrun, hmore, hfirst]
  simp [left, Agenda.takePosted]

/-- **Once its timer is due, the task of the request that is live is run** when the timers that are due
fire and the thread runs the tasks that are posted. -/
theorem ran_expire_runPosted (r : DebounceRun τ) (hmode : r.agenda.mode ≠ .dropped)
    (hordered : r.agenda.Ordered) {ticket : Nat} {link : τ} {rest : List τ}
    (hwaiting : r.waiting = [(ticket, link :: rest)])
    (hdue : ∀ timer ∈ r.agenda.timers, r.debouncer.isLive timer.task.1 = true →
      r.agenda.isDue timer = true) :
    ∃ more, r.expire.runPosted.ran = r.ran ++ (link, r.agenda.now) :: more := by
  have hexpired : r.expire.waiting = [(ticket, link :: rest)] := by
    have hperm := Agenda.filter_tasks_expire hmode fun task => r.debouncer.isLive task.1
    exact List.perm_singleton.mp (hwaiting ▸ hperm)
  have hmem : (ticket, link :: rest) ∈ r.waiting := by simp [hwaiting]
  obtain ⟨htask, hlive⟩ := List.mem_filter.mp hmem
  have hposted : (ticket, link :: rest) ∈ r.expire.agenda.posted := by
    rcases List.mem_append.mp htask with htimer | hposted
    · obtain ⟨timer, htimer, heq⟩ := List.mem_map.mp htimer
      have hlive' : r.debouncer.isLive timer.task.1 = true := heq ▸ hlive
      rw [← heq]
      exact hordered.mem_posted_expire hmode htimer (hdue timer htimer hlive') hlive'
    · unfold expire
      rw [Agenda.expire_eq hmode]
      exact List.mem_append_left _ hposted
  have hnow : r.expire.agenda.now = r.agenda.now := by
    unfold expire
    rw [Agenda.expire_eq hmode]
  obtain ⟨more, hmore⟩ := r.expire.ran_runPosted hexpired hposted
  exact ⟨more, hnow ▸ hmore⟩

end DebounceRun

/-! ## Exactly one task is kept -/

namespace Diary

variable {τ : Type}

/-- The task of a request that is live is around, once. -/
structure Kept (d : Diary τ) : Prop where
  /-- What the diary tells is right. -/
  told : d.Told
  /-- Posted tasks are not dropped. -/
  undropped : d.run.agenda.mode ≠ .dropped
  /-- Timers are ordered by their deadlines. -/
  ordered : d.run.agenda.Ordered
  /-- One task waits. -/
  one : ∀ ticket, d.run.debouncer.live = some ticket → d.run.waiting.length = 1

namespace Kept

variable {d : Diary τ}

/-- No other task has the ticket of a request that is made to wait. -/
theorem defer (h : d.Kept) (link : τ) (rest : List τ) : (d.defer link rest).Kept := by
  refine ⟨h.told.defer link rest, h.undropped, h.ordered.start _ _, fun ticket hlive => ?_⟩
  have hold : d.run.agenda.tasks.filter
      (fun task => (d.defer link rest).run.debouncer.isLive task.1) = [] :=
    List.filter_eq_nil_iff.mpr fun task hmem =>
      ne_true_of_eq_false (h.told.dead_of_defer link rest hmem)
  have hperm := (d.run.agenda.tasks_start_perm (d.run.agenda.now + d.run.debouncer.quiet)
    (d.run.debouncer.issued, link :: rest)).filter
      fun task => (d.defer link rest).run.debouncer.isLive task.1
  rw [List.filter_cons_of_pos (by simp [Diary.defer, Debouncer.isLive]), hold] at hperm
  exact hperm.length_eq

/-- **Requests keep exactly one task**, that of the last link if that one waits. -/
theorem request (h : d.Kept) (chain : List τ) : (d.request chain).Kept := by
  induction chain generalizing d with
  | nil => exact h
  | cons link rest ih =>
    rcases d.request_cons_cases link rest with ⟨-, heq⟩ | ⟨-, heq⟩ <;> rw [heq]
    · exact ih ⟨h.told.answer link, h.undropped, h.ordered, nofun⟩
    · exact h.defer link rest

/-- What happens to the tasks that are around is none of the debouncer's business, as long as the one
that waits stays. -/
theorem withAgenda (h : d.Kept) {agenda : Agenda (Nat × List τ)}
    (hmode : agenda.mode = d.run.agenda.mode)
    (htimers : agenda.timers.Sublist d.run.agenda.timers)
    (hsub : agenda.tasks ⊆ d.run.agenda.tasks)
    (hlive : (agenda.tasks.filter fun task => d.run.debouncer.isLive task.1).Perm d.run.waiting) :
    (d.withAgenda agenda).Kept where
  told := h.told.withAgenda hsub
  undropped := by
    intro hdropped
    exact h.undropped (hmode.symm.trans hdropped)
  ordered := h.ordered.of_sublist htimers
  one ticket hticket := hlive.length_eq.trans (h.one ticket hticket)

/-- **Timers that do their duty and the thread keep exactly one task.** -/
theorem next (h : d.Kept) {d' : Diary τ} (hstep : Dutiful d d') : d'.Kept := by
  cases hstep with
  | request chain => exact h.request chain
  | cancel => exact ⟨h.told.cancel, h.undropped, h.ordered, nofun⟩
  | elapse nanos => exact h.withAgenda rfl (.refl _) (List.Subset.refl _) (.refl _)
  | fire before after timer timers due =>
    have hperm := d.run.agenda.tasks_post_perm h.undropped timers
    refine h.withAgenda (Agenda.mode_post _ _) ?_ hperm.subset (hperm.filter _)
    rw [Agenda.timers_post, timers]
    exact (List.Sublist.refl before).append (List.sublist_cons_self timer after)
  | lapse before after timer timers dead =>
    refine h.withAgenda rfl ?_ (d.run.agenda.tasks_timers timers).2 (.of_eq ?_)
    · rw [timers]
      exact (List.Sublist.refl before).append (List.sublist_cons_self timer after)
    · unfold DebounceRun.waiting Agenda.tasks
      rw [timers]
      simp [dead]
  | run task rest posted =>
    obtain ⟨ticket, chain⟩ := task
    obtain ⟨hmem, hsub⟩ := d.run.agenda.tasks_posted posted
    let left := d.withAgenda { d.run.agenda with posted := rest }
    change (left.runTask (ticket, chain)).Kept
    by_cases hlive : left.run.debouncer.live = some ticket
    · obtain ⟨earlier, link, hlast, hlinks⟩ := h.told.live ticket hlive
      obtain ⟨rest', rfl⟩ := hlinks _ hmem rfl
      rw [left.runTask_of_live link rest' hlive]
      have htold := (h.told.withAgenda hsub).complete ⟨earlier, hlast⟩
      exact request ⟨htold, h.undropped, h.ordered, nofun⟩ rest'
    · rw [left.runTask_of_dead chain hlive]
      have hdead : d.run.debouncer.isLive ticket = false := beq_false_of_ne hlive
      refine h.withAgenda rfl (.refl _) hsub (.of_eq ?_)
      unfold DebounceRun.waiting Agenda.tasks
      rw [posted]
      simp [hdead]

end Kept

/-- At the beginning no request is live, so no task need be around. -/
theorem kept_start (quiet patience now : Nat) {mode : PostMode} (hmode : mode ≠ .dropped) :
    (start quiet patience now mode : Diary τ).Kept :=
  ⟨told_start quiet patience now mode, hmode, .nil, nofun⟩

end Diary

namespace Almanac

variable {τ : Type} {quiet patience now : Nat} {mode : PostMode} {a : Almanac τ}

/-- Timers that do their duty are timers. -/
theorem dated_of_dutiful (hrun : Reaches Diary.Dutiful (start quiet patience now mode) a) :
    a.Dated quiet patience := by
  refine .of_reaches (Relation.ReflTransGen.mono ?_ _ _ hrun)
  intro b c hstep
  cases hstep with
  | enter d events happens entered => exact .enter b d events happens.step entered

/-- Exactly one task is kept during any run. -/
theorem kept_of_dutiful (hmode : mode ≠ .dropped)
    (hrun : Reaches Diary.Dutiful (start quiet patience now mode) a) : a.diary.Kept := by
  induction hrun with
  | refl => exact Diary.kept_start quiet patience now hmode
  | tail _ hstep ih =>
    cases hstep with
    | enter d events happens entered => exact ih.next happens

/-- The last request has the highest number. -/
theorem Dated.id_of_last (h : a.Dated quiet patience) {last : AlmanacEntry τ} {id : Nat} {link : τ}
    (hlast : a.entries.getLast? = some last) (hevent : last.event = .requested id link) :
    id + 1 = a.diary.made := by
  obtain ⟨before, hentries⟩ := List.getLast?_eq_some_iff.mp hlast
  have hnumbered := congrArg List.getLast? h.told.numbered
  rw [← h.entered, hentries] at hnumbered
  simp [hevent, DebounceEvent.requested?, List.getLast?_range] at hnumbered
  omega

/-- **A request is neither lost nor put off forever.** If posted tasks are not dropped, then after any
requests, cancellations, runs of posted tasks and timers that do their duty, in any order and with
time passing in between, and while a burst is going on that began with the request `first`:

* one request is live, which is the last thing that happened and the latest request of all, and its
  task is around exactly once, with a timer or posted;
* if it is with a timer, that ends when the quiet time has passed since the request was made, which is
  sooner than the patience and the quiet time after the burst began;
* a request that is made when the patience is over is answered at once;
* once all of that time is over, the task of the live request is run as soon as the timers that are due
  fire and the thread runs the tasks that are posted. -/
theorem latest_request_waits (hmode : mode ≠ .dropped)
    (hrun : Reaches Diary.Dutiful (start quiet patience now mode) a) {first : AlmanacEntry τ}
    (hfirst : first ∈ a.burst.head?) :
    ∃ last id ticket link rest,
      (a.entries.getLast? = some last ∧ last.event = .requested id link ∧ id + 1 = a.diary.made) ∧
      (a.run.debouncer.live = some ticket ∧ a.run.waiting = [(ticket, link :: rest)]) ∧
      (∀ timer ∈ a.run.agenda.timers, a.run.debouncer.isLive timer.task.1 = true →
        timer.deadline = last.time + quiet ∧ timer.deadline < first.time + patience + quiet) ∧
      (first.time + patience ≤ a.now → ∀ link' rest', ∃ more,
        (a.run.request (link' :: rest')).ran = a.run.ran ++ (link', a.now) :: more) ∧
      (first.time + patience + quiet ≤ a.now →
        ∃ more, a.run.expire.runPosted.ran = a.run.ran ++ (link, a.now) :: more) := by
  have h := dated_of_dutiful hrun
  have hkept := kept_of_dutiful hmode hrun
  have hburst : a.burst ≠ [] := by
    intro hnil
    simp [hnil] at hfirst
  obtain ⟨ticket, hlive⟩ := Option.ne_none_iff_exists'.mp (h.live hburst)
  obtain ⟨last, link, hentries, hlast, hevent, hlink⟩ := h.last_of_live hlive
  obtain ⟨task, hwaiting⟩ := List.length_eq_one_iff.mp (hkept.one ticket hlive)
  have hyoung := h.young first hfirst last hlast
  have hdeadline : ∀ timer ∈ a.run.agenda.timers, a.run.debouncer.isLive timer.task.1 = true →
      timer.deadline = last.time + quiet ∧ timer.deadline < first.time + patience + quiet := by
    intro timer hmem htimer
    have heq := h.timed last hlast timer hmem htimer
    exact ⟨heq, by omega⟩
  have htask : task ∈ a.run.waiting := hwaiting ▸ List.mem_singleton_self task
  obtain ⟨hmem, hticket⟩ := List.mem_filter.mp htask
  obtain ⟨ticket', chain⟩ := task
  obtain rfl : ticket = ticket' := Option.some.inj (hlive.symm.trans (beq_iff_eq.mp hticket))
  obtain ⟨rest, rfl⟩ : ∃ rest, chain = link :: rest := hlink _ hmem rfl
  refine ⟨last, _, ticket, link, rest, ⟨hentries, hevent, h.id_of_last hentries hevent⟩,
    ⟨hlive, hwaiting⟩, hdeadline, ?prompt, ?posted⟩
  case prompt =>
    intro hlong link' rest'
    have hstart : a.run.debouncer.burstStart = some first.time := by
      rw [h.remembered, Option.mem_def.mp hfirst, Option.map_some]
    refine a.run.ran_request_of_le ?_ link' rest'
    rw [h.patience_eq, hstart, Option.getD_some]
    exact Nat.le_sub_of_add_le' hlong
  case posted =>
    intro hlong
    refine a.run.ran_expire_runPosted hkept.undropped hkept.ordered hwaiting ?_
    intro timer htimer hlive
    have hbound := (hdeadline timer htimer hlive).2
    unfold Almanac.now at hlong
    exact decide_eq_true (by omega)

/-- A request replaces another one and its timer is late; its task is the one that waits, and the
thread runs it. -/
theorem latest_request_waits_posted :
    ∃ (a : Almanac String) (first : AlmanacEntry String),
      Reaches Diary.Dutiful (start 3 5 0 .queued) a ∧ first ∈ a.burst.head? ∧
      first.time + 5 + 3 ≤ a.now ∧ a.run.waiting = [(1, ["b"])] ∧
      ∃ link more, a.run.expire.runPosted.ran = (link, 8) :: more := by
  have hreplaced : Reaches Diary.Dutiful (start 3 5 0 .queued) _ :=
    ((Relation.ReflTransGen.single (.enter _ _ [.requested 0 "a"] (.request _ ["a"]) rfl)).tail
      (.enter _ _ [] (.elapse _ 2) rfl)).tail
      (.enter _ _ [.requested 1 "b"] (.request _ ["b"]) rfl)
  have hrun : Reaches Diary.Dutiful (start 3 5 0 .queued) _ :=
    (hreplaced.tail (.enter _ _ [] (.lapse _ [] [⟨5, 1, ["b"]⟩] ⟨3, 0, ["a"]⟩ rfl rfl) rfl)).tail
      (.enter _ _ [] (.elapse _ 6) rfl)
  refine ⟨_, ⟨.requested 0 "a", 0⟩, hrun, rfl, by decide, rfl, ?_⟩
  obtain ⟨-, -, -, link, -, -, -, -, -, hposted⟩ := latest_request_waits (by decide) hrun rfl
  exact ⟨link, hposted (by decide)⟩

end Almanac

end SessionReplay
