import SessionReplay.Proofs.Station.Docket

/-!
# What becomes of commands

Every command that is left in the mailbox of a worker takes effect in its turn, or is dropped when the
worker stops, and every flush is answered once and accordingly. The main result is
`commands_settle_in_order`, over all runs of a docket. It is put together from

* `exists_move_of_unanswered` and `Move.load_lt`: the worker can go on while somebody waits, and what it
  does was paid for by errands, two things for each;
* `Ordered.run_of_stopped` and `Ordered.not_move`: what a worker that has stopped leaves alone;
* `Storied`: when each round was begun and ended;
* `flush_settled`: the answer to a flush by what was sent before it.

An answer that is due does not come by itself: a worker that is not let go on, or that is kept busy by
ever more items, leaves it open. So that answers come is stated as a bound on what the worker does.
-/

namespace SessionReplay.Docket

open Station

variable {σ : Type} {e : Engine σ} {d d' d₀ : Docket σ}

/-! ## Work is paid for -/

/-- How far the worker is from serving. -/
def distance : WorkerPhase → Nat
  | .unstarted => 2
  | .starting => 1
  | _ => 0

/-- How many things a round has still to do apart from what it does with the queue. -/
def toClose : Option Round → Nat
  | none => 0
  | some r => if r.inHand.isSome then 2 else 1

/-- How many things the worker can do at most before it comes to rest, if nobody does anything else: a
command is taken and its round ended, an item is handed over and done with. -/
def load (d : Docket σ) : Nat :=
  distance d.station.worker + toClose d.round + 2 * d.station.mailbox.length +
    2 * d.station.queue.length

/-- What the worker has done and has to do is paid for by errands. -/
def Paid (d : Docket σ) : Prop := d.moves + d.load ≤ 2 * d.errands + 2

/-- A round without an item in hand is one thing from its end. -/
theorem toClose_of_free {r : Round} (hrunning : d.round = some r) (hfree : r.inHand = none) :
    toClose d.round = 1 := by
  simp [toClose, hrunning, hfree]

/-- **Whatever the worker does, less is left to do.** -/
theorem Move.load_lt (hmove : Move d d') : d'.load < d.load := by
  cases hmove with
  | start unstarted => simp [load, distance, unstarted]
  | begin starting => simp [load, distance, starting, note]
  | take command rest idle serving mailbox drains =>
    have hmailbox : d.station.mailbox.length = rest.length + 1 := by simp [mailbox]
    change distance d.station.worker + 1 + 2 * rest.length + 2 * d.station.queue.length < d.load
    simp only [load, idle, toClose]
    omega
  | discard r id item fate event running free head unfit =>
    have hlength : d.station.queue.length = d.station.queue.dropHead.length + 1 :=
      congrArg List.length (Queue.waiting_eq_cons_of_head? head)
    change distance d.station.worker + 1 + 2 * d.station.mailbox.length +
      2 * d.station.queue.dropHead.length < d.load
    simp only [load, toClose_of_free running free]
    omega
  | hand r id item running free head ready =>
    have hlength : d.station.queue.length = d.station.queue.dropHead.length + 1 :=
      congrArg List.length (Queue.waiting_eq_cons_of_head? head)
    change distance d.station.worker + 2 + 2 * d.station.mailbox.length +
      2 * d.station.queue.dropHead.length < d.load
    simp only [load, toClose_of_free running free]
    omega
  | handled r id failed running held =>
    cases failed <;> simp [load, running, held, toClose, Round.pop, note]
  | finish r running ended =>
    obtain ⟨log, hclosed⟩ := closeDrain_eq d.station r.command.ticket? (r.outcome d.station.queue)
    rw [hclosed]
    simp [load, running, ended.1, toClose]
  | stop rest idle serving mailbox =>
    rw [dropReplies_eq_append]
    simp [load, distance, idle, serving, mailbox, toClose, note]

/-- An errand brings no more than is paid for, and what the worker does is taken from that. -/
theorem Paid.step (h : d.Paid) (hstep : Step d d') : d'.Paid := by
  unfold Paid at h ⊢
  cases hstep with
  | errand job commands left =>
    obtain ⟨hleaves, ids, hbrings⟩ := Brings.of_left left
    have hlittle := hbrings.little
    have hload : load { d with
        station := d.station.errand job
        sent := d.sent ++ commands
        errands := d.errands + 1 } = d.load + 2 * (commands.length + ids.length) := by
      simp only [load, Queue.length, hleaves.worker, left, hbrings.waiting, List.length_append]
      omega
    rw [hload]
    change d.moves + _ ≤ 2 * (d.errands + 1) + 2
    omega
  | move d' moves =>
    have hless := moves.load_lt
    have herrands : d'.errands = d.errands := by cases moves <;> rfl
    change d.moves + 1 + d'.load ≤ 2 * d'.errands + 2
    omega

/-! ## The worker does not get stuck -/

/-- **A round can be gone on with.** -/
theorem exists_move_of_running {r : Round} (hrunning : d.round = some r) : ∃ d', Move d d' := by
  cases hhand : r.inHand with
  | some id => exact ⟨_, .handled d r id false hrunning hhand⟩
  | none =>
    by_cases hover : r.Over d.station.queue
    · exact ⟨_, .finish d r hrunning hover⟩
    · obtain ⟨id, item, hhead, hverdict⟩ : ∃ id item, d.station.queue.head? = some (id, item) ∧
          item.verdict r.now d.station.queue.maxItemDelay ≠ .blocked := by
        simpa [Round.Over, hhand] using hover
      cases h : item.verdict r.now d.station.queue.maxItemDelay with
      | stale => exact ⟨_, .discard d r id item _ _ hrunning hhand hhead (.stale h)⟩
      | invalid => exact ⟨_, .discard d r id item _ _ hrunning hhand hhead (.invalid h)⟩
      | ready => exact ⟨_, .hand d r id item hrunning hhand hhead h⟩
      | blocked => exact absurd h hverdict

/-- **A worker that has not stopped can do something as long as there is a round or a command.** -/
theorem Ordered.exists_move (h : d.Ordered) (hopen : d.station.worker ≠ .stopped)
    (hwork : d.round ≠ none ∨ d.station.mailbox ≠ []) : ∃ d', Move d d' := by
  cases hround : d.round with
  | some r => exact exists_move_of_running hround
  | none =>
    cases hworker : d.station.worker with
    | unstarted => exact ⟨_, .start d hworker⟩
    | starting => exact ⟨_, .begin d hworker⟩
    | stopped => exact absurd hworker hopen
    | abandoned => exact absurd hworker h.present
    | serving =>
      have hmailbox : d.station.mailbox ≠ [] := hwork.resolve_left (absurd hround)
      obtain ⟨command, rest, hmailbox⟩ := List.exists_cons_of_ne_nil hmailbox
      by_cases hcommand : command = .shutdown
      · subst hcommand
        exact ⟨_, .stop d rest hround hworker hmailbox⟩
      · exact ⟨_, .take d command rest hround hworker hmailbox hcommand⟩

/-! ## After the stop -/

/-- A worker that has stopped does nothing. -/
theorem Ordered.not_move (h : d.Ordered) (hstopped : d.station.worker = .stopped) :
    ¬Move d d' := by
  intro hmove
  have hidle := h.idle_of_stopped hstopped
  cases hmove <;> simp_all

/-- **Once the worker has stopped, everything stays as it is**, but for items that are let wait. -/
theorem Ordered.step_of_stopped (h : d.Ordered) (hstopped : d.station.worker = .stopped)
    (hstep : Step d d') : d'.station.worker = .stopped ∧ d'.sent = d.sent ∧ d'.rounds = d.rounds ∧
      d'.station.replies = d.station.replies ∧
      d.station.queue.waiting <+: d'.station.queue.waiting := by
  cases hstep with
  | move d' moves => exact absurd moves (h.not_move hstopped)
  | errand job commands left =>
    obtain ⟨hleaves, ids, hbrings⟩ := Brings.of_left left
    have hnothing : commands = [] := hleaves.closed (by simp [hstopped, WorkerPhase.takesCommands])
    refine ⟨hleaves.worker.trans hstopped, by simp [hnothing], rfl, hbrings.replies, ?_⟩
    exact ⟨ids, hbrings.waiting.symm⟩

/-- **Once the worker has stopped**, nothing is sent, run or answered any more, and what waits goes on
waiting. -/
theorem Ordered.run_of_stopped (h : d.Ordered) (hstopped : d.station.worker = .stopped)
    (hrun : Reaches d d') : d'.station.worker = .stopped ∧ d'.sent = d.sent ∧ d'.rounds = d.rounds ∧
      d'.station.replies = d.station.replies ∧
      d.station.queue.waiting <+: d'.station.queue.waiting := by
  induction hrun with
  | refl => exact ⟨hstopped, rfl, rfl, rfl, List.prefix_rfl⟩
  | tail hbefore hstep ih =>
    obtain ⟨hworker, hsent, hrounds, hreplies, hwaiting⟩ := ih
    obtain ⟨hworker', hsent', hrounds', hreplies', hwaiting'⟩ :=
      (h.run hbefore).step_of_stopped hworker hstep
    exact ⟨hworker', hsent'.trans hsent, hrounds'.trans hrounds, hreplies'.trans hreplies,
      hwaiting.trans hwaiting'⟩

/-! ## Rounds are run one after the other -/

/-- A round of a run was begun, with the first command in the mailbox, when the rounds before it were
over and no other was run. -/
def Began (d₀ d : Docket σ) (earlier : List (Round × Outcome)) (command : Command) (now : Int) : Prop :=
  ∃ b, Reaches d₀ b ∧ b.round = none ∧ b.rounds = earlier ∧
    b.station.mailbox.head? = some command ∧ b.station.clock = now ∧ Reaches b d

/-- A round of a run was begun when the rounds before it were over, and was ended when its drain was
over, as the next one. -/
def Ran (d₀ d : Docket σ) (earlier : List (Round × Outcome)) (r : Round) (outcome : Outcome) : Prop :=
  ∃ f, Began d₀ f earlier r.command r.now ∧ f.round = some r ∧ f.rounds = earlier ∧
    r.Over f.station.queue ∧ outcome = r.outcome f.station.queue ∧ Reaches f d

/-- How a round was begun stays true. -/
theorem Began.step {earlier : List (Round × Outcome)} {command : Command} {now : Int}
    (h : Began d₀ d earlier command now) (hstep : Step d d') : Began d₀ d' earlier command now := by
  obtain ⟨b, hbefore, hidle, hrounds, hhead, hclock, hafter⟩ := h
  exact ⟨b, hbefore, hidle, hrounds, hhead, hclock, hafter.tail hstep⟩

/-- How it was run stays true. -/
theorem Ran.step {earlier : List (Round × Outcome)} {r : Round} {outcome : Outcome}
    (h : Ran d₀ d earlier r outcome) (hstep : Step d d') : Ran d₀ d' earlier r outcome := by
  obtain ⟨f, hbegan, hrunning, hrounds, hover, houtcome, hafter⟩ := h
  exact ⟨f, hbegan, hrunning, hrounds, hover, houtcome, hafter.tail hstep⟩

/-- The history of a docket: how its rounds were run, and how the one was begun that is run now. -/
structure Storied (d₀ d : Docket σ) : Prop where
  /-- Every round that is over was run. -/
  ended : ∀ earlier r outcome, earlier ++ [(r, outcome)] <+: d.rounds → Ran d₀ d earlier r outcome
  /-- The round that is run was begun after those. -/
  underway : ∀ r, d.round = some r → Began d₀ d d.rounds r.command r.now

namespace Storied

/-- What goes on with the round that is run, or leaves it alone, is more of the same history. -/
theorem goes_on (h : Storied d₀ d) (hstep : Step d d') (hrounds : d'.rounds = d.rounds)
    (hround : ∀ r', d'.round = some r' →
      ∃ r, d.round = some r ∧ r.command = r'.command ∧ r.now = r'.now) : Storied d₀ d' where
  ended earlier r outcome hmem := (h.ended earlier r outcome (hrounds ▸ hmem)).step hstep
  underway r' hr' := by
    obtain ⟨r, hr, hcommand, hnow⟩ := hround r' hr'
    have hbegan := h.underway r hr
    rw [hcommand, hnow] at hbegan
    rw [hrounds]
    exact hbegan.step hstep

/-- Every step goes on with the history. -/
theorem step (h : Storied d₀ d) (hrun : Reaches d₀ d) (hstep : Step d d') : Storied d₀ d' := by
  have hstep' := hstep
  cases hstep with
  | errand job commands left => exact h.goes_on hstep' rfl fun r hr => ⟨r, hr, rfl, rfl⟩
  | move d' moves =>
    cases moves with
    | take command rest idle serving mailbox drains =>
      refine ⟨fun earlier r outcome hmem => (h.ended earlier r outcome hmem).step hstep', ?_⟩
      intro r hr
      obtain rfl := Option.some.inj hr
      exact ⟨d, hrun, idle, rfl, by simp [mailbox], rfl, .single hstep'⟩
    | discard r id item fate event running free head unfit =>
      refine h.goes_on hstep' rfl ?_
      rintro _ ⟨⟩
      exact ⟨r, running, rfl, rfl⟩
    | hand r id item running free head ready =>
      refine h.goes_on hstep' rfl ?_
      rintro _ ⟨⟩
      exact ⟨r, running, rfl, rfl⟩
    | handled r id failed running held =>
      refine h.goes_on hstep' rfl ?_
      rintro _ ⟨⟩
      exact ⟨r, running, rfl, rfl⟩
    | finish r running ended =>
      refine ⟨fun earlier r' outcome hmem => ?_, by simp⟩
      rcases List.prefix_concat_iff.mp hmem with hlast | hbefore
      · obtain ⟨rfl, hr⟩ := List.append_inj' hlast rfl
        simp only [List.cons.injEq, Prod.mk.injEq, and_true] at hr
        obtain ⟨rfl, rfl⟩ := hr
        exact ⟨d, h.underway r' running, running, rfl, ended, rfl, .single hstep'⟩
      · exact (h.ended earlier r' outcome hbefore).step hstep'
    | _ => exact h.goes_on hstep' rfl fun r hr => ⟨r, hr, rfl, rfl⟩

end Storied

/-! ## Every flush is answered once -/

/-- The answers are those of the flushes that had a round, and of those that were dropped. -/
theorem mem_answers_iff {ticket : Nat} {answer : Except CommandError Outcome} :
    (ticket, answer) ∈ d.answers ↔
      (∃ r outcome, (r, outcome) ∈ d.rounds ∧ r.command = .flush ticket ∧ answer = .ok outcome) ∨
      (.flush ticket ∈ d.dropped ∧ answer = .error .responseDropped) := by
  simp [answers, eq_comm (a := answer)]

/-- The tickets of those who were answered are among those that were given, each once. -/
theorem Ordered.answers_nodup (h : d.Ordered) (hticketed : d.Ticketed) :
    (d.answers.map Prod.fst).Nodup := by
  have hkeys : d.answers.map Prod.fst
      = (d.rounds.map (·.1.command) ++ d.dropped).filterMap Command.ticket? := by
    simp [answers, List.map_filterMap, List.filterMap_map, Function.comp_def]
  have hsent : (d.rounds.map (·.1.command) ++ d.dropped).Sublist d.sent := by
    rw [h.kept]
    refine List.Sublist.append ?_ (List.Sublist.refl _)
    simp [effects, begun]
  have htickets : (d.sent.filterMap Command.ticket?).Nodup := hticketed ▸ List.nodup_range
  rw [hkeys]
  exact htickets.sublist (hsent.filterMap _)

/-- What was sent before a flush is what was sent up to its ticket. -/
theorem Ticketed.eq_takeWhile (h : d.Ticketed) {before after : List Command} {ticket : Nat}
    (hsent : d.sent = before ++ .flush ticket :: after) :
    before = d.sent.takeWhile (· ≠ .flush ticket) := by
  have htickets : (d.sent.filterMap Command.ticket?).Nodup := h ▸ List.nodup_range
  have hnew : .flush ticket ∉ before := by
    intro hmem
    rw [hsent, List.filterMap_append] at htickets
    have hdisjoint := (List.nodup_append.mp htickets).2.2
    refine hdisjoint ticket ?_ ticket ?_ rfl
    · exact List.mem_filterMap.mpr ⟨_, hmem, rfl⟩
    · simp [Command.ticket?]
  rw [hsent, List.takeWhile_append_of_pos]
  · simp
  · intro command hcommand
    simp only [decide_eq_true_eq]
    rintro rfl
    exact hnew hcommand

/-- A round that is over was run for the command that follows those of the rounds before it. -/
theorem Ordered.sent_of_mem_rounds (h : d.Ordered) {r : Round} {outcome : Outcome}
    (hmem : (r, outcome) ∈ d.rounds) :
    ∃ earlier after, earlier ++ [(r, outcome)] <+: d.rounds ∧
      d.sent = earlier.map (·.1.command) ++ r.command :: after ∧
      .shutdown ∉ earlier.map (·.1.command) := by
  obtain ⟨earlier, later, hrounds⟩ := List.append_of_mem hmem
  have hdrains := h.drains
  have hkept := h.kept
  simp only [effects, begun, hrounds, List.map_append, List.map_cons, List.append_assoc,
    List.cons_append] at hdrains hkept
  refine ⟨earlier, _, ⟨later, by simp [hrounds]⟩, hkept, ?_⟩
  exact fun hshutdown => hdrains (List.mem_append_left _ hshutdown)

/-- A command that was dropped was sent after the worker was told to stop. -/
theorem Ordered.sent_of_mem_dropped (h : d.Ordered) {command : Command}
    (hmem : command ∈ d.dropped) :
    d.station.worker = .stopped ∧ ∃ before after, d.sent = before ++ command :: after ∧
      .shutdown ∈ before := by
  have hstopped : d.station.worker = .stopped := by
    by_contra hopen
    rw [h.undropped hopen] at hmem
    cases hmem
  obtain ⟨earlier, later, hdropped⟩ := List.append_of_mem hmem
  refine ⟨hstopped, d.effects ++ d.station.mailbox ++ earlier, later, ?_, ?_⟩
  · simp [h.kept, hdropped]
  · simp [effects_of_stopped hstopped]

/-- A command that was sent was dropped, waits, has stopped the worker, or a round was begun for it. -/
theorem Ordered.mem_sent_iff (h : d.Ordered) {command : Command} :
    command ∈ d.sent ↔ (∃ r outcome, (r, outcome) ∈ d.rounds ∧ r.command = command) ∨
      (∃ r, d.round = some r ∧ r.command = command) ∨
      (d.station.worker = .stopped ∧ command = .shutdown) ∨
      command ∈ d.station.mailbox ∨ command ∈ d.dropped := by
  rw [h.kept]
  by_cases hstopped : d.station.worker = .stopped <;> simp [effects, begun, hstopped]

/-- **What becomes of a flush.** Its ticket tells what was sent before it, so wherever the docket names the
flush, it means the same place in the mail. -/
theorem flush_settled (h : d.Ordered) (hticketed : d.Ticketed) (hanswered : d.Answered)
    {before after : List Command} {ticket : Nat}
    (hsent : d.sent = before ++ .flush ticket :: after) (answer : Except CommandError Outcome) :
    (ticket, answer) ∈ d.station.replies ↔
      (.shutdown ∉ before ∧ ∃ earlier r outcome, earlier ++ [(r, outcome)] <+: d.rounds ∧
        earlier.map (·.1.command) = before ∧ r.command = .flush ticket ∧ answer = .ok outcome) ∨
      (.shutdown ∈ before ∧ d.station.worker = .stopped ∧ answer = .error .responseDropped) := by
  have hbefore : ∀ before' after', d.sent = before' ++ .flush ticket :: after' → before' = before :=
    fun _ _ hsent' => (hticketed.eq_takeWhile hsent').trans (hticketed.eq_takeWhile hsent).symm
  have hround : ∀ r outcome, (r, outcome) ∈ d.rounds → r.command = .flush ticket →
      .shutdown ∉ before ∧ ∃ earlier, earlier ++ [(r, outcome)] <+: d.rounds ∧
        earlier.map (·.1.command) = before := by
    intro r outcome hmem hcommand
    obtain ⟨earlier, after', hprefix, hsent', hdrains⟩ := h.sent_of_mem_rounds hmem
    rw [hcommand] at hsent'
    have heq := hbefore _ _ hsent'
    exact ⟨heq ▸ hdrains, earlier, hprefix, heq⟩
  rw [show d.station.replies = d.answers from hanswered, mem_answers_iff]
  constructor
  · rintro (⟨r, outcome, hmem, hcommand, rfl⟩ | ⟨hmem, rfl⟩)
    · obtain ⟨hdrains, earlier, hprefix, heq⟩ := hround r outcome hmem hcommand
      exact .inl ⟨hdrains, earlier, r, outcome, hprefix, heq, hcommand, rfl⟩
    · obtain ⟨hstopped, before', after', hsent', hshutdown⟩ := h.sent_of_mem_dropped hmem
      exact .inr ⟨hbefore _ _ hsent' ▸ hshutdown, hstopped, rfl⟩
  · rintro (⟨-, earlier, r, outcome, hprefix, -, hcommand, rfl⟩ | ⟨hshutdown, hstopped, rfl⟩)
    · exact .inl ⟨r, outcome, hprefix.subset (by simp), hcommand, rfl⟩
    · have hmem : .flush ticket ∈ d.sent := by simp [hsent]
      rcases h.mem_sent_iff.mp hmem with ⟨r, outcome, hmem, hcommand⟩ | ⟨r, hr, -⟩ | ⟨-, heq⟩ |
        hwaits | hdropped
      · exact absurd hshutdown (hround r outcome hmem hcommand).1
      · simp [h.idle_of_stopped hstopped] at hr
      · cases heq
      · simp [h.emptied hstopped] at hwaits
      · exact .inr ⟨hdropped, rfl⟩

/-- **As long as a flush has no answer, the worker can do something.** -/
theorem exists_move_of_unanswered (h : d.Ordered) (hanswered : d.Answered) {ticket : Nat}
    (hmem : .flush ticket ∈ d.sent) (hnone : ∀ answer, (ticket, answer) ∉ d.station.replies) :
    ∃ d', Move d d' := by
  rw [show d.station.replies = d.answers from hanswered] at hnone
  rcases h.mem_sent_iff.mp hmem with ⟨r, outcome, hmem, hcommand⟩ | ⟨r, hr, -⟩ | ⟨-, heq⟩ |
    hwaits | hdropped
  · exact absurd (mem_answers_iff.mpr (.inl ⟨r, outcome, hmem, hcommand, rfl⟩)) (hnone _)
  · exact exists_move_of_running hr
  · cases heq
  · have hmailbox : d.station.mailbox ≠ [] := List.ne_nil_of_mem hwaits
    refine h.exists_move (fun hstopped => hmailbox (h.emptied hstopped)) (.inr hmailbox)
  · exact absurd (mem_answers_iff.mpr (.inr ⟨hdropped, rfl⟩)) (hnone _)

/-! ## What becomes of commands -/

/-- What is known of a docket after any run. -/
structure Kept (d₀ d : Docket σ) : Prop where
  /-- Commands are served in order. -/
  ordered : d.Ordered
  /-- Every flush has a ticket of its own. -/
  ticketed : d.Ticketed
  /-- Those who wait are answered as is due. -/
  answered : d.Answered
  /-- What the worker does is paid for. -/
  paid : d.Paid
  /-- Its rounds were run one after the other. -/
  storied : Storied d₀ d

/-- All of this is known after any run. -/
theorem kept_of_reaches {maxItemDelay : Int} {capacity : Nat} {output : σ}
    (hrun : Reaches (start maxItemDelay capacity output) d) :
    Kept (start maxItemDelay capacity output) d := by
  induction hrun with
  | refl =>
    exact
      { ordered := ordered_start maxItemDelay capacity output
        ticketed := rfl
        answered := rfl
        paid := Nat.le_refl _
        storied := ⟨by simp [start], by simp [start]⟩ }
  | tail hbefore hstep ih =>
    exact
      { ordered := ih.ordered.step hstep
        ticketed := ih.ticketed.step hstep
        answered := ih.answered.step ih.ordered hstep
        paid := ih.paid.step hstep
        storied := ih.storied.step hbefore hstep }

/-- **An answer stays given.** -/
theorem replies_of_reaches (hrun : Reaches d d') : d.station.replies <+: d'.station.replies := by
  induction hrun with
  | refl => exact List.prefix_rfl
  | tail _ hstep ih =>
    refine ih.trans ?_
    cases hstep with
    | errand job commands left =>
      obtain ⟨-, ids, hbrings⟩ := Brings.of_left left
      exact hbrings.replies ▸ List.prefix_rfl
    | move d' moves =>
      cases moves with
      | handled r id failed running held => cases failed <;> exact List.prefix_rfl
      | finish r running ended =>
        obtain ⟨log, hclosed⟩ := closeDrain_eq _ r.command.ticket? (r.outcome _)
        rw [hclosed]
        exact List.prefix_append _ _
      | stop rest idle serving mailbox =>
        rw [dropReplies_eq_append]
        exact List.prefix_append _ _
      | _ => exact List.prefix_rfl

/-- A flush is sent, with a ticket of its own, until the worker stops. -/
theorem Ordered.sendFlush_of_open (h : d.Ordered) (hticketed : d.Ticketed)
    (hopen : d.station.worker ≠ .stopped) :
    ∃ s, d.station.sendFlush = .ok (d.station.nextTicket, s) ∧
      .flush d.station.nextTicket ∉ d.sent ∧
      Step d { d with
        station := s
        sent := d.sent ++ [.flush d.station.nextTicket]
        errands := d.errands + 1 } := by
  have hsend : d.station.send (.flush d.station.nextTicket)
      = some { d.station with mailbox := d.station.mailbox ++ [.flush d.station.nextTicket] } :=
    if_pos (h.takesCommands.mpr hopen)
  have hflush : d.station.sendFlush = .ok (d.station.nextTicket, { d.station with
      mailbox := d.station.mailbox ++ [.flush d.station.nextTicket]
      nextTicket := d.station.nextTicket + 1 }) := by
    simp [sendFlush, hsend]
  refine ⟨_, hflush, ?_, ?_⟩
  · intro hmem
    have hgiven : d.station.nextTicket ∈ d.sent.filterMap Command.ticket? :=
      List.mem_filterMap.mpr ⟨_, hmem, rfl⟩
    rw [show d.sent.filterMap Command.ticket? = List.range d.station.nextTicket from hticketed]
      at hgiven
    simp at hgiven
  · have hcall : d.station.errand (.call .sendFlush) = { d.station with
        mailbox := d.station.mailbox ++ [.flush d.station.nextTicket]
        nextTicket := d.station.nextTicket + 1 } := by
      simp [Station.errand, call, hflush]
    rw [← hcall]
    exact .errand d (.call .sendFlush) _ (by rw [hcall])

/-- **What becomes of commands.** Whatever anybody does, at any time between the smallest things that
the worker does:

* the commands that take effect are the first ones of those that were sent, in order; of every round
  that is over it was the first command in the mailbox when the rounds before were over, and what it
  reports is what its drain did;
* a flush has a ticket of its own, and has one answer at most, which it keeps;
* if it was sent before the worker was told to stop, that is what the one round did that was run for
  it, right after those for all commands sent before it; if it was sent later, it is that the response
  was dropped, as soon as the worker has stopped;
* while a flush has no answer the worker can do something, and it does not do more than two things for
  every errand and two to begin with, so all answers come if the worker goes on;
* a flush is refused exactly if the worker has stopped;
* so is telling it to stop;
* once it has stopped, it stays so, no further round is run, nothing is taken out of the queue or handed
  over, and nobody gets another answer, whatever is done. -/
theorem commands_settle_in_order {maxItemDelay : Int} {capacity : Nat} {output : σ}
    (hrun : Reaches (start maxItemDelay capacity output) d) :
    (d.effects <+: d.sent ∧ ∀ earlier r outcome, earlier ++ [(r, outcome)] <+: d.rounds →
      Ran (start maxItemDelay capacity output) d earlier r outcome) ∧
    ((d.sent.filterMap Command.ticket?).Nodup ∧ (d.station.replies.map Prod.fst).Nodup ∧
      ∀ d', Reaches d d' → d.station.replies <+: d'.station.replies) ∧
    (∀ before ticket after, d.sent = before ++ .flush ticket :: after → ∀ answer,
      ((ticket, answer) ∈ d.station.replies ↔
        (.shutdown ∉ before ∧ ∃ earlier r outcome, earlier ++ [(r, outcome)] <+: d.rounds ∧
          earlier.map (·.1.command) = before ∧ r.command = .flush ticket ∧ answer = .ok outcome) ∨
        (.shutdown ∈ before ∧ d.station.worker = .stopped ∧ answer = .error .responseDropped))) ∧
    ((∀ ticket, .flush ticket ∈ d.sent → (∀ answer, (ticket, answer) ∉ d.station.replies) →
      ∃ d', Move d d') ∧ d.moves ≤ 2 * d.errands + 2) ∧
    ((d.station.worker = .stopped → d.station.sendFlush = .error .workerStopped) ∧
      (d.station.worker ≠ .stopped → ∃ s, d.station.sendFlush = .ok (d.station.nextTicket, s) ∧
        .flush d.station.nextTicket ∉ d.sent ∧
        Step d { d with
          station := s
          sent := d.sent ++ [.flush d.station.nextTicket]
          errands := d.errands + 1 })) ∧
    ((∃ s, d.station.sendShutdown = .ok s) ↔ d.station.worker ≠ .stopped) ∧
    (d.station.worker = .stopped → ∀ d', Reaches d d' →
      d'.station.worker = .stopped ∧ d'.round = none ∧ d'.rounds = d.rounds ∧
      d.station.queue.waiting <+: d'.station.queue.waiting ∧
      d'.station.replies = d.station.replies ∧ (∀ d'', ¬Move d' d'') ∧
      ∀ e : Engine σ, d'.station.step? e = none) := by
  have h := kept_of_reaches hrun
  have hclosed : d.station.worker = .stopped → d.station.worker.takesCommands = false := by
    intro hstopped
    rw [hstopped]
    rfl
  refine ⟨⟨?order, h.storied.ended⟩, ⟨?tickets, ?answers, fun _ => replies_of_reaches⟩, ?settled,
    ⟨?progress, ?paid⟩, ⟨?refused, h.ordered.sendFlush_of_open h.ticketed⟩, ?shutdown, ?stopped⟩
  case order =>
    exact ⟨d.station.mailbox ++ d.dropped, by rw [h.ordered.kept, List.append_assoc]⟩
  case tickets => exact h.ticketed ▸ List.nodup_range
  case answers => exact h.answered ▸ h.ordered.answers_nodup h.ticketed
  case settled =>
    intro before ticket after hsent answer
    exact flush_settled h.ordered h.ticketed h.answered hsent answer
  case progress => exact fun ticket => exists_move_of_unanswered h.ordered h.answered
  case paid => exact (Nat.le_add_right _ _).trans h.paid
  case refused =>
    intro hstopped
    simp [sendFlush, send, hclosed hstopped]
  case shutdown =>
    rw [← h.ordered.takesCommands]
    unfold sendShutdown send
    cases d.station.worker.takesCommands <;> simp
  case stopped =>
    intro hstopped d' hafter
    have h' := h.ordered.run hafter
    obtain ⟨hworker, -, hrounds, hreplies, hwaiting⟩ := h.ordered.run_of_stopped hstopped hafter
    refine ⟨hworker, h'.idle_of_stopped hworker, hrounds, hwaiting, hreplies, ?_, ?_⟩
    · exact fun d'' => h'.not_move hworker
    · exact fun e => step?_of_gone e (by rw [hworker]; rfl)

/-- A flush before the worker is told to stop, one after that, and one after it has stopped. -/
theorem commands_settle_in_order_stopped :
    ∃ d : Docket Unit, Reaches (start 1000 5 ()) d ∧ d.sent = [.flush 0, .shutdown, .flush 1] ∧
      (0, .ok { processed := 1 }) ∈ d.station.replies ∧
      (1, .error .responseDropped) ∈ d.station.replies ∧
      d.station.sendFlush = .error .workerStopped := by
  let view : ViewContext := ⟨"a", "s", "v"⟩
  have hadded : Reaches (start 1000 5 ()) _ :=
    (Relation.ReflTransGen.single (.errand _ (.call (.activate (some view))) [] rfl)).tail
      (.errand _ (.call (.add (.touch [⟨0, .pointer {}⟩]))) [] rfl)
  have hsent := ((hadded.tail (.errand _ (.call .sendFlush) [.flush 0] rfl)).tail
    (.errand _ .shutdown [.shutdown] rfl)).tail (.errand _ (.call .sendFlush) [.flush 1] rfl)
  have hserving := (hsent.tail (.move _ _ (.start _ rfl))).tail (.move _ _ (.begin _ rfl))
  have hhanded := (hserving.tail (.move _ _ (.take _ (.flush 0) _ rfl rfl rfl nofun))).tail
    (.move _ _ (.hand _ _ 0 _ rfl rfl rfl rfl))
  have hdone := (hhanded.tail (.move _ _ (.handled _ _ 0 false rfl rfl))).tail
    (.move _ _ (.finish _ _ rfl (Round.over_of_empty rfl rfl)))
  have hrun := hdone.tail (.move _ _ (.stop _ _ rfl rfl rfl))
  obtain ⟨-, -, hsettled, -, ⟨hrefused, -⟩, -⟩ := commands_settle_in_order hrun
  refine ⟨_, hrun, rfl, ?_, ?_, hrefused rfl⟩
  · refine (hsettled [] 0 _ rfl _).mpr (.inl ⟨nofun, [], _, _, List.prefix_rfl, rfl, rfl, rfl⟩)
  · refine (hsettled [.flush 0, .shutdown] 1 [] rfl _).mpr (.inr ⟨by simp, rfl, rfl⟩)

end SessionReplay.Docket
