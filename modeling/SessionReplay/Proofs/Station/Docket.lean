import SessionReplay.Proofs.Station.Mail

/-!
# The docket of a worker

A `Docket` is a station with what its worker has done for every command that was ever left in its
mailbox. Its steps are the smallest there are: between any two of them, also while the worker is
processing an item, anybody can do an errand. No processor stands behind them, so they cover what any
processor does: an item is handed over (`hand`), whatever the processor does with the station is
errands, and some time later it is done (`handled`).

* `Ordered`: the rounds of the worker and its stop are the commands that were left, in order and from
  the first one on, and the rest waits or was dropped when the worker stopped.
* `Answered`: the answers are those that are due for the rounds and for what was dropped.
* `exists_reaches`: the runs of a station are among those with its docket.
-/

namespace SessionReplay

/-- The ticket for the answer, if a command asks for one. -/
def Command.ticket? : Command → Option Nat
  | .flush ticket => some ticket
  | _ => none

/-- Flushes have tickets, and the other commands do not. -/
@[simp] theorem Command.ticket?_eq_some_iff {command : Command} {ticket : Nat} :
    command.ticket? = some ticket ↔ command = .flush ticket := by
  cases command <;> simp [ticket?]

namespace Station

variable {σ : Type} {e : Engine σ} {s t : Station σ}

/-! ## One errand -/

/-- What is done leaves commands in the mailbox and lets items wait, one of both at most, and nobody is
answered. -/
structure Brings (s t : Station σ) (commands : List Command) (ids : List ItemId) : Prop where
  /-- Nothing is taken from the mailbox. -/
  mailbox : t.mailbox = s.mailbox ++ commands
  /-- Nothing is taken from the queue. -/
  waiting : t.queue.waiting = s.queue.waiting ++ ids
  /-- Not much is done. -/
  little : commands.length + ids.length ≤ 1
  /-- Tickets are given in order. -/
  tickets : List.range t.nextTicket = List.range s.nextTicket ++ commands.filterMap Command.ticket?
  /-- Nobody is answered. -/
  replies : t.replies = s.replies

/-- Whoever leaves all that alone brings nothing. -/
theorem Brings.nothing (hmailbox : t.mailbox = s.mailbox)
    (hwaiting : t.queue.waiting = s.queue.waiting) (htickets : t.nextTicket = s.nextTicket)
    (hreplies : t.replies = s.replies) : Brings s t [] [] where
  mailbox := by simp [hmailbox]
  waiting := by simp [hwaiting]
  little := Nat.zero_le 1
  tickets := by simp [htickets]
  replies := hreplies

/-- A request for a drain brings one command at most. -/
theorem brings_requestDrain (s : Station σ) : ∃ commands, Brings s s.requestDrain commands [] := by
  rcases s.requestDrain_cases with ⟨-, h⟩ | ⟨-, h⟩ | ⟨-, h⟩ <;> rw [h]
  · exact ⟨[], .nothing rfl rfl rfl rfl⟩
  · exact ⟨[.drain],
      { mailbox := rfl
        waiting := by simp
        little := by simp
        tickets := by simp [Command.ticket?]
        replies := rfl }⟩
  · exact ⟨[], .nothing rfl rfl rfl rfl⟩

/-- **Every errand brings something or nothing.** -/
theorem brings_errand (s : Station σ) (job : Errand σ) :
    ∃ commands ids, Brings s (s.errand job) commands ids := by
  cases job with
  | shutdown =>
    unfold errand sendShutdown send
    cases s.worker.takesCommands with
    | true =>
      exact ⟨[.shutdown], [],
        { mailbox := rfl
          waiting := by simp
          little := by simp
          tickets := by simp [Command.ticket?]
          replies := rfl }⟩
    | false => exact ⟨[], [], .nothing rfl rfl rfl rfl⟩
  | call c =>
    cases c with
    | add content =>
      change ∃ commands ids, Brings s (s.addItem content).2 commands ids
      rcases s.addItem_cases content with ⟨view, -, hadd⟩ | ⟨-, event, hadd⟩ <;> rw [hadd]
      · exact ⟨[], [s.queue.nextId],
          { mailbox := by simp [accept, readClock]
            waiting := rfl
            little := by simp
            tickets := by simp [accept, readClock]
            replies := rfl }⟩
      · exact ⟨[], [], .nothing rfl rfl rfl rfl⟩
    | requestDrain =>
      obtain ⟨commands, hrequest⟩ := s.brings_requestDrain
      exact ⟨commands, [], hrequest⟩
    | sendFlush =>
      change ∃ commands ids, Brings s (s.call .sendFlush) commands ids
      rcases s.call_sendFlush_cases with ⟨-, h⟩ | ⟨-, h⟩ <;> rw [h]
      · exact ⟨[.flush s.nextTicket], [],
          { mailbox := rfl
            waiting := by simp
            little := by simp
            tickets := by simp [Command.ticket?, List.range_succ]
            replies := rfl }⟩
      · exact ⟨[], [], .nothing rfl rfl rfl rfl⟩
    | finishJob id =>
      change ∃ commands ids, Brings s (s.finishJob id) commands ids
      rcases s.finishJob_cases id with h | ⟨-, h⟩ <;> rw [h]
      · obtain ⟨commands, hrequest⟩ := (s.modifyItem id Item.finishJob).brings_requestDrain
        exact ⟨commands, [], hrequest.mailbox, hrequest.waiting, hrequest.little, hrequest.tickets,
          hrequest.replies⟩
      · exact ⟨[], [], .nothing rfl rfl rfl rfl⟩
    | _ => exact ⟨[], [], .nothing rfl rfl rfl rfl⟩

/-- What an errand is seen to leave in the mailbox is what it leaves and brings. -/
theorem Brings.of_left {job : Errand σ} {commands : List Command}
    (left : (s.errand job).mailbox = s.mailbox ++ commands) :
    Leaves s (s.errand job) commands ∧ ∃ ids, Brings s (s.errand job) commands ids := by
  obtain ⟨commands', hleaves⟩ := s.leaves_errand job
  obtain ⟨commands'', ids, hbrings⟩ := s.brings_errand job
  obtain rfl : commands = commands' := List.append_cancel_left (left.symm.trans hleaves.mailbox)
  obtain rfl : commands = commands'' := List.append_cancel_left (left.symm.trans hbrings.mailbox)
  exact ⟨hleaves, ids, hbrings⟩

/-- Whoever waits for an answer is told that it was dropped, in the order of the commands. -/
theorem dropReplies_eq_append (s : Station σ) (commands : List Command) :
    s.dropReplies commands = { s with
      replies := s.replies ++
        (commands.filterMap Command.ticket?).map (·, .error .responseDropped) } := by
  induction commands generalizing s with
  | nil => simp [dropReplies]
  | cons command commands ih =>
    cases command with
    | flush ticket =>
      refine (ih (s.reply ticket (.error .responseDropped))).trans ?_
      simp [reply, Command.ticket?]
    | drain => exact ih s
    | shutdown => exact ih s

/-- The station once the worker has taken a command; a request for a drain is then no longer known
to be underway. -/
def takeCommand (s : Station σ) (command : Command) (rest : List Command) : Station σ :=
  { s with
    mailbox := rest
    drainRequested := if command = .drain then false else s.drainRequested }

/-- What ends a drain goes to the log and to whoever waits. -/
theorem closeDrain_eq (s : Station σ) (ticket : Option Nat) (outcome : Outcome) :
    ∃ log, s.closeDrain ticket outcome = { s with
      log := log
      replies := s.replies ++ ticket.toList.map (·, .ok outcome) } := by
  unfold closeDrain
  by_cases hdone : 0 < outcome.processed ∨ 0 < outcome.discarded
  · refine ⟨s.log.push (.drained outcome.processed outcome.discarded outcome.blocked), ?_⟩
    cases ticket <;> simp [hdone, note, reply]
  · refine ⟨s.log, ?_⟩
    cases ticket <;> simp [hdone, reply]

end Station

/-! ## Rounds -/

/-- Why an item at the head of the queue is dropped, and what is noted then. -/
inductive Item.Unfit (item : Item) (now maxItemDelay : Int) : Fate → Log.Event → Prop
  /-- It is too old. -/
  | stale (verdict : item.verdict now maxItemDelay = .stale) :
    Unfit item now maxItemDelay .stale (.staleItem item.data.timestamp now)
  /-- It holds nothing. -/
  | invalid (verdict : item.verdict now maxItemDelay = .invalid) :
    Unfit item now maxItemDelay .invalid .invalidItem

/-- A round of the worker: one drain, while it is run. -/
structure Round where
  /-- The command that it is run for. -/
  command : Command
  /-- When it began. -/
  now : Int
  /-- The items taken out so far, in order, with what became of them. -/
  popped : List (ItemId × Fate) := []
  /-- The item that the processor has. -/
  inHand : Option ItemId := none

namespace Round

/-- The round with one more item taken out and done with. -/
def pop (r : Round) (id : ItemId) (fate : Fate) : Round :=
  { r with popped := r.popped ++ [(id, fate)], inHand := none }

/-- What the round did, if it leaves this queue. -/
def outcome (r : Round) (queue : Queue) : Outcome :=
  ({ queue := queue, state := (), popped := r.popped } : Scan Unit).outcome

/-- The round is over: no item is out, and nothing waits or the head is blocked. -/
def Over (r : Round) (queue : Queue) : Prop :=
  r.inHand = none ∧ ∀ id item, queue.head? = some (id, item) →
    item.verdict r.now queue.maxItemDelay = .blocked

/-- A round is over once nothing waits. -/
theorem over_of_empty {r : Round} {queue : Queue} (hfree : r.inHand = none)
    (hempty : queue.waiting = []) : r.Over queue := by
  refine ⟨hfree, fun id item hhead => ?_⟩
  simp [Queue.head?, hempty] at hhead

end Round

/-! ## Dockets -/

/-- A station with what became of the commands of its worker. -/
structure Docket (σ : Type) where
  /-- The station. -/
  station : Station σ
  /-- The commands that were left in the mailbox, in order. -/
  sent : List Command := []
  /-- The rounds that are over, in order, with what they did. -/
  rounds : List (Round × Outcome) := []
  /-- The round that is run. -/
  round : Option Round := none
  /-- The commands that were in the mailbox when the worker stopped. -/
  dropped : List Command := []
  /-- How many errands were done. -/
  errands : Nat := 0
  /-- How many things the worker has done. -/
  moves : Nat := 0

namespace Docket

open Station

variable {σ : Type} {e : Engine σ} {d d' : Docket σ}

/-- The docket of a station that nothing has happened to. -/
def start (maxItemDelay : Int) (capacity : Nat) (output : σ) : Docket σ where
  station := fresh maxItemDelay capacity output

/-- One thing that the worker does. -/
inductive Move : Docket σ → Docket σ → Prop
  /-- It is started. -/
  | start (d : Docket σ) (unstarted : d.station.worker = .unstarted) :
    Move d { d with station := { d.station with worker := .starting } }
  /-- It begins. -/
  | begin (d : Docket σ) (starting : d.station.worker = .starting) :
    Move d { d with station := { d.station with worker := .serving }.note .workerStarted }
  /-- It takes a command and looks at the clock. -/
  | take (d : Docket σ) (command : Command) (rest : List Command) (idle : d.round = none)
      (serving : d.station.worker = .serving) (mailbox : d.station.mailbox = command :: rest)
      (drains : command ≠ .shutdown) :
    Move d { d with
      station := (d.station.takeCommand command rest).readClock
      round := some { command := command, now := d.station.clock } }
  /-- It drops the head. -/
  | discard (d : Docket σ) (r : Round) (id : ItemId) (item : Item) (fate : Fate) (event : Log.Event)
      (running : d.round = some r) (free : r.inHand = none)
      (head : d.station.queue.head? = some (id, item))
      (unfit : item.Unfit r.now d.station.queue.maxItemDelay fate event) :
    Move d { d with
      station := d.station.takeHead.note event
      round := some (r.pop id fate) }
  /-- It hands the head to the processor. -/
  | hand (d : Docket σ) (r : Round) (id : ItemId) (item : Item)
      (running : d.round = some r) (free : r.inHand = none)
      (head : d.station.queue.head? = some (id, item))
      (ready : item.verdict r.now d.station.queue.maxItemDelay = .ready) :
    Move d { d with
      station := d.station.takeHead
      round := some { r with inHand := some id } }
  /-- The processor is done with an item, or has failed. -/
  | handled (d : Docket σ) (r : Round) (id : ItemId) (failed : Bool)
      (running : d.round = some r) (held : r.inHand = some id) :
    Move d { d with
      station := if failed then d.station.note .processingFailed else d.station
      round := some (r.pop id (if failed then .failed else .processed)) }
  /-- It ends a round. -/
  | finish (d : Docket σ) (r : Round) (running : d.round = some r)
      (ended : r.Over d.station.queue) :
    Move d { d with
      station := d.station.closeDrain r.command.ticket? (r.outcome d.station.queue)
      rounds := d.rounds ++ [(r, r.outcome d.station.queue)]
      round := none }
  /-- It stops. -/
  | stop (d : Docket σ) (rest : List Command) (idle : d.round = none)
      (serving : d.station.worker = .serving) (mailbox : d.station.mailbox = .shutdown :: rest) :
    Move d { d with
      station := ((({ d.station with mailbox := [], worker := .stopped }.dropReplies rest).note
        .workerStopping).note .workerStopped)
      dropped := rest }

/-- One thing that happens to a station: somebody does an errand, or the worker does something. -/
inductive Step : Docket σ → Docket σ → Prop
  /-- Somebody does an errand. -/
  | errand (d : Docket σ) (job : Errand σ) (commands : List Command)
      (left : (d.station.errand job).mailbox = d.station.mailbox ++ commands) :
    Step d { d with
      station := d.station.errand job
      sent := d.sent ++ commands
      errands := d.errands + 1 }
  /-- The worker does something. -/
  | move (d d' : Docket σ) (moves : Move d d') : Step d { d' with moves := d.moves + 1 }

/-- What can have become of a docket after some things have happened. -/
abbrev Reaches : Docket σ → Docket σ → Prop := Relation.ReflTransGen Step

/-- The commands that rounds were begun for, in order. -/
def begun (d : Docket σ) : List Command :=
  d.rounds.map (·.1.command) ++ (d.round.map Round.command).toList

/-- The commands that took effect, in order: those that rounds were begun for, and the one that has
stopped the worker. -/
def effects (d : Docket σ) : List Command :=
  d.begun ++ if d.station.worker = .stopped then [.shutdown] else []

/-- Between two rounds the commands with rounds are those of the rounds that are over. -/
theorem begun_of_idle (h : d.round = none) : d.begun = d.rounds.map (·.1.command) := by
  simp [begun, h]

/-- As long as the worker has not stopped, its rounds are all that took effect. -/
@[simp] theorem effects_of_open (h : d.station.worker ≠ .stopped) : d.effects = d.begun := by
  simp [effects, h]

/-- Once it has stopped, what stopped it comes last. -/
@[simp] theorem effects_of_stopped (h : d.station.worker = .stopped) :
    d.effects = d.begun ++ [.shutdown] := by
  simp [effects, h]

/-! ## Commands are served in order -/

/-- The worker serves the commands that were left in the mailbox one after the other. -/
structure Ordered (d : Docket σ) : Prop where
  /-- The worker was not given up. -/
  present : d.station.worker ≠ .abandoned
  /-- Only a worker that serves runs rounds. -/
  busy : ∀ r, d.round = some r → d.station.worker = .serving
  /-- What was left has taken effect, waits, or was dropped. -/
  kept : d.sent = d.effects ++ d.station.mailbox ++ d.dropped
  /-- Nothing is dropped before the worker stops. -/
  undropped : d.station.worker ≠ .stopped → d.dropped = []
  /-- Nothing waits after that. -/
  emptied : d.station.worker = .stopped → d.station.mailbox = []
  /-- No round is run for the command that stops. -/
  drains : .shutdown ∉ d.begun

/-- Nothing was sent at the beginning. -/
theorem ordered_start (maxItemDelay : Int) (capacity : Nat) (output : σ) :
    (start maxItemDelay capacity output).Ordered where
  present := by simp [start, fresh]
  busy := by simp [start]
  kept := rfl
  undropped _ := rfl
  emptied _ := rfl
  drains := by simp [begun, start]

namespace Ordered

/-- As long as the worker has not stopped, it is enough to know what was begun and what waits. -/
theorem of_open (hpresent : d.station.worker ≠ .abandoned) (hopen : d.station.worker ≠ .stopped)
    (hbusy : ∀ r, d.round = some r → d.station.worker = .serving)
    (hkept : d.sent = d.begun ++ d.station.mailbox) (hundropped : d.dropped = [])
    (hdrains : .shutdown ∉ d.begun) : d.Ordered where
  present := hpresent
  busy := hbusy
  kept := by simp [effects_of_open hopen, hkept, hundropped]
  undropped _ := hundropped
  emptied h := absurd h hopen
  drains := hdrains

/-- What was sent has a round or waits, as long as the worker has not stopped. -/
theorem kept_of_open (h : d.Ordered) (hopen : d.station.worker ≠ .stopped) :
    d.sent = d.begun ++ d.station.mailbox := by
  rw [h.kept, effects_of_open hopen, h.undropped hopen, List.append_nil]

/-- A worker that has stopped has no round. -/
theorem idle_of_stopped (h : d.Ordered) (hstopped : d.station.worker = .stopped) :
    d.round = none := by
  by_contra hrunning
  obtain ⟨r, hr⟩ := Option.ne_none_iff_exists'.mp hrunning
  simp [h.busy r hr] at hstopped

/-- Commands are taken until the worker stops. -/
theorem takesCommands (h : d.Ordered) :
    d.station.worker.takesCommands = true ↔ d.station.worker ≠ .stopped := by
  have hpresent := h.present
  cases hworker : d.station.worker <;> simp_all [WorkerPhase.takesCommands]

/-- What changes none of it keeps the order. -/
theorem congr (h : d.Ordered) (hworker : d'.station.worker = d.station.worker)
    (hmailbox : d'.station.mailbox = d.station.mailbox) (hsent : d'.sent = d.sent)
    (hbegun : d'.begun = d.begun) (hdropped : d'.dropped = d.dropped)
    (hbusy : ∀ r', d'.round = some r' → ∃ r, d.round = some r) : d'.Ordered where
  present := hworker ▸ h.present
  busy r' hr' := by
    obtain ⟨r, hr⟩ := hbusy r' hr'
    exact hworker.trans (h.busy r hr)
  kept := by
    have heffects : d'.effects = d.effects := by simp only [effects, hbegun, hworker]
    rw [hsent, hmailbox, hdropped, heffects, h.kept]
  undropped hopen := hdropped.trans (h.undropped (hworker ▸ hopen))
  emptied hstopped := hmailbox.trans (h.emptied (hworker ▸ hstopped))
  drains := hbegun ▸ h.drains

/-- **Errands keep the order.** -/
theorem errand (h : d.Ordered) {job : Errand σ} {commands : List Command}
    (left : (d.station.errand job).mailbox = d.station.mailbox ++ commands) :
    Ordered { d with
      station := d.station.errand job
      sent := d.sent ++ commands
      errands := d.errands + 1 } := by
  obtain ⟨hleaves, -⟩ := Brings.of_left left
  by_cases hstopped : d.station.worker = .stopped
  · obtain rfl : commands = [] := hleaves.closed (by simp [hstopped, WorkerPhase.takesCommands])
    simp only [List.append_nil] at left ⊢
    exact h.congr hleaves.worker left rfl rfl rfl fun r hr => ⟨r, hr⟩
  · refine of_open ?_ ?_ ?_ ?_ (h.undropped hstopped) h.drains
    · simpa [hleaves.worker] using h.present
    · simpa [hleaves.worker] using hstopped
    · simpa [hleaves.worker] using h.busy
    · change d.sent ++ commands = d.begun ++ (d.station.errand job).mailbox
      rw [left, h.kept_of_open hstopped, List.append_assoc]

/-- **So does everything that the worker does.** -/
theorem move (h : d.Ordered) (hmove : Move d d') : d'.Ordered := by
  cases hmove with
  | start unstarted =>
    have hopen : d.station.worker ≠ .stopped := by simp [unstarted]
    refine of_open (by simp) (by simp) (fun r hr => ?_) (h.kept_of_open hopen) (h.undropped hopen)
      h.drains
    exact absurd (h.busy r hr) (by simp [unstarted])
  | begin starting =>
    have hopen : d.station.worker ≠ .stopped := by simp [starting]
    exact of_open (by simp [note]) (by simp [note]) (fun _ _ => rfl) (h.kept_of_open hopen)
      (h.undropped hopen) h.drains
  | take command rest idle serving mailbox drains =>
    have hopen : d.station.worker ≠ .stopped := by simp [serving]
    have hkept := h.kept_of_open hopen
    have hdrains := h.drains
    rw [begun_of_idle idle] at hkept hdrains
    refine of_open h.present hopen (fun _ _ => serving) ?_ (h.undropped hopen) ?_
    · simpa [begun, takeCommand, readClock, mailbox] using hkept
    · simpa [begun, drains.symm] using hdrains
  | discard r id item fate event running free head unfit =>
    refine h.congr rfl rfl rfl ?_ rfl fun _ _ => ⟨r, running⟩
    simp [begun, running, Round.pop]
  | hand r id item running free head ready =>
    refine h.congr rfl rfl rfl ?_ rfl fun _ _ => ⟨r, running⟩
    simp [begun, running]
  | handled r id failed running held =>
    refine h.congr ?_ ?_ rfl ?_ rfl fun _ _ => ⟨r, running⟩
    · cases failed <;> rfl
    · cases failed <;> rfl
    · simp [begun, running, Round.pop]
  | finish r running ended =>
    obtain ⟨log, hclosed⟩ := closeDrain_eq d.station r.command.ticket? (r.outcome d.station.queue)
    rw [hclosed]
    refine h.congr rfl rfl rfl ?_ rfl (by simp)
    simp [begun, running]
  | stop rest idle serving mailbox =>
    have hopen : d.station.worker ≠ .stopped := by simp [serving]
    have hkept := h.kept_of_open hopen
    rw [dropReplies_eq_append]
    exact
      { present := by simp [note]
        busy := fun r hr => by simp [idle] at hr
        kept := by
          rw [effects_of_stopped rfl, hkept, mailbox]
          simp [begun, note]
        undropped := fun hopen => absurd rfl hopen
        emptied := fun _ => rfl
        drains := h.drains }

/-- **Every step keeps the docket in order.** -/
theorem step (h : d.Ordered) (hstep : Step d d') : d'.Ordered := by
  cases hstep with
  | errand job commands left => exact h.errand left
  | move d' moves => exact (h.move moves).congr rfl rfl rfl rfl rfl fun r hr => ⟨r, hr⟩

/-- The order is kept by any run. -/
theorem run (h : d.Ordered) (hrun : Reaches d d') : d'.Ordered := by
  induction hrun with
  | refl => exact h
  | tail _ hstep ih => exact ih.step hstep

end Ordered

/-! ## Answers -/

/-- The tickets of flushes are those that were given, in order. -/
def Ticketed (d : Docket σ) : Prop :=
  d.sent.filterMap Command.ticket? = List.range d.station.nextTicket

/-- The answers that are due: to a flush that a round was run for, what it did, and to one that was in
the mailbox when the worker stopped, that there is none. -/
def answers (d : Docket σ) : List (Nat × Except CommandError Outcome) :=
  d.rounds.filterMap (fun (r, outcome) => r.command.ticket?.map (·, .ok outcome)) ++
    (d.dropped.filterMap Command.ticket?).map (·, .error .responseDropped)

/-- Those who wait are answered as is due. -/
def Answered (d : Docket σ) : Prop := d.station.replies = d.answers

/-- What the worker does gives no tickets. -/
theorem Move.nextTicket (hmove : Move d d') :
    d'.sent = d.sent ∧ d'.station.nextTicket = d.station.nextTicket := by
  cases hmove with
  | handled r id failed running held => cases failed <;> exact ⟨rfl, rfl⟩
  | finish r running ended =>
    obtain ⟨log, hclosed⟩ := closeDrain_eq d.station r.command.ticket? (r.outcome d.station.queue)
    rw [hclosed]
    exact ⟨rfl, rfl⟩
  | stop rest idle serving mailbox =>
    rw [dropReplies_eq_append]
    exact ⟨rfl, rfl⟩
  | _ => exact ⟨rfl, rfl⟩

/-- Every step gives tickets in order. -/
theorem Ticketed.step (h : d.Ticketed) (hstep : Step d d') : d'.Ticketed := by
  cases hstep with
  | errand job commands left =>
    obtain ⟨-, ids, hbrings⟩ := Brings.of_left left
    unfold Ticketed at h ⊢
    simp [h, hbrings.tickets]
  | move d' moves =>
    obtain ⟨hsent, hticket⟩ := moves.nextTicket
    unfold Ticketed at h ⊢
    simp [h, hsent, hticket]

/-- Every step answers as is due. -/
theorem Answered.step (h : d.Answered) (hd : d.Ordered) (hstep : Step d d') : d'.Answered := by
  unfold Answered at h ⊢
  cases hstep with
  | errand job commands left =>
    obtain ⟨-, ids, hbrings⟩ := Brings.of_left left
    exact hbrings.replies.trans h
  | move d' moves =>
    cases moves with
    | handled r id failed running held => cases failed <;> exact h
    | finish r running ended =>
      obtain ⟨log, hclosed⟩ := closeDrain_eq d.station r.command.ticket? (r.outcome d.station.queue)
      have hopen : d.station.worker ≠ .stopped := by simp [hd.busy r running]
      have hundropped := hd.undropped hopen
      rw [hclosed]
      cases hticket : r.command.ticket? with
      | none => simpa [answers, hundropped, hticket] using h
      | some ticket => simpa [answers, hundropped, hticket] using h
    | stop rest idle serving mailbox =>
      have hopen : d.station.worker ≠ .stopped := by simp [serving]
      have hundropped := hd.undropped hopen
      simp [dropReplies_eq_append, note, h, answers, hundropped]
    | _ => exact h

/-! ## The runs of a station -/

/-- Several errands can be done one after the other. -/
theorem reaches_errands (d : Docket σ) (jobs : List (Errand σ)) :
    ∃ d', Reaches d d' ∧ d'.station = d.station.errands jobs ∧ d'.round = d.round := by
  induction jobs generalizing d with
  | nil => exact ⟨d, .refl, rfl, rfl⟩
  | cons job jobs ih =>
    obtain ⟨commands, hleaves⟩ := d.station.leaves_errand job
    have hfirst := Step.errand d job commands hleaves.mailbox
    obtain ⟨d', hrest, hstation, hround⟩ := ih _
    exact ⟨d', .head hfirst hrest, hstation, hround⟩

/-- A turn of a drain can happen, with whatever the processor does. -/
theorem reaches_turn (he : Diligent e) {command : Command} {now : Int} {s next : Scan (Station σ)}
    (hturn : s.step? (processor e) now = some next) (hstation : d.station = s.station)
    (hround : d.round = some ⟨command, now, s.popped, none⟩) :
    ∃ d', Reaches d d' ∧ d'.station = next.station ∧
      d'.round = some ⟨command, now, next.popped, none⟩ := by
  obtain ⟨id, item, hhead, hcases⟩ := Scan.step?_eq_some_iff.mp hturn
  have hhead' : d.station.queue.head? = some (id, item) := by rw [hstation]; exact hhead
  have hdelay : s.queue.maxItemDelay = d.station.queue.maxItemDelay := by rw [hstation]; rfl
  rw [hdelay] at hcases
  obtain ⟨hverdict, rfl⟩ | ⟨hverdict, rfl⟩ | ⟨hverdict, rfl⟩ := hcases
  · refine ⟨_, .single (.move d _ (.discard d _ id item _ _ hround rfl hhead' (.stale hverdict))),
      ?_, rfl⟩
    rw [hstation]
    rfl
  · refine ⟨_, .single (.move d _ (.discard d _ id item _ _ hround rfl hhead' (.invalid hverdict))),
      ?_, rfl⟩
    rw [hstation]
    rfl
  · obtain ⟨jobs, hjobs⟩ := he item s.station.takeHead
    have hhand := Step.move d _ (.hand d _ id item hround rfl hhead' hverdict)
    obtain ⟨d₂, hmeanwhile, hstation₂, hround₂⟩ := reaches_errands { d with
      station := d.station.takeHead
      round := some ⟨command, now, s.popped, some id⟩
      moves := d.moves + 1 } jobs
    let failed := (e.handle item s.station.takeHead).2
    have hdone : d₂.station = (e.handle item s.station.takeHead).1 := by
      rw [hstation₂, hjobs, ← hstation]
    refine ⟨_, (Relation.ReflTransGen.head hhand hmeanwhile).tail
      (.move d₂ _ (.handled d₂ _ id failed hround₂ rfl)), ?_, ?_⟩
    · rw [station_process, afterHandling, ← hdone]
    · rw [Scan.popped_process]
      rfl

/-- So can all turns of a drain. -/
theorem reaches_run (he : Diligent e) {command : Command} {now : Int} (fuel : Nat)
    {s : Scan (Station σ)} (hstation : d.station = s.station)
    (hround : d.round = some ⟨command, now, s.popped, none⟩) :
    ∃ d', Reaches d d' ∧ d'.station = (s.run (processor e) now fuel).station ∧
      d'.round = some ⟨command, now, (s.run (processor e) now fuel).popped, none⟩ := by
  induction fuel generalizing d s with
  | zero => exact ⟨d, .refl, hstation, hround⟩
  | succ fuel ih =>
    cases hstep : s.step? (processor e) now with
    | none =>
      rw [Scan.run_of_step?_eq_none _ hstep]
      exact ⟨d, .refl, hstation, hround⟩
    | some next =>
      rw [Scan.run_succ_of_step? hstep]
      obtain ⟨d', hturn, hstation', hround'⟩ := reaches_turn he hstep hstation hround
      obtain ⟨d'', hrest, hlast⟩ := ih hstation' hround'
      exact ⟨d'', hturn.trans hrest, hlast⟩

/-- **A drain of the worker can happen as a round.** -/
theorem reaches_round (he : Diligent e) (hb : Honest e) {command : Command} {rest : List Command}
    (hidle : d.round = none) (hserving : d.station.worker = .serving)
    (hmailbox : d.station.mailbox = command :: rest) (hdrains : command ≠ .shutdown) :
    ∃ d', Reaches d d' ∧ d'.round = none ∧
      d'.station = ((d.station.takeCommand command rest).drained e).closeDrain command.ticket?
        ((d.station.takeCommand command rest).drain e).2 := by
  let taken := d.station.takeCommand command rest
  have htake := Step.move d _ (.take d command rest hidle hserving hmailbox hdrains)
  obtain ⟨d', hturns, hstation, hround⟩ := reaches_run (d := { d with
    station := taken.readClock
    round := some { command := command, now := d.station.clock }
    moves := d.moves + 1 }) he (taken.queue.length + (processor e).budget taken.clock taken.queue
      taken.readClock) (s := { queue := taken.queue, state := taken.readClock }) rfl rfl
  have hdrained : d'.station = taken.drained e := hstation
  refine ⟨_, (Relation.ReflTransGen.head htake hturns).tail
    (.move d' _ (.finish d' _ hround ⟨rfl, ?_⟩)), rfl, ?_⟩
  · intro id item hhead
    rw [hdrained] at hhead ⊢
    exact drained_ends hb taken hhead
  · rw [hdrained, outcome_drain]
    rfl

/-- **Whatever a station does can happen**, if its worker is not given up. -/
theorem reaches_step (he : Diligent e) (hb : Honest e) {s : Station σ} (hidle : d.round = none)
    (hstep : Station.Step e d.station s) (hpresent : s.worker ≠ .abandoned) :
    ∃ d', Reaches d d' ∧ d'.station = s ∧ d'.round = none := by
  cases hstep with
  | call c =>
    obtain ⟨commands, hleaves⟩ := d.station.leaves_errand (.call c)
    exact ⟨_, .single (.errand d (.call c) commands hleaves.mailbox), rfl, hidle⟩
  | start =>
    rcases d.station.startWorker_cases with ⟨hworker, heq⟩ | heq <;> rw [heq]
    · exact ⟨_, .single (.move d _ (.start d hworker)), rfl, hidle⟩
    · exact ⟨d, .refl, rfl, hidle⟩
  | abandon =>
    rcases d.station.abandonWorker_cases with ⟨-, replies, heq⟩ | heq
    · rw [heq] at hpresent
      exact absurd rfl hpresent
    · rw [heq]
      exact ⟨d, .refl, rfl, hidle⟩
  | shutdown _ sent =>
    obtain ⟨commands, hleaves⟩ := d.station.leaves_errand .shutdown
    have hsent : d.station.errand .shutdown = s := by simp [Station.errand, sent]
    exact ⟨_, .single (.errand d .shutdown commands hleaves.mailbox), hsent, hidle⟩
  | work _ works =>
    rcases step?_cases works with ⟨hstarting, rfl⟩ | ⟨rest, hserving, hmailbox, rfl⟩ |
      ⟨ticket, rest, answer, hserving, hmailbox, -⟩ | ⟨rest, hserving, hmailbox, rfl⟩
    · exact ⟨_, .single (.move d _ (.begin d hstarting)), rfl, hidle⟩
    · obtain ⟨d', hrun, hidle', hstation⟩ := reaches_round he hb hidle hserving hmailbox (by simp)
      exact ⟨d', hrun, hstation.trans (drain_eq_closeDrain e _).symm, hidle'⟩
    · obtain ⟨d', hrun, hidle', hstation⟩ := reaches_round he hb hidle hserving hmailbox (by simp)
      have hs := works.symm.trans (step?_of_flush e hserving hmailbox)
      refine ⟨d', hrun, hstation.trans ?_, hidle'⟩
      rw [Option.some.inj hs, reply_drain]
      rfl
    · exact ⟨_, .single (.move d _ (.stop d rest hidle hserving hmailbox)), rfl, hidle⟩

/-- A worker that was given up stays so. -/
theorem abandoned_of_step {s t : Station σ} (hstep : Station.Step e s t)
    (habandoned : s.worker = .abandoned) : t.worker = .abandoned := by
  cases hstep with
  | call c =>
    obtain ⟨commands, hleaves⟩ := s.leaves_errand (.call c)
    exact hleaves.worker.trans habandoned
  | start =>
    rcases s.startWorker_cases with ⟨hworker, -⟩ | heq
    · simp [habandoned] at hworker
    · rw [heq]
      exact habandoned
  | abandon => simp [abandonWorker, habandoned]
  | shutdown _ sent => simp [sendShutdown, send, habandoned, WorkerPhase.takesCommands] at sent
  | work _ works =>
    rw [step?_of_gone e (by simp [habandoned, WorkerPhase.takesCommands])] at works
    cases works

/-- All runs of a station whose worker is not given up are among those with its docket. -/
theorem exists_reaches (he : Diligent e) (hb : Honest e) {maxItemDelay : Int} {capacity : Nat}
    {output : σ} {s : Station σ}
    (hrun : Station.Reaches e (fresh maxItemDelay capacity output) s)
    (hpresent : s.worker ≠ .abandoned) :
    ∃ d, Reaches (start maxItemDelay capacity output) d ∧ d.station = s ∧ d.round = none := by
  induction hrun with
  | refl => exact ⟨_, .refl, rfl, rfl⟩
  | tail _ hstep ih =>
    obtain ⟨d, hbefore, rfl, hidle⟩ := ih fun h => hpresent (abandoned_of_step hstep h)
    obtain ⟨d', hafter, hstation, hidle'⟩ := reaches_step he hb hidle hstep hpresent
    exact ⟨d', hbefore.trans hafter, hstation, hidle'⟩

end Docket

end SessionReplay
