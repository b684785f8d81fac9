import SessionReplay.Proofs.Station.Chain

/-!
# The mail of a station

A drain that has been requested is known in two places: as a flag that the recording side looks at,
and as a command in the mailbox. A `Mail` is a station with all commands that were ever left in its
mailbox and all that were served. Its steps are finer than those of a station: the worker takes a
command, and while it drains, one turn after the other, anybody can go on doing things in between.

Whatever is done to a station, by whomever, `Leaves` says what it leaves in the mailbox: a command
that drains is left exactly when the flag is raised. The invariant is `Tallied`: as long as commands
are taken, the mailbox is what was left and not served, and the flag tells how many commands that
drain are in it. So requests collapse and none is forgotten (`drain_requests_collapse`).
-/

namespace SessionReplay

namespace Station

variable {σ : Type} {e : Engine σ} {s t u : Station σ}

/-! ## What anybody can do -/

/-- What anybody can do with a station, at any time. -/
inductive Errand (σ : Type) where
  /-- Makes a call. -/
  | call (c : Call σ)
  /-- Tells the worker to stop. -/
  | shutdown

/-- The station after an errand. -/
def errand (s : Station σ) : Errand σ → Station σ
  | .call c => s.call c
  | .shutdown =>
    match s.sendShutdown with
    | .ok sent => sent
    | .error _ => s

/-- The station after several errands. -/
def errands (s : Station σ) (es : List (Errand σ)) : Station σ := es.foldl errand s

/-- All that an engine does with the station is errands. -/
def Diligent (e : Engine σ) : Prop :=
  ∀ item s, ∃ es, (e.handle item s).1 = s.errands es

/-- Calls are errands. -/
theorem Orderly.diligent (he : Orderly e) : Diligent e := by
  intro item s
  obtain ⟨cs, hcs⟩ := he item s
  refine ⟨cs.map .call, hcs.trans ?_⟩
  exact (List.foldl_map (f := Errand.call) (g := errand)).symm

/-! ## What is left in the mailbox -/

/-- What is done leaves commands in the mailbox, if there is one, and one that drains exactly when it
raises the flag. -/
structure Leaves (s t : Station σ) (commands : List Command) : Prop where
  /-- The worker does nothing. -/
  worker : t.worker = s.worker
  /-- Nothing is taken from the mailbox. -/
  mailbox : t.mailbox = s.mailbox ++ commands
  /-- Nothing is left where no commands are taken. -/
  closed : s.worker.takesCommands = false → commands = []
  /-- A command that drains comes with the flag. -/
  flagged : s.drainRequested.toNat + commands.count .drain = t.drainRequested.toNat

namespace Leaves

/-- Whoever leaves the worker, the mailbox and the flag alone leaves nothing. -/
theorem nothing (hworker : t.worker = s.worker) (hmailbox : t.mailbox = s.mailbox)
    (hflag : t.drainRequested = s.drainRequested) : Leaves s t [] where
  worker := hworker
  mailbox := by simp [hmailbox]
  closed _ := rfl
  flagged := by simp [hflag]

/-- Commands are left one after the other. -/
theorem trans {commands commands' : List Command} (h : Leaves s t commands)
    (h' : Leaves t u commands') : Leaves s u (commands ++ commands') where
  worker := h'.worker.trans h.worker
  mailbox := by simp [h'.mailbox, h.mailbox]
  closed := by
    intro hclosed
    have hclosed' : t.worker.takesCommands = false := h.worker ▸ hclosed
    simp [h.closed hclosed, h'.closed hclosed']
  flagged := by
    have hfirst := h.flagged
    have hsecond := h'.flagged
    rw [List.count_append]
    omega

end Leaves

/-- A request does nothing if one is in the mailbox. -/
theorem requestDrain_of_requested (h : s.drainRequested = true) : s.requestDrain = s := by
  simp [requestDrain, h]

/-- It does nothing if nothing waits. -/
theorem requestDrain_of_empty (h : s.queue.waiting = []) : s.requestDrain = s := by
  simp [requestDrain, Queue.isEmpty, h]

/-- A request leaves a command only if it raises the flag. -/
theorem leaves_requestDrain (s : Station σ) : ∃ commands, Leaves s s.requestDrain commands := by
  cases hflag : s.drainRequested with
  | true =>
    rw [requestDrain_of_requested hflag]
    exact ⟨[], .nothing rfl rfl rfl⟩
  | false =>
    rcases s.requestDrain_cases with ⟨-, h⟩ | ⟨htakes, h⟩ | ⟨-, h⟩ <;> rw [h]
    · exact ⟨[], .nothing rfl rfl rfl⟩
    · exact ⟨[.drain],
        { worker := rfl
          mailbox := rfl
          closed := by simp [htakes]
          flagged := by simp [hflag] }⟩
    · exact ⟨[], .nothing rfl rfl rfl⟩

/-- A command that does not drain can be left at any time. -/
theorem leaves_send {command : Command} (hcommand : command ≠ .drain)
    (hsend : s.send command = some t) : Leaves s t [command] := by
  unfold send at hsend
  split at hsend
  · next htakes =>
    obtain rfl := Option.some.inj hsend
    exact
      { worker := rfl
        mailbox := rfl
        closed := by simp [htakes]
        flagged := by simp [hcommand] }
  · cases hsend

/-- **Every errand leaves commands.** -/
theorem leaves_errand (s : Station σ) (job : Errand σ) :
    ∃ commands, Leaves s (s.errand job) commands := by
  cases job with
  | shutdown =>
    unfold errand sendShutdown
    cases hsend : s.send .shutdown with
    | some sent => exact ⟨[.shutdown], leaves_send nofun hsend⟩
    | none => exact ⟨[], .nothing rfl rfl rfl⟩
  | call c =>
    cases c with
    | add content =>
      change ∃ commands, Leaves s (s.addItem content).2 commands
      rcases s.addItem_cases content with ⟨view, -, hadd⟩ | ⟨-, event, hadd⟩ <;> rw [hadd] <;>
        exact ⟨[], .nothing rfl rfl rfl⟩
    | requestDrain => exact s.leaves_requestDrain
    | sendFlush =>
      change ∃ commands, Leaves s (s.call .sendFlush) commands
      rcases s.call_sendFlush_cases with ⟨htakes, h⟩ | ⟨-, h⟩ <;> rw [h]
      · exact ⟨[.flush s.nextTicket],
          { worker := rfl
            mailbox := rfl
            closed := by simp [htakes]
            flagged := by simp }⟩
      · exact ⟨[], .nothing rfl rfl rfl⟩
    | finishJob id =>
      change ∃ commands, Leaves s (s.finishJob id) commands
      have hmodify : Leaves s (s.modifyItem id Item.finishJob) [] := .nothing rfl rfl rfl
      rcases s.finishJob_cases id with h | ⟨-, h⟩ <;> rw [h]
      · obtain ⟨commands, hrequest⟩ := (s.modifyItem id Item.finishJob).leaves_requestDrain
        exact ⟨_, hmodify.trans hrequest⟩
      · exact ⟨[], hmodify⟩
    | _ => exact ⟨[], .nothing rfl rfl rfl⟩

/-- Errands leave commands one after the other. -/
theorem leaves_errands (s : Station σ) (jobs : List (Errand σ)) :
    ∃ commands, Leaves s (s.errands jobs) commands := by
  induction jobs generalizing s with
  | nil => exact ⟨[], .nothing rfl rfl rfl⟩
  | cons job jobs ih =>
    obtain ⟨commands, hjob⟩ := s.leaves_errand job
    obtain ⟨commands', hjobs⟩ := ih (s.errand job)
    exact ⟨_, hjob.trans hjobs⟩

/-- **So does every turn of the worker**, if the engine does nothing but errands. -/
theorem leaves_turn (he : Diligent e) {now : Int} (hturn : Turn e now s t) :
    ∃ commands, Leaves s t commands := by
  cases hturn with
  | ready id item head verdict =>
    obtain ⟨jobs, hjobs⟩ := he item s.takeHead
    obtain ⟨commands, hleaves⟩ := s.takeHead.leaves_errands jobs
    have hhandled : Leaves s (e.handle item s.takeHead).1 commands := by
      rw [hjobs]
      exact (Leaves.nothing rfl rfl rfl : Leaves s s.takeHead []).trans hleaves
    unfold afterHandling
    split
    · refine ⟨commands ++ [], hhandled.trans (.nothing rfl rfl rfl)⟩
    · exact ⟨commands, hhandled⟩
  | _ => exact ⟨[], .nothing rfl rfl rfl⟩

/-- Where no commands are taken, there is no worker that does anything. -/
theorem step?_of_gone (e : Engine σ) (h : s.worker.takesCommands = false) : s.step? e = none := by
  unfold step?
  cases hworker : s.worker <;> simp [hworker, WorkerPhase.takesCommands] at h ⊢

/-- A flush is answered with the outcome of a drain. -/
theorem step?_of_flush (e : Engine σ) {ticket : Nat} {rest : List Command}
    (hserving : s.worker = .serving) (hmailbox : s.mailbox = .flush ticket :: rest) :
    s.step? e = some (({ s with mailbox := rest }.drain e).1.reply ticket
      (.ok ({ s with mailbox := rest }.drain e).2)) := by
  obtain ⟨⟩ := s
  cases hserving
  cases hmailbox
  rfl

/-! ## The worker comes and goes -/

/-- A worker is started once. -/
theorem startWorker_cases (s : Station σ) :
    (s.worker = .unstarted ∧ s.startWorker.2 = { s with worker := .starting }) ∨
      s.startWorker.2 = s := by
  unfold startWorker
  cases hworker : s.worker <;> simp

/-- A worker is given up only before it is started, and then its mailbox is left behind. -/
theorem abandonWorker_cases (s : Station σ) :
    (s.worker = .unstarted ∧ ∃ replies, s.abandonWorker =
      { s with mailbox := [], worker := .abandoned, replies := replies }) ∨
      s.abandonWorker = s := by
  unfold abandonWorker
  cases hworker : s.worker with
  | unstarted =>
    obtain ⟨replies, hdrop⟩ :=
      dropReplies_eq { s with mailbox := [], worker := .abandoned } s.mailbox
    exact .inl ⟨rfl, replies, hdrop⟩
  | _ => exact .inr rfl

/-! ## The end of a drain -/

/-- The station at the end of a drain: what was done is noted, and whoever waits for it is told. -/
def closeDrain (s : Station σ) (ticket : Option Nat) (outcome : Outcome) : Station σ :=
  let noted :=
    if 0 < outcome.processed ∨ 0 < outcome.discarded then
      s.note (.drained outcome.processed outcome.discarded outcome.blocked)
    else s
  match ticket with
  | none => noted
  | some ticket => noted.reply ticket (.ok outcome)

/-- A drain ends with the note of what was done. -/
theorem drain_eq_closeDrain (e : Engine σ) (s : Station σ) :
    (s.drain e).1 = (s.drained e).closeDrain none (s.drain e).2 := by
  unfold drain closeDrain
  dsimp only
  split <;> simp_all <;> rfl

/-- A flush ends with it and with the answer. -/
theorem reply_drain (e : Engine σ) (s : Station σ) (ticket : Nat) :
    (s.drain e).1.reply ticket (.ok (s.drain e).2)
      = (s.drained e).closeDrain (some ticket) (s.drain e).2 := by
  rw [drain_eq_closeDrain]
  rfl

/-- The end of a drain leaves no command. -/
theorem leaves_closeDrain (s : Station σ) (ticket : Option Nat) (outcome : Outcome) :
    Leaves s (s.closeDrain ticket outcome) [] := by
  unfold closeDrain
  cases ticket <;> dsimp only <;> split <;> exact .nothing rfl rfl rfl

end Station

/-! ## Histories -/

/-- A station with the commands of its worker. -/
structure Mail (σ : Type) where
  /-- The station. -/
  station : Station σ
  /-- While the worker drains: when it began, and the ticket for the answer, if there is one. -/
  draining : Option (Int × Option Nat) := none
  /-- The commands that were left in the mailbox, in order. -/
  sent : List Command := []
  /-- The commands that were served, in order. -/
  served : List Command := []

namespace Mail

open Station

variable {σ : Type} {e : Engine σ} {m m' : Mail σ}

/-- The mail of a station that nothing has happened to. -/
def start (maxItemDelay : Int) (capacity : Nat) (output : σ) : Mail σ where
  station := fresh maxItemDelay capacity output

/-- One thing that happens to a station: somebody does an errand, or the worker takes a command, has
a turn of the drain that it is at, or ends the drain. -/
inductive Step (e : Engine σ) : Mail σ → Mail σ → Prop
  /-- Somebody does an errand. -/
  | errand (m : Mail σ) (job : Errand σ) (commands : List Command)
      (left : (m.station.errand job).mailbox = m.station.mailbox ++ commands) :
    Step e m { m with station := m.station.errand job, sent := m.sent ++ commands }
  /-- The worker is started. -/
  | start (m : Mail σ) : Step e m { m with station := m.station.startWorker.2 }
  /-- The worker is given up. -/
  | abandon (m : Mail σ) : Step e m { m with station := m.station.abandonWorker }
  /-- The worker begins. -/
  | begin (m : Mail σ) (starting : m.station.worker = .starting) :
    Step e m { m with station := { m.station with worker := .serving }.note .workerStarted }
  /-- The worker takes a request for a drain. -/
  | drain (m : Mail σ) (rest : List Command) (idle : m.draining = none)
      (serving : m.station.worker = .serving) (mailbox : m.station.mailbox = .drain :: rest) :
    Step e m { m with
      station := { m.station with mailbox := rest, drainRequested := false }.readClock
      draining := some (m.station.clock, none)
      served := m.served ++ [.drain] }
  /-- The worker takes a request for a drain and an answer. -/
  | flush (m : Mail σ) (ticket : Nat) (rest : List Command) (idle : m.draining = none)
      (serving : m.station.worker = .serving)
      (mailbox : m.station.mailbox = .flush ticket :: rest) :
    Step e m { m with
      station := { m.station with mailbox := rest }.readClock
      draining := some (m.station.clock, some ticket)
      served := m.served ++ [.flush ticket] }
  /-- The worker has a turn. -/
  | turn (m : Mail σ) (now : Int) (ticket : Option Nat) (s : Station σ) (commands : List Command)
      (draining : m.draining = some (now, ticket)) (taken : Turn e now m.station s)
      (left : s.mailbox = m.station.mailbox ++ commands) :
    Step e m { m with station := s, sent := m.sent ++ commands }
  /-- The worker ends a drain. -/
  | finish (m : Mail σ) (now : Int) (ticket : Option Nat) (outcome : Outcome)
      (draining : m.draining = some (now, ticket)) :
    Step e m { m with station := m.station.closeDrain ticket outcome, draining := none }
  /-- The worker stops. -/
  | stop (m : Mail σ) (rest : List Command) (idle : m.draining = none)
      (serving : m.station.worker = .serving) (mailbox : m.station.mailbox = .shutdown :: rest) :
    Step e m { m with
      station := ((({ m.station with mailbox := [], worker := .stopped }.dropReplies rest).note
        .workerStopping).note .workerStopped)
      served := m.served ++ [.shutdown] }

/-- What can have become of the mail of a station after some things have happened. -/
abbrev Reaches (e : Engine σ) : Mail σ → Mail σ → Prop := Relation.ReflTransGen (Step e)

/-- The flag and the mailbox agree. -/
structure Tallied (m : Mail σ) : Prop where
  /-- The flag tells how many commands that drain wait. -/
  flagged : m.station.worker.takesCommands = true →
    m.station.mailbox.count .drain = m.station.drainRequested.toNat
  /-- What was left waits or was served. -/
  kept : m.station.worker.takesCommands = true → m.sent = m.served ++ m.station.mailbox
  /-- At most one command that drains was left more than was served. -/
  once : m.sent.count .drain ≤ m.served.count .drain + 1
  /-- Only a worker that serves drains. -/
  busy : m.draining ≠ none → m.station.worker = .serving

/-- Nothing is requested at the beginning. -/
theorem tallied_start (maxItemDelay : Int) (capacity : Nat) (output : σ) :
    (start maxItemDelay capacity output).Tallied where
  flagged _ := rfl
  kept _ := rfl
  once := Nat.zero_le _
  busy := absurd rfl

namespace Tallied

/-- Where commands are taken, no more than one that drains waits. -/
theorem of_takes {m : Mail σ}
    (flagged : m.station.mailbox.count .drain = m.station.drainRequested.toNat)
    (kept : m.sent = m.served ++ m.station.mailbox)
    (busy : m.draining ≠ none → m.station.worker = .serving) : m.Tallied where
  flagged _ := flagged
  kept _ := kept
  once := by
    rw [kept, List.count_append, flagged]
    exact Nat.add_le_add_left (Bool.toNat_le _) _
  busy := busy

/-- Where no commands are taken, the mailbox does not matter. -/
theorem of_gone {m : Mail σ} (hgone : m.station.worker.takesCommands = false)
    (once : m.sent.count .drain ≤ m.served.count .drain + 1)
    (busy : m.draining ≠ none → m.station.worker = .serving) : m.Tallied where
  flagged := by simp [hgone]
  kept := by simp [hgone]
  once := once
  busy := busy

/-- **What is left keeps the tally.** -/
theorem leaves (h : m.Tallied) {s : Station σ} {commands : List Command}
    (hleaves : Leaves m.station s commands) :
    Tallied { m with station := s, sent := m.sent ++ commands } := by
  have hbusy : m.draining ≠ none → s.worker = .serving :=
    fun hdraining => hleaves.worker.trans (h.busy hdraining)
  cases htakes : m.station.worker.takesCommands with
  | true =>
    refine of_takes ?_ ?_ hbusy
    · have hflag := hleaves.flagged
      simp [hleaves.mailbox, h.flagged htakes, hflag]
    · simp [hleaves.mailbox, h.kept htakes]
  | false =>
    have hclosed : s.worker.takesCommands = false := hleaves.worker ▸ htakes
    have hnothing := hleaves.closed htakes
    exact of_gone hclosed (by simp [hnothing, h.once]) hbusy

/-- **Every step keeps the tally.** A command that is taken for a requested drain was the only one, and with
it the flag is lowered. -/
theorem step (he : Diligent e) (h : m.Tallied) (hstep : Step e m m') : m'.Tallied := by
  cases hstep with
  | errand job commands left =>
    obtain ⟨commands', hleaves⟩ := m.station.leaves_errand job
    obtain rfl : commands = commands' :=
      List.append_cancel_left (left.symm.trans hleaves.mailbox)
    exact h.leaves hleaves
  | turn now ticket s commands draining taken left =>
    obtain ⟨commands', hleaves⟩ := leaves_turn he taken
    obtain rfl : commands = commands' :=
      List.append_cancel_left (left.symm.trans hleaves.mailbox)
    exact h.leaves hleaves
  | finish now ticket outcome draining =>
    have hclosed := h.leaves (m.station.leaves_closeDrain ticket outcome)
    rw [List.append_nil] at hclosed
    exact { hclosed with busy := absurd rfl }
  | start =>
    rcases m.station.startWorker_cases with ⟨hworker, heq⟩ | heq <;> rw [heq]
    · have htakes : m.station.worker.takesCommands = true := by rw [hworker]; rfl
      refine of_takes (h.flagged htakes) (h.kept htakes) fun hdraining => ?_
      exact absurd (h.busy hdraining) (by simp [hworker])
    · exact h
  | abandon =>
    rcases m.station.abandonWorker_cases with ⟨hworker, replies, heq⟩ | heq <;> rw [heq]
    · refine of_gone rfl h.once fun hdraining => ?_
      exact absurd (h.busy hdraining) (by simp [hworker])
    · exact h
  | begin starting =>
    have htakes : m.station.worker.takesCommands = true := by rw [starting]; rfl
    exact of_takes (h.flagged htakes) (h.kept htakes) fun _ => rfl
  | drain rest idle serving mailbox =>
    have htakes : m.station.worker.takesCommands = true := by rw [serving]; rfl
    have hcount := h.flagged htakes
    have hle := Bool.toNat_le m.station.drainRequested
    rw [mailbox, List.count_cons_self] at hcount
    refine of_takes ?_ ?_ fun _ => serving
    · change rest.count .drain = 0
      omega
    · simp [h.kept htakes, mailbox, readClock]
  | flush ticket rest idle serving mailbox =>
    have htakes : m.station.worker.takesCommands = true := by rw [serving]; rfl
    have hcount := h.flagged htakes
    rw [mailbox, List.count_cons_of_ne (by simp)] at hcount
    refine of_takes hcount ?_ fun _ => serving
    simp [h.kept htakes, mailbox, readClock]
  | stop rest idle serving mailbox =>
    obtain ⟨replies, hdrop⟩ :=
      dropReplies_eq { m.station with mailbox := [], worker := .stopped } rest
    rw [hdrop]
    exact of_gone rfl (by simp [h.once]) fun hdraining => absurd idle hdraining

/-- The tally is right after any run. -/
theorem run (he : Diligent e) (h : m.Tallied) (hrun : Reaches e m m') : m'.Tallied := by
  induction hrun with
  | refl => exact h
  | tail _ hstep ih => exact ih.step he hstep

end Tallied

/-! ## What only grows, and what stays -/

/-- What was sent stays sent. -/
theorem sent_of_reaches (hrun : Reaches e m m') : ∃ more, m'.sent = m.sent ++ more := by
  induction hrun with
  | refl => exact ⟨[], by simp⟩
  | tail _ hstep ih =>
    obtain ⟨more, hmore⟩ := ih
    cases hstep with
    | errand job commands left => exact ⟨more ++ commands, by simp [hmore]⟩
    | turn now ticket s commands draining taken left => exact ⟨more ++ commands, by simp [hmore]⟩
    | _ => exact ⟨more, hmore⟩

/-- Once no commands are taken, the worker is not at anything and nothing is sent or served. -/
theorem Tallied.step_of_gone (h : m.Tallied) (hgone : m.station.worker.takesCommands = false)
    (hstep : Step e m m') : m'.station.worker = m.station.worker ∧ m'.sent = m.sent ∧
      m'.served = m.served ∧ m'.draining = none := by
  have hserving : m.station.worker ≠ .serving := by
    intro hworker
    simp [hworker, WorkerPhase.takesCommands] at hgone
  have hidle : m.draining = none := by
    by_contra hdraining
    exact hserving (h.busy hdraining)
  cases hstep with
  | errand job commands left =>
    obtain ⟨commands', hleaves⟩ := m.station.leaves_errand job
    obtain rfl : commands = commands' :=
      List.append_cancel_left (left.symm.trans hleaves.mailbox)
    exact ⟨hleaves.worker, by simp [hleaves.closed hgone], rfl, hidle⟩
  | start =>
    rcases m.station.startWorker_cases with ⟨hworker, -⟩ | heq
    · simp [hworker, WorkerPhase.takesCommands] at hgone
    · rw [heq]
      exact ⟨rfl, rfl, rfl, hidle⟩
  | abandon =>
    rcases m.station.abandonWorker_cases with ⟨hworker, -⟩ | heq
    · simp [hworker, WorkerPhase.takesCommands] at hgone
    · rw [heq]
      exact ⟨rfl, rfl, rfl, hidle⟩
  | begin starting => simp [starting, WorkerPhase.takesCommands] at hgone
  | turn now ticket s commands draining taken left => simp [hidle] at draining
  | finish now ticket outcome draining => simp [hidle] at draining
  | drain rest idle serving mailbox => exact absurd serving hserving
  | flush ticket rest idle serving mailbox => exact absurd serving hserving
  | stop rest idle serving mailbox => exact absurd serving hserving

/-- So it stays. -/
theorem Tallied.run_of_gone (he : Diligent e) (h : m.Tallied)
    (hgone : m.station.worker.takesCommands = false) (hrun : Reaches e m m') :
    m'.station.worker = m.station.worker ∧ m'.sent = m.sent ∧ m'.served = m.served ∧
      m'.draining = none := by
  induction hrun with
  | refl =>
    refine ⟨rfl, rfl, rfl, ?_⟩
    by_contra hdraining
    simp [h.busy hdraining, WorkerPhase.takesCommands] at hgone
  | tail hbefore hstep ih =>
    obtain ⟨hworker, hsent, hserved, -⟩ := ih
    obtain ⟨hworker', hsent', hserved', hidle⟩ :=
      (h.run he hbefore).step_of_gone (hworker ▸ hgone) hstep
    exact ⟨hworker'.trans hworker, hsent'.trans hsent, hserved'.trans hserved, hidle⟩

/-! ## The runs of a station -/

/-- The turns of a drain can happen one after the other. -/
theorem reaches_turns (he : Diligent e) {now : Int} {ticket : Option Nat} {s : Station σ}
    (hdraining : m.draining = some (now, ticket)) (hturns : Turns e now m.station s) :
    ∃ m', Reaches e m m' ∧ m'.station = s ∧ m'.draining = some (now, ticket) := by
  induction hturns with
  | refl => exact ⟨m, .refl, rfl, hdraining⟩
  | tail _ hturn ih =>
    obtain ⟨m', hrun, rfl, hdraining'⟩ := ih
    obtain ⟨commands, hleaves⟩ := leaves_turn he hturn
    exact ⟨_, hrun.tail (.turn m' now ticket _ commands hdraining' hturn hleaves.mailbox), rfl,
      hdraining'⟩

/-- **Whatever a station does can happen**, with everything that is sent and served. -/
theorem reaches_step (he : Diligent e) {s : Station σ} (hidle : m.draining = none)
    (hstep : Station.Step e m.station s) :
    ∃ m', Reaches e m m' ∧ m'.station = s ∧ m'.draining = none := by
  cases hstep with
  | call c =>
    obtain ⟨commands, hleaves⟩ := m.station.leaves_errand (.call c)
    exact ⟨_, .single (.errand m (.call c) commands hleaves.mailbox), rfl, hidle⟩
  | start => exact ⟨_, .single (.start m), rfl, hidle⟩
  | abandon => exact ⟨_, .single (.abandon m), rfl, hidle⟩
  | shutdown _ sent =>
    obtain ⟨commands, hleaves⟩ := m.station.leaves_errand .shutdown
    have hsent : m.station.errand .shutdown = s := by simp [Station.errand, sent]
    exact ⟨_, .single (.errand m .shutdown commands hleaves.mailbox), hsent, hidle⟩
  | work _ works =>
    rcases step?_cases works with ⟨hstarting, rfl⟩ | ⟨rest, hserving, hmailbox, rfl⟩ |
      ⟨ticket, rest, answer, hserving, hmailbox, -⟩ | ⟨rest, hserving, hmailbox, rfl⟩
    · exact ⟨_, .single (.begin m hstarting), rfl, hidle⟩
    · let served : Station σ := { m.station with mailbox := rest, drainRequested := false }
      obtain ⟨m', hrun, hstation, hdraining⟩ := reaches_turns (m := { m with
        station := served.readClock
        draining := some (m.station.clock, none)
        served := m.served ++ [.drain] }) he rfl (drain_turns e served)
      refine ⟨_, (hrun.head (.drain m rest hidle hserving hmailbox)).tail
        (.finish m' m.station.clock none (served.drain e).2 hdraining), ?_, rfl⟩
      rw [hstation, drain_eq_closeDrain]
    · let served : Station σ := { m.station with mailbox := rest }
      have hs : s = (served.drain e).1.reply ticket (.ok (served.drain e).2) :=
        Option.some.inj (works.symm.trans (step?_of_flush e hserving hmailbox))
      obtain ⟨m', hrun, hstation, hdraining⟩ := reaches_turns (m := { m with
        station := served.readClock
        draining := some (m.station.clock, some ticket)
        served := m.served ++ [.flush ticket] }) he rfl (drain_turns e served)
      refine ⟨_, (hrun.head (.flush m ticket rest hidle hserving hmailbox)).tail
        (.finish m' m.station.clock (some ticket) (served.drain e).2 hdraining), ?_, rfl⟩
      rw [hstation, hs, reply_drain]
    · exact ⟨_, .single (.stop m rest hidle hserving hmailbox), rfl, hidle⟩

/-- All runs of a station are among those with its mail. -/
theorem exists_reaches (he : Diligent e) {maxItemDelay : Int} {capacity : Nat} {output : σ}
    {s : Station σ} (hrun : Station.Reaches e (fresh maxItemDelay capacity output) s) :
    ∃ m, Reaches e (start maxItemDelay capacity output) m ∧ m.station = s ∧ m.draining = none := by
  induction hrun with
  | refl => exact ⟨_, .refl, rfl, rfl⟩
  | tail _ hstep ih =>
    obtain ⟨m, hbefore, rfl, hidle⟩ := ih
    obtain ⟨m', hafter, hstation, hidle'⟩ := reaches_step he hidle hstep
    exact ⟨m', hbefore.trans hafter, hstation, hidle'⟩

/-! ## Requests collapse -/

/-- **Requests for a drain collapse, and none is forgotten.** After any errands of anybody, also of
the engine while the worker drains, in any order with what the worker does:

* as long as commands are taken, exactly one command that drains is in the mailbox if the flag is
  raised and none if not, and a command that was left waits there until it is served;
* a request then leaves the flag raised if anything waits, and so one such command in the mailbox;
* of all requests that are made until the next command that drains is served, one at most leaves such
  a command, and none if the flag is raised;
* a request that is made when nothing waits changes nothing;
* once no commands are taken, a request changes nothing but the log, and the worker is not at anything
  and serves nothing any more. -/
theorem drain_requests_collapse (he : Diligent e) {maxItemDelay : Int} {capacity : Nat} {output : σ}
    (hrun : Reaches e (start maxItemDelay capacity output) m) :
    (m.station.worker.takesCommands = true →
      m.station.mailbox.count .drain = (if m.station.drainRequested then 1 else 0) ∧
      m.sent = m.served ++ m.station.mailbox) ∧
    (m.station.worker.takesCommands = true → m.station.queue.waiting ≠ [] →
      m.station.requestDrain.drainRequested = true ∧
      m.station.requestDrain.mailbox.count .drain = 1) ∧
    (∀ m', Reaches e m m' → m'.served.count .drain = m.served.count .drain →
      m'.sent.count .drain ≤ m.sent.count .drain + 1 ∧
      (m.station.drainRequested = true → m'.sent.count .drain = m.sent.count .drain)) ∧
    (m.station.queue.waiting = [] → m.station.requestDrain = m.station) ∧
    (m.station.worker.takesCommands = false →
      (m.station.requestDrain = m.station ∨
        m.station.requestDrain = m.station.note .drainRequestFailed) ∧
      ∀ m', Reaches e m m' → m'.draining = none ∧ m'.served = m.served ∧
        m'.station.step? e = none) := by
  have h : m.Tallied := (tallied_start maxItemDelay capacity output).run he hrun
  refine ⟨fun htakes => ⟨?_, h.kept htakes⟩, ?request, ?scans, requestDrain_of_empty, ?gone⟩
  · rw [h.flagged htakes]
    cases m.station.drainRequested <;> rfl
  case request =>
    intro htakes hwaiting
    have hraised : m.station.requestDrain.drainRequested = true := by
      rcases m.station.requestDrain_cases with ⟨hskip, heq⟩ | ⟨-, heq⟩ | ⟨hgone, -⟩
      · rw [heq]
        exact hskip.resolve_left hwaiting
      · rw [heq]
      · simp [htakes] at hgone
    obtain ⟨commands, hleaves⟩ := m.station.leaves_requestDrain
    have hcount := (h.leaves hleaves).flagged (hleaves.worker ▸ htakes)
    exact ⟨hraised, hcount.trans (congrArg Bool.toNat hraised)⟩
  case scans =>
    intro m' hrun' hserved
    have honce := (h.run he hrun').once
    obtain ⟨more, hmore⟩ := sent_of_reaches hrun'
    cases htakes : m.station.worker.takesCommands with
    | true =>
      have hsent : m.sent.count .drain
          = m.served.count .drain + m.station.drainRequested.toNat := by
        rw [h.kept htakes, List.count_append, h.flagged htakes]
      refine ⟨by omega, fun hrequested => ?_⟩
      rw [hrequested, Bool.toNat_true] at hsent
      rw [hmore, List.count_append] at honce ⊢
      omega
    | false =>
      obtain ⟨-, hsent, -⟩ := h.run_of_gone he htakes hrun'
      exact ⟨by simp [hsent], fun _ => by rw [hsent]⟩
  case gone =>
    intro hgone
    refine ⟨?_, fun m' hrun' => ?_⟩
    · rcases m.station.requestDrain_cases with ⟨-, heq⟩ | ⟨htakes, -⟩ | ⟨-, heq⟩
      · exact .inl heq
      · simp [hgone] at htakes
      · exact .inr heq
    · obtain ⟨hworker, -, hserved, hidle⟩ := h.run_of_gone he hgone hrun'
      exact ⟨hidle, hserved, step?_of_gone e (hworker ▸ hgone)⟩

/-- Two batches of touches and two requests before the worker begins lead to one drain. -/
theorem drain_requests_collapse_ledger :
    ∃ m : Mail Ledger, Reaches Ledger.engine (start 1000 5 {}) m ∧
      m.station.queue.waiting = [0, 1] ∧ m.sent = [.drain] ∧
      m.station.mailbox.count .drain = (if m.station.drainRequested then 1 else 0) ∧
      m.sent = m.served ++ m.station.mailbox := by
  let view : ViewContext := ⟨"a", "s", "v"⟩
  let touched : Errand Ledger := .call (.add (.touch [⟨0, .pointer {}⟩]))
  have hfirst : Reaches Ledger.engine (start 1000 5 {}) _ :=
    ((Relation.ReflTransGen.single (.errand _ (.call (.activate (some view))) [] rfl)).tail
      (.errand _ touched [] rfl)).tail (.errand _ (.call .requestDrain) [.drain] rfl)
  have hrun : Reaches Ledger.engine (start 1000 5 {}) _ :=
    ((hfirst.tail (.errand _ touched [] rfl)).tail (.errand _ (.call .requestDrain) [] rfl)).tail
      (.start _)
  exact ⟨_, hrun, rfl, rfl, (drain_requests_collapse ledger_orderly.diligent hrun).1 rfl⟩

end Mail

end SessionReplay
