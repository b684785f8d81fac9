import SessionReplay.Proofs.Output.News
import SessionReplay.Proofs.Recording.Deeds

/-!
# Changes of view in what is written

A change of view is told with the first snapshot that is shown in the new view, if it is told at
all. Every item remembers the view of the item accepted before it, and a snapshot tells of the
change between that view and its own. So a change is lost when the item that remembers it is a
batch of touches, or a snapshot that is dropped or shows nothing.

A `Journal` is a recording with the snapshots shown so far, and its steps look into the drains: the
worker takes a command, makes one turn after the other, and ends. With a host that lets no write
fail, `transition_told_iff` says exactly when a change of view is told, and
`transition_untold_after_touch` gives a run in which it is not.
-/

namespace SessionReplay

/-- A recording with the snapshots shown so far: those handed to the worker with at least one
wireframe. -/
structure Journal where
  /-- The recording. -/
  recording : Recording
  /-- The snapshots shown so far, in order. -/
  shown : List Item := []
  /-- The time that the drain which is going on goes by. -/
  draining : Option Int := none

namespace Journal

open Station

/-- The station of the recording. -/
def station (j : Journal) : Station Output := j.recording.station

/-- The journal with another station. -/
def withStation (j : Journal) (s : Station Output) : Journal :=
  { j with recording := { j.recording with station := s } }

/-- The journal with another station and other snapshots shown. -/
def seeing (j : Journal) (s : Station Output) (shown : List Item) : Journal :=
  { j.withStation s with shown := shown }

/-- The view that was shown last. -/
def lastShown (j : Journal) : Option ViewContext :=
  j.shown.getLast?.map fun item => item.data.current

/-- A drain begins at the present time. -/
def beginDrain (j : Journal) (s : Station Output) : Journal :=
  { j.withStation s.readClock with draining := some s.clock }

/-- A deed of somebody who lets no write fail. -/
def Calm (d : Deed) : Prop :=
  ∀ script, d = .host script → ∀ turn ∈ script, turn.fault = .none

/-- One thing that happens to a recording, seen from within the drains. -/
inductive Step : Journal → Journal → Prop
  /-- Somebody does something. -/
  | deed (j : Journal) (d : Deed) (calm : Calm d) :
    Step j { j with recording := j.recording.perform d }
  /-- The worker begins to serve. -/
  | wake (j : Journal) (starting : j.station.worker = .starting) :
    Step j (j.withStation ({ j.station with worker := .serving }.note .workerStarted))
  /-- The worker begins a drain that was requested. -/
  | drain (j : Journal) (rest : List Command) (idle : j.draining = none)
      (serving : j.station.worker = .serving) (mail : j.station.mailbox = .drain :: rest) :
    Step j (j.beginDrain { j.station with mailbox := rest, drainRequested := false })
  /-- The worker begins a drain that somebody waits for. -/
  | flush (j : Journal) (ticket : Nat) (rest : List Command) (idle : j.draining = none)
      (serving : j.station.worker = .serving) (mail : j.station.mailbox = .flush ticket :: rest) :
    Step j (j.beginDrain { j.station with mailbox := rest })
  /-- The worker is handed a snapshot that shows something. -/
  | exhibit (j : Journal) (now : Int) (id : ItemId) (item : Item) (busy : j.draining = some now)
      (head : j.station.queue.head? = some (id, item))
      (ready : item.verdict now j.station.queue.maxItemDelay = .ready)
      (shows : item.wireframes ≠ []) :
    Step j (j.seeing (j.station.takeHead.afterHandling engine item) (j.shown ++ [item]))
  /-- The worker makes another turn. -/
  | pass (j : Journal) (now : Int) (s : Station Output) (busy : j.draining = some now)
      (turns : Turn engine now j.station s)
      (hidden : ∀ id item, j.station.queue.head? = some (id, item) →
        item.verdict now j.station.queue.maxItemDelay = .ready → item.wireframes = []) :
    Step j (j.withStation s)
  /-- A drain ends. -/
  | finish (j : Journal) (now : Int) (busy : j.draining = some now)
      (ends : ∀ id item, j.station.queue.head? = some (id, item) →
        item.verdict now j.station.queue.maxItemDelay = .blocked) :
    Step j { j with draining := none }
  /-- The worker answers a flush. -/
  | reply (j : Journal) (ticket : Nat) (answer : Except CommandError Outcome) :
    Step j (j.withStation (j.station.reply ticket answer))
  /-- The worker stops. -/
  | stop (j : Journal) (rest : List Command) (idle : j.draining = none)
      (serving : j.station.worker = .serving) (mail : j.station.mailbox = .shutdown :: rest) :
    Step j (j.withStation
      (((({ j.station with mailbox := [], worker := .stopped } : Station Output).dropReplies
        rest).note .workerStopping).note .workerStopped))

/-- What can have become of a recording after some steps. -/
abbrev Reaches : Journal → Journal → Prop := Relation.ReflTransGen Step

/-- A recording that nothing has happened to. -/
def start (settings : Settings) : Journal where
  recording := .new settings

/-! ## Every run is seen -/

/-- A turn of the worker is seen. -/
theorem reaches_turn {j : Journal} {now : Int} {s : Station Output} (busy : j.draining = some now)
    (hturn : Turn engine now j.station s) :
    ∃ shown, Reaches j (j.seeing s shown) := by
  by_cases hshows : ∃ id item, j.station.queue.head? = some (id, item) ∧
      item.verdict now j.station.queue.maxItemDelay = .ready ∧ item.wireframes ≠ []
  · obtain ⟨id, item, head, ready, shows⟩ := hshows
    have hstep := Step.exhibit j now id item busy head ready shows
    have hs : s = j.station.takeHead.afterHandling engine item := by
      cases hturn with
      | stale id' item' head' verdict =>
        cases head.symm.trans head'
        cases ready.symm.trans verdict
      | invalid id' item' head' verdict =>
        cases head.symm.trans head'
        cases ready.symm.trans verdict
      | ready id' item' head' verdict =>
        cases head.symm.trans head'
        rfl
    rw [hs]
    exact ⟨j.shown ++ [item], .single hstep⟩
  · refine ⟨j.shown, .single (.pass j now s busy hturn fun id item head ready => ?_)⟩
    exact Classical.byContradiction fun shows => hshows ⟨id, item, head, ready, shows⟩

/-- Turns of the worker are seen. -/
theorem reaches_turns {j : Journal} {now : Int} {s : Station Output} (busy : j.draining = some now)
    (hturns : Turns engine now j.station s) :
    ∃ shown, Reaches j (j.seeing s shown) := by
  induction hturns with
  | refl => exact ⟨j.shown, .refl⟩
  | @tail s t _ hlast ih =>
    obtain ⟨shown, hrun⟩ := ih
    obtain ⟨shown', hturn⟩ := reaches_turn (j := j.seeing s shown) busy hlast
    exact ⟨shown', hrun.trans hturn⟩

/-- A drain is seen, from its first look at the clock to its end. The note of what was done comes when the
drain is over, and is as good as anybody's. -/
theorem reaches_drain {j : Journal} {s : Station Output} (hbegins : Step j (j.beginDrain s))
    (idle : j.draining = none) :
    ∃ shown, Reaches j (j.seeing (s.drain engine).1 shown) := by
  obtain ⟨shown, hturns⟩ := reaches_turns (j := j.beginDrain s) rfl (drain_turns engine s)
  have hfinish := Step.finish ((j.beginDrain s).seeing (s.drained engine) shown) s.clock rfl
    fun _ _ head => drained_ends engine_honest s head
  have hrun := ((Relation.ReflTransGen.single hbegins).trans hturns).tail hfinish
  have hdrained : { (j.beginDrain s).seeing (s.drained engine) shown with draining := none }
      = j.seeing (s.drained engine) shown := by
    rw [← idle]
    rfl
  rw [hdrained] at hrun
  refine ⟨shown, ?_⟩
  rcases drain_eq engine s with heq | ⟨event, heq⟩ <;> rw [heq]
  · exact hrun
  · exact hrun.tail (.deed _ (.note event) nofun)

/-- A step of the worker is seen. -/
theorem reaches_work {j : Journal} {s : Station Output} (idle : j.draining = none)
    (hstep : j.station.step? engine = some s) :
    ∃ shown, Reaches j (j.seeing s shown) := by
  rcases step?_cases hstep with ⟨hstarting, rfl⟩ | ⟨rest, hserving, hmail, rfl⟩ |
    ⟨ticket, rest, answer, hserving, hmail, rfl⟩ | ⟨rest, hserving, hmail, rfl⟩
  · exact ⟨j.shown, .single (.wake j hstarting)⟩
  · exact reaches_drain (.drain j rest idle hserving hmail) idle
  · obtain ⟨shown, hrun⟩ := reaches_drain (.flush j ticket rest idle hserving hmail) idle
    exact ⟨shown, hrun.tail (.reply _ ticket answer)⟩
  · exact ⟨j.shown, .single (.stop j rest idle hserving hmail)⟩

/-- **Every run of a recording with a host that lets no write fail is seen.** -/
theorem reaches_recording {settings : Settings} {r : Recording}
    (hrun : Recording.Reaches Calm (.new settings) r) :
    ∃ shown, Reaches (start settings) { recording := r, shown := shown } := by
  induction hrun with
  | refl => exact ⟨[], .refl⟩
  | tail _ hlast ih =>
    obtain ⟨shown, hseen⟩ := ih
    cases hlast with
    | deed d calm => exact ⟨shown, hseen.tail (.deed _ d calm)⟩
    | work s works =>
      obtain ⟨shown', hwork⟩ := reaches_work (j := { recording := _, shown := shown }) rfl works
      exact ⟨shown', hseen.trans hwork⟩

/-! ## What always holds -/

/-- Acts of somebody who lets no write fail keep it that way, and what is remembered of the
snapshots stays. -/
theorem act_output {s : Station Output} {a : Act} (h : s.output.storage.Faultless)
    (ha : ∀ script, a = .host script → ∀ turn ∈ script, turn.fault = .none) :
    (s.act a).output.storage.Faultless ∧ (s.act a).output.history = s.output.history := by
  rcases s.output_act_cases a with hsame | ⟨gallery, -, hsame⟩ | ⟨script, hhost, hsame⟩
  · rw [hsame]
    exact ⟨h, rfl⟩
  · rw [hsame]
    exact ⟨h, rfl⟩
  · rw [hsame]
    exact ⟨ha script hhost, rfl⟩

/-- What holds of a recording and of the snapshots it has shown, at any time. -/
structure Sound (capacity : Nat) (j : Journal) : Prop where
  /-- The items form a chain of views. -/
  chained : j.station.Chained capacity
  /-- No write will fail. -/
  faultless : j.station.output.storage.Faultless
  /-- What was shown was shown in valid views. -/
  valid : ∀ item ∈ j.shown, item.data.current.isValid = true
  /-- Before anything is shown no screen is remembered. -/
  unscreened : j.shown = [] → j.station.output.history.screen = none

variable {j k : Journal} {capacity : Nat}

namespace Sound

/-- What happens to neither the items nor what the worker writes to is of no matter. -/
theorem congr (h : j.Sound capacity) (hchained : k.station.Chained capacity)
    (houtput : k.station.output = j.station.output) (hshown : k.shown = j.shown) :
    k.Sound capacity where
  chained := hchained
  faultless := houtput ▸ h.faultless
  valid := hshown ▸ h.valid
  unscreened := by
    rw [houtput, hshown]
    exact h.unscreened

/-- Deeds leave alone what was shown. -/
theorem deed (h : j.Sound capacity) {d : Deed} (calm : Calm d) :
    Sound capacity { j with recording := j.recording.perform d } := by
  let okAct : Act → Prop := fun a =>
    ∀ script, a = .host script → ∀ turn ∈ script, turn.fault = .none
  have hplain : ∀ a : Act, a.Plain → okAct a := by
    rintro _ hplain script rfl
    exact hplain.elim
  have hhost : ∀ script, d = .host script → okAct (.host script) := by
    rintro script hd _ ⟨⟩
    exact calm script hd
  have hacts := Recording.perform_acts hplain j.recording d hhost (fun _ => nofun)
  have hkept := acts_induction (P := fun s => s.Chained capacity ∧ s.output.storage.Faultless ∧
      s.output.history = j.station.output.history)
    (fun a s ha hs => ⟨hs.1.act a, (act_output hs.2.1 ha).1, (act_output hs.2.1 ha).2.trans hs.2.2⟩)
    ⟨h.chained, h.faultless, rfl⟩ hacts
  obtain ⟨hchained, hfaultless, hhistory⟩ := hkept
  exact
    { chained := hchained
      faultless := hfaultless
      valid := h.valid
      unscreened := by
        intro hnone
        exact (congrArg ScreenHistory.screen hhistory).trans (h.unscreened hnone) }

/-- A snapshot that is shown is remembered. -/
theorem exhibit (h : j.Sound capacity) {now : Int} {id : ItemId} {item : Item}
    (head : j.station.queue.head? = some (id, item))
    (ready : item.verdict now j.station.queue.maxItemDelay = .ready)
    (shows : item.wireframes ≠ []) :
    (j.seeing (j.station.takeHead.afterHandling engine item) (j.shown ++ [item])).Sound
      capacity := by
  obtain ⟨snapshot, hsnapshot⟩ := Item.snapshot_of_wireframes shows
  obtain ⟨plan, hplan, -⟩ := j.station.output.history.plan?_of_ne_nil j.station.output.gallery
    snapshot.screen shows
  obtain ⟨-, hwrote⟩ := process_wrote (s := j.station.takeHead) h.faultless hsnapshot hplan
  refine ⟨?chained, ?faultless, ?valid, ?unscreened⟩
  case chained => exact h.chained.turn engine_orderly (.ready _ id item head ready)
  case faultless =>
    change (j.station.takeHead.afterHandling engine item).output.storage.Faultless
    rw [output_afterHandling]
    exact hwrote.faultless
  case valid =>
    intro other hmem
    rcases List.mem_append.mp hmem with hmem | hmem
    · exact h.valid other hmem
    · rw [List.mem_singleton.mp hmem]
      exact h.chained.valid_of_item? (Queue.head?_eq_some_iff.mp head).2
  case unscreened =>
    intro hnone
    exact absurd hnone (List.append_ne_nil_of_right_ne_nil _ (List.cons_ne_nil _ _))

/-- A turn in which nothing is shown leaves alone what is remembered. -/
theorem pass (h : j.Sound capacity) {now : Int} {s : Station Output}
    (hturn : Turn engine now j.station s)
    (hidden : ∀ id item, j.station.queue.head? = some (id, item) →
      item.verdict now j.station.queue.maxItemDelay = .ready → item.wireframes = []) :
    (j.withStation s).Sound capacity := by
  have hchained : s.Chained capacity := h.chained.turn engine_orderly hturn
  cases hturn with
  | ready id item head verdict =>
    have houtput := output_afterHandling engine item j.station.takeHead
    have hprocess : (process item j.station.takeHead).1.output.storage.Faultless ∧
        (process item j.station.takeHead).1.output.history = j.station.output.history := by
      cases hcontent : item.content with
      | touch records =>
        obtain ⟨-, hwrote⟩ := process_touches_wrote (s := j.station.takeHead) h.faultless hcontent
        exact ⟨hwrote.faultless, hwrote.remembers⟩
      | snapshot snapshot =>
        rw [process_of_nil hcontent (hidden id item head verdict)]
        exact ⟨h.faultless, rfl⟩
    refine ⟨hchained, ?_, h.valid, fun hnone => ?_⟩
    · change (j.station.takeHead.afterHandling engine item).output.storage.Faultless
      rw [houtput]
      exact hprocess.1
    · change (j.station.takeHead.afterHandling engine item).output.history.screen = none
      rw [houtput]
      exact (congrArg ScreenHistory.screen hprocess.2).trans (h.unscreened hnone)
  | _ => exact h.congr hchained rfl rfl

/-- Every step keeps what always holds. -/
theorem step (h : j.Sound capacity) (hstep : Step j k) : k.Sound capacity := by
  cases hstep with
  | deed d calm => exact h.deed calm
  | wake starting => exact h.congr (h.chained.congr rfl rfl rfl rfl) rfl rfl
  | drain rest idle serving mail => exact h.congr (h.chained.congr rfl rfl rfl rfl) rfl rfl
  | flush ticket rest idle serving mail => exact h.congr (h.chained.congr rfl rfl rfl rfl) rfl rfl
  | exhibit now id item busy head ready shows => exact h.exhibit head ready shows
  | pass now s busy turns hidden => exact h.pass turns hidden
  | finish now busy ends => exact h.congr h.chained rfl rfl
  | reply ticket answer => exact h.congr (h.chained.congr rfl rfl rfl rfl) rfl rfl
  | stop rest idle serving mail =>
    obtain ⟨replies, hdrop⟩ :=
      dropReplies_eq { j.station with mailbox := [], worker := .stopped } rest
    rw [hdrop]
    exact h.congr (h.chained.congr rfl rfl rfl rfl) rfl rfl

/-- What always holds does so after any run. -/
theorem run (h : j.Sound capacity) (hrun : Reaches j k) : k.Sound capacity := by
  induction hrun with
  | refl => exact h
  | tail _ hstep ih => exact ih.step hstep

end Sound

/-- It holds of a recording that nothing has happened to. -/
theorem sound_start (settings : Settings) : (start settings).Sound settings.maxQueueSize where
  chained := chained_fresh settings.maxItemDelay settings.maxQueueSize ({} : Output)
  faultless := nofun
  valid := nofun
  unscreened := fun _ => rfl

/-- What is shown changes only when the worker is handed a snapshot that shows something. -/
theorem exhibited {item : Item} (hstep : Step j k) (hshown : k.shown = j.shown ++ [item]) :
    item.wireframes ≠ [] ∧ k.station = j.station.takeHead.afterHandling engine item ∧
      ∃ id, j.station.queue.head? = some (id, item) := by
  have hsame : k.shown ≠ j.shown := by
    intro hsame
    have hlength := congrArg List.length (hsame.symm.trans hshown)
    rw [List.length_append, List.length_singleton] at hlength
    omega
  cases hstep with
  | exhibit now id item' busy head ready shows =>
    obtain rfl : item' = item := List.singleton_inj.mp (List.append_cancel_left hshown)
    exact ⟨shows, rfl, id, head⟩
  | _ => exact absurd rfl hsame

/-- **When a change of view is told.** After any run with a host that lets no write fail, let the
worker be handed a snapshot that shows something, in another view than the one shown last, if any.
Then the end of the view shown last, if any, and the screen, the focus and all wireframes in the new
view are what is written for it, exactly if the item accepted just before the snapshot belongs to
the view shown last; or, if none was shown, belongs to the snapshot's own view or does not exist. -/
theorem transition_told_iff {settings : Settings} (hrun : Reaches (start settings) j)
    (hstep : Step j k) {item : Item} {snapshot : Snapshot}
    (hshown : k.shown = j.shown ++ [item]) (hsnapshot : item.content = .snapshot snapshot)
    (hchange : ∀ view ∈ j.lastShown, view ≠ item.data.current) :
    (k.station.output.storage.written.toList = j.station.output.storage.written.toList
        ++ (item.transition j.lastShown snapshot.screen).map j.station.output.gallery.written ↔
      item.Follows j.lastShown) ∧
    ∃ id, j.station.queue.head? = some (id, item) ∧
      item.data.previous = lastView (j.station.queue.data.take id) := by
  have h : j.Sound settings.maxQueueSize := (sound_start settings).run hrun
  obtain ⟨hshows, hstation, id, head⟩ := exhibited hstep hshown
  have hvalid : ∀ view ∈ j.lastShown, view.isValid = true := by
    intro view hview
    obtain ⟨earlier, hlast, rfl⟩ := Option.map_eq_some_iff.mp hview
    exact h.valid earlier (List.mem_of_getLast? hlast)
  have hfirst : j.lastShown = none → j.station.takeHead.output.history.screen = none := by
    intro hnone
    exact h.unscreened (List.getLast?_eq_none_iff.mp (Option.map_eq_none_iff.mp hnone))
  have htold := announces_iff (s := j.station.takeHead) h.faultless hsnapshot hshows hvalid
    hchange hfirst
  refine ⟨?_, id, head, h.chained.previous_of_item? (Queue.head?_eq_some_iff.mp head).2⟩
  rw [hstation, output_afterHandling]
  exact htold

/-! ## One change of view that is told, and one that is not -/

/-- A snapshot of one view that is painted with nothing. -/
def plainSnapshot (previous current : ViewContext) : Item where
  data := { timestamp := 0, previous := previous, current := current }
  content := .snapshot
    { screen := {}, nodes := some [⟨[{ id := 0, bounds := {}, content := .shape }], []⟩] }

/-- A recording that has shown one snapshot of its only window. -/
def shownOnce : Journal where
  recording := { Recording.oneWindow with
    owners := #[some { screen := {}, asked := 1 }]
    station :=
      { clockReads := 2
        activeView := some ⟨"a", "s", "v"⟩
        tracker := ⟨⟨"a", "s", "v"⟩⟩
        queue :=
          { maxItemDelay := 200, capacity := 128, items := #[plainSnapshot {} ⟨"a", "s", "v"⟩] }
        worker := .serving
        output :=
          { history :=
              { wireframes := (plainSnapshot {} ⟨"a", "s", "v"⟩).wireframes
                lastFull := some 0
                screen := some ({}, .undefined) }
            storage :=
              { written :=
                  #[Gallery.written {} ((plainSnapshot {} ⟨"a", "s", "v"⟩).introduction {})]
                notified := #["v"] } }
        log := #[.workerStarted] } }
  shown := [plainSnapshot {} ⟨"a", "s", "v"⟩]

/-- It has come about by a snapshot attempt and a drain. -/
theorem reaches_shownOnce : Reaches (start {}) shownOnce := by
  have hattempt : Reaches (start {}) _ :=
    (((Relation.ReflTransGen.single (.deed _ .startWorker nofun)).tail
      (.deed _ (.surround Recording.oneWindow) nofun)).tail
      (.deed _ (.activate (some ⟨"a", "s", "v"⟩)) nofun)).tail (.deed _ (.snapshot 0) nofun)
  exact (((hattempt.tail (.wake _ rfl)).tail (.drain _ [] rfl rfl rfl)).tail
    (.exhibit _ 0 0 _ rfl rfl (by decide) (by decide))).tail (.finish _ 0 rfl nofun)

/-- If a snapshot is the first item in the next view, the change of view is told. -/
theorem transition_told_next_view :
    ∃ (j k : Journal) (item : Item) (snapshot : Snapshot), Reaches (start {}) j ∧ Step j k ∧
      k.shown = j.shown ++ [item] ∧ item.content = .snapshot snapshot ∧
      j.lastShown = some ⟨"a", "s", "v"⟩ ∧
      k.station.output.storage.written.toList = j.station.output.storage.written.toList
        ++ (item.transition j.lastShown snapshot.screen).map j.station.output.gallery.written := by
  have hrun : Reaches (start {}) _ :=
    ((reaches_shownOnce.tail (.deed _ (.activate (some ⟨"a", "s", "w"⟩)) nofun)).tail
      (.deed _ (.snapshot 0) nofun)).tail (.drain _ [] rfl rfl rfl)
  refine ⟨_, _, plainSnapshot ⟨"a", "s", "v"⟩ ⟨"a", "s", "w"⟩, _, hrun,
    .exhibit _ 0 1 _ rfl rfl (by decide) (by decide), rfl, rfl, rfl, ?_⟩
  exact (transition_told_iff hrun (.exhibit _ 0 1 _ rfl rfl (by decide) (by decide)) rfl rfl
    (by decide)).1.mpr rfl

/-- **A change of view can be lost.** If touches are the first item in the next view, they remember
the change, and nothing tells of it when the next snapshot is shown. -/
theorem transition_untold_after_touch :
    ¬∀ {j k : Journal} {item : Item} {snapshot : Snapshot}, Reaches (start {}) j → Step j k →
      k.shown = j.shown ++ [item] → item.content = .snapshot snapshot →
      (∀ view ∈ j.lastShown, view ≠ item.data.current) →
      k.station.output.storage.written.toList = j.station.output.storage.written.toList
        ++ (item.transition j.lastShown snapshot.screen).map j.station.output.gallery.written := by
  intro htold
  have hrun : Reaches (start {}) _ :=
    ((((reaches_shownOnce.tail (.deed _ (.activate (some ⟨"a", "s", "w"⟩)) nofun)).tail
      (.deed _ (.touch [⟨0, .pointer {}⟩]) nofun)).tail (.deed _ (.snapshot 0) nofun)).tail
      (.drain _ [] rfl rfl rfl)).tail
      (.pass _ 0 _ rfl (.ready _ 1 _ rfl (by decide)) (by rintro id item ⟨⟩ _; rfl))
  have hwritten := htold hrun
    (.exhibit _ 0 2 (plainSnapshot ⟨"a", "s", "w"⟩ ⟨"a", "s", "w"⟩) rfl rfl (by decide)
      (by decide)) rfl rfl (by decide)
  exact absurd (congrArg List.length hwritten) (by decide)

end Journal

end SessionReplay
