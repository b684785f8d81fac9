import SessionReplay.Proofs.Output.Arrivals
import SessionReplay.Proofs.Recording.Deeds
import SessionReplay.Proofs.Simulation.Voyages
import SessionReplay.Simulation.Run

/-!
# Runs of the simulated application

The items of a run are made by the station of its recording, whenever a snapshot is taken or touches
are reported; and while the worker writes, the host may report touches too.

* `Station.Sails`: all that a station does to its items is to make one and to keep it or refuse it at
  once, and it does not touch the view that is active. One lemma for each thing that a station does.
* `Run.Plays.voyage`: so every run is a voyage, on which the same views are started.
* `Run.items_after_start`: and what holds of voyages holds of runs. A view that is started is new to the
  items of the run, whatever happens between two starts.
-/

namespace SessionReplay

open Simulation

/-- The voyage shows a station: its active view, the view seen last, and the items that were accepted. -/
structure Simulation.Voyage.Shows {σ : Type} (x : Voyage) (s : Station σ) : Prop where
  /-- The same view is active. -/
  active : x.active = s.activeView
  /-- The same view was seen last. -/
  tracker : x.itinerary.tracker = s.tracker
  /-- The accepted items are those that were kept. -/
  items : x.kept = s.queue.data

namespace Station

variable {σ : Type} {s t u : Station σ}

/-- What becomes of a station while items are made at most, each of which is kept or refused at once. -/
def Sails (s t : Station σ) : Prop :=
  ∀ x : Voyage, x.Shows s → ∃ cs, Voyage.names cs = [] ∧ (x.calls cs).Shows t

namespace Sails

/-- Calls are made one after the other. -/
theorem trans (h : s.Sails t) (h' : t.Sails u) : s.Sails u := by
  intro x hx
  obtain ⟨cs, hnames, ht⟩ := h x hx
  obtain ⟨cs', hnames', hu⟩ := h' _ ht
  refine ⟨cs ++ cs', by rw [Voyage.names_append, hnames, hnames']; rfl, ?_⟩
  rwa [Voyage.calls_append]

/-- Nothing is to be seen of what leaves alone the views and the items. -/
theorem of_eq (hactive : t.activeView = s.activeView) (htracker : t.tracker = s.tracker)
    (hdata : t.queue.data = s.queue.data) : s.Sails t :=
  fun _ hx => ⟨[], rfl, hx.active.trans hactive.symm, hx.tracker.trans htracker.symm,
    hx.items.trans hdata.symm⟩

/-- Nothing is called. -/
theorem refl (s : Station σ) : s.Sails s := of_eq rfl rfl rfl

/-- An item is kept if it is accepted, and refused at once otherwise. -/
theorem addItem (s : Station σ) (content : ItemContent) : s.Sails (s.addItem content).2 := by
  intro x hx
  rcases s.addItem_cases content with ⟨view, ⟨hactive, hvalid, -⟩, hadd⟩ | ⟨-, event, hadd⟩ <;>
    rw [hadd]
  · refine ⟨[.keep s.clock], rfl, ?_⟩
    have hitem : x.item s.clock view = (s.newItem view content).data := by
      rw [Voyage.item, hx.tracker]
      rfl
    have hdata : (s.accept view content).queue.data
        = s.queue.data ++ [(s.newItem view content).data] := Queue.data_add _ _
    have hkept : x.call (.keep s.clock) = { x with
        itinerary := ⟨⟨view⟩, x.itinerary.made ++ [x.item s.clock view]⟩
        kept := x.kept ++ [x.item s.clock view] } := by
      simp [Voyage.call, Voyage.create_of_valid (hx.active.trans hactive) hvalid]
    rw [show x.calls [.keep s.clock] = x.call (.keep s.clock) from rfl, hkept]
    exact ⟨hx.active, rfl, by rw [hdata, hx.items, hitem]⟩
  · refine ⟨[.refuse s.clock], rfl, ?_⟩
    rw [show x.calls [.refuse s.clock] = x.call (.refuse s.clock) from rfl]
    rcases x.call_cases (.refuse s.clock) with ⟨_, hcall, -⟩ | ⟨-, hrefused⟩ | ⟨_, _, hcall, -⟩ |
      ⟨now, view, -, -, -, hrefused⟩ | ⟨_, _, hcall, -⟩
    · cases hcall
    · rw [hrefused]
      exact ⟨hx.active, hx.tracker, hx.items⟩
    · cases hcall
    · rw [hrefused]
      exact ⟨hx.active, hx.tracker, hx.items⟩
    · cases hcall

/-- A request for a drain calls nothing. -/
theorem requestDrain (s : Station σ) : s.Sails s.requestDrain := by
  obtain ⟨_, _, _, heq⟩ := s.requestDrain_eq
  rw [heq]
  exact of_eq rfl rfl rfl

/-- A call that activates no view makes an item at most. -/
theorem call (s : Station σ) {c : Call σ} (hc : ∀ view, c ≠ .activate view) : s.Sails (s.call c) := by
  have hmodify : ∀ id (f : Snapshot → Snapshot), s.Sails (s.modifyItem id (Item.mapSnapshot f)) :=
    fun id f => of_eq rfl rfl (Queue.data_modify s.queue id (Item.data_mapSnapshot f))
  cases c with
  | add content => exact addItem s content
  | requestDrain => exact requestDrain s
  | sendFlush =>
    rcases s.call_sendFlush_cases with ⟨-, hsend⟩ | ⟨-, hsend⟩ <;> rw [hsend] <;>
      exact of_eq rfl rfl rfl
  | startJob id => exact hmodify id _
  | finishJob id =>
    change s.Sails (s.finishJob id)
    rcases s.finishJob_cases id with hfinish | ⟨-, hfinish⟩ <;> rw [hfinish]
    · exact (hmodify id _).trans (requestDrain _)
    · exact hmodify id _
  | attachNodes id nodes => exact hmodify id _
  | activate view => exact absurd rfl (hc view)
  | _ => exact of_eq rfl rfl rfl

/-- Reported touches make one call at most. -/
theorem recordTouches (s : Station σ) (records : List (Record Slot)) :
    s.Sails (s.recordTouches records).2 := by
  have hadd : s.Sails (s.addTouches records).2 := addItem s _
  rcases s.recordTouches_cases records with ⟨-, heq⟩ | ⟨-, heq⟩ <;> rw [heq]
  · exact hadd.trans (requestDrain _)
  · exact hadd

end Sails

/-! ## The worker -/

section Worker

variable {s t : Station Output}

/-- While an item is processed the host may report touches. -/
theorem process_sails (item : Item) (s : Station Output) : s.Sails (process item s).1 := by
  refine chores_induction (P := s.Sails) ?_ (.refl s) (process_chores (Storage.foresees_any _) item)
  rintro t u hchore ht
  cases hchore with
  | write output log => exact ht.trans (.of_eq rfl rfl rfl)
  | record records reported => exact ht.trans (.recordTouches t records)

/-- In a turn the worker makes items at most. -/
theorem Turn.sails {now : Int} (h : Turn engine now s t) : s.Sails t := by
  have htaken : s.Sails s.takeHead := .of_eq rfl rfl rfl
  cases h with
  | stale id item head verdict => exact .of_eq rfl rfl rfl
  | invalid id item head verdict => exact .of_eq rfl rfl rfl
  | ready id item head verdict =>
    refine (htaken.trans (process_sails item _)).trans ?_
    unfold afterHandling
    split <;> exact .of_eq rfl rfl rfl

/-- In a step the worker makes items at most. -/
theorem sails_of_step? (h : s.step? engine = some t) : s.Sails t := by
  refine work_induction (P := s.Sails) ?_ (fun _ _ hturn hu => hu.trans hturn.sails) (.refl s) h
  intro u v hu _ hqueue htracker _ hactive
  exact hu.trans (.of_eq hactive htracker (congrArg Queue.data hqueue))

end Worker

/-! ## Acts -/

/-- An act that activates no view makes an item at most. -/
theorem act_sails (s : Station Output) {a : Act} (ha : ∀ view, a ≠ .activate view) :
    s.Sails (s.act a) := by
  cases a with
  | addSnapshot screen => exact .addItem s _
  | startJob id => exact .call s (c := .startJob id) nofun
  | finishJob id => exact .call s (c := .finishJob id) nofun
  | attachNodes id nodes =>
    exact (Sails.call s (c := .attachNodes id nodes) nofun).trans (.requestDrain _)
  | recordTouches records => exact .recordTouches s records
  | activate view => exact absurd rfl (ha view)
  | startWorker =>
    unfold act startWorker
    dsimp only
    split <;> exact .of_eq rfl rfl rfl
  | sendFlush => exact .call s (c := .sendFlush) nofun
  | sendShutdown =>
    unfold act sendShutdown send
    dsimp only
    cases s.worker.takesCommands <;> exact .of_eq rfl rfl rfl
  | _ => exact .of_eq rfl rfl rfl

end Station

/-! ## Runs -/

/-- A deed that activates no view makes items at most. -/
theorem Recording.perform_sails (r : Recording) {d : Deed} (hd : ∀ view, d ≠ .activate view) :
    r.station.Sails (r.perform d).station := by
  refine Station.acts_induction (P := r.station.Sails) (fun a s ha hs => hs.trans (s.act_sails ha))
    (.refl _) (r.perform_involves d fun a ha view hview => ?_)
  subst hview
  cases d with
  | activate view => exact hd view rfl
  | _ => simp [Deed.Involves, Act.Capturing, Act.Copying] at ha

/-- Whatever happens to a recording besides that a view becomes active makes items at most. -/
theorem Recording.Step.sails {r t : Recording} (h : Step (fun d => ∀ view, d ≠ .activate view) r t) :
    r.station.Sails t.station := by
  cases h with
  | deed d allowed => exact r.perform_sails allowed
  | work s works => exact Station.sails_of_step? works

namespace Simulation.Run

/-- The voyage shows a run: how many views were started, and what its station shows. -/
structure Shown (x : Run) (v : Voyage) : Prop where
  /-- The same views were started. -/
  views : v.views = x.views
  /-- The voyage shows the station. -/
  station : v.Shows x.recording.station

/-- One thing that happens to a run: a view is started, or something else happens to its recording.
Views become active in no other way. The first argument holds the names of the views that are started. -/
inductive Step : List String → Run → Run → Prop
  /-- A view is started. -/
  | start (x : Run) (name : String) : Step [name] x (x.startView name)
  /-- Something else happens. -/
  | other (x y : Run) (views : y.views = x.views)
      (happens : Recording.Step (fun d => ∀ view, d ≠ .activate view) x.recording y.recording) :
    Step [] x y

/-- What can have become of a run while views with the given names were started. -/
inductive Plays : List String → Run → Run → Prop
  /-- Nothing happens. -/
  | refl (x : Run) : Plays [] x x
  /-- One more thing happens. -/
  | tail {names more : List String} {x y z : Run} (plays : Plays names x y) (step : Step more y z) :
    Plays (names ++ more) x z

variable {names : List String} {x y : Run} {v : Voyage}

/-- A run starts a view as a voyage does. -/
theorem Shown.startView (hx : x.Shown v) (name : String) :
    (x.startView name).Shown (v.call (.start name)) where
  views := congrArg (fun views => (ViewStarter.start views name).2) hx.views
  station :=
    { active := congrArg (fun views => some (ViewStarter.start views name).1) hx.views
      tracker := hx.station.tracker
      items := hx.station.items }

/-- One thing that happens to a run is some calls. -/
theorem Step.voyage (h : Step names x y) (hx : x.Shown v) :
    ∃ cs, Voyage.names cs = names ∧ y.Shown (v.calls cs) := by
  cases h with
  | start _ name => exact ⟨[.start name], rfl, hx.startView name⟩
  | other _ _ views happens =>
    obtain ⟨cs, hnames, hshows⟩ := happens.sails v hx.station
    exact ⟨cs, hnames, ⟨by rw [Voyage.views_calls hnames, hx.views, views], hshows⟩⟩

/-- Before anything happens the voyage has not begun either. -/
theorem shown_begin {settings : Settings} {clock : Int} {logged : Bool}
    (h : Run.begin settings clock logged = .ok x) : x.Shown (.after applicationId []) := by
  unfold Run.begin Recording.start at h
  cases hvalid : settings.validate with
  | error fault =>
    rw [hvalid] at h
    cases h
  | ok checked =>
    rw [hvalid] at h
    cases h
    exact ⟨rfl, rfl, rfl, .refl _⟩

/-- What happens to a run is a voyage, on which the same views are started. -/
theorem Plays.voyage (h : Plays names x y) (hx : x.Shown v) :
    ∃ cs, Voyage.names cs = names ∧ y.Shown (v.calls cs) := by
  induction h with
  | refl => exact ⟨[], rfl, hx⟩
  | tail _ hstep ih =>
    obtain ⟨cs, rfl, hshown⟩ := ih hx
    obtain ⟨more, rfl, hnext⟩ := hstep.voyage hshown
    refine ⟨cs ++ more, Voyage.names_append _ _, ?_⟩
    rwa [Voyage.calls_append]

/-- What the items remember that were accepted. -/
def items (x : Run) : List ContextData := x.recording.station.queue.data

/-- **A view that is started in a run is new.** Items that are accepted before and after it belong to
different views; and until one is accepted after it, whoever makes one sees the view change. -/
theorem items_after_start {settings : Settings} {clock : Int} {logged : Bool} {first z : Run}
    {name : String} {more : List String} (hbegin : Run.begin settings clock logged = .ok first)
    (hbefore : Plays names first y) (hafter : Plays more (y.startView name) z)
    (few : names.length + more.length < 2 ^ 64) :
    (∃ later, z.items = y.items ++ later ∧
      ∀ d ∈ y.items, ∀ d' ∈ later, d.current ≠ d'.current) ∧
    (z.items = y.items → ∀ now, ∃ data tracker,
      z.recording.station.tracker.create now z.recording.station.activeView = .ok (data, tracker) ∧
        data.Changes) := by
  obtain ⟨before, rfl, hy⟩ := hbefore.voyage (shown_begin hbegin)
  obtain ⟨rest, rfl, hz⟩ := hafter.voyage (hy.startView name)
  have hy : y.Shown (.after applicationId before) := hy
  have hz : z.Shown (.after applicationId (before ++ .start name :: rest)) := by
    rwa [show Voyage.after applicationId (before ++ .start name :: rest)
      = (Voyage.after applicationId before).calls (.start name :: rest) from Voyage.calls_append _ _ _]
  have hfew : (Voyage.names (before ++ .start name :: rest)).length ≤ 2 ^ 64 := by
    rw [Voyage.names_append, Voyage.names_start, List.length_append, List.length_cons]
    omega
  have hitems : y.items = (Voyage.after applicationId before).kept := hy.station.items.symm
  have hitems' : z.items = (Voyage.after applicationId (before ++ .start name :: rest)).kept :=
    hz.station.items.symm
  rw [hitems, hitems', ← hz.station.tracker, ← hz.station.active]
  refine ⟨?_, fun hkept now => ?_⟩
  · obtain ⟨_, later, -, hkept, hmade, hlater⟩ := Voyage.made_after_start applicationId hfew
    refine ⟨later, hkept, fun d hd d' hd' hsame => hlater d' (hmade hd') (hsame ▸ ?_)⟩
    exact (Voyage.behind_after applicationId before).2 d (Voyage.kept_subset_made _ _ hd)
  · obtain ⟨view, -, hcreate⟩ := Voyage.create_until_kept applicationId hfew hkept now
    rw [if_pos (show isId applicationId = true by decide)] at hcreate
    obtain ⟨data, tracker, hok, -, hchanges⟩ := hcreate
    exact ⟨data, tracker, hok, hchanges⟩

end Simulation.Run

end SessionReplay
