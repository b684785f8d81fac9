import SessionReplay.Proofs.Output.Writing
import SessionReplay.Proofs.Recording.Filling
import SessionReplay.Proofs.Station.Chain
import SessionReplay.Recording.Session

/-!
# What happens to a recording

Two things happen to a recording: somebody does something with it (a `Deed`), or its worker does one
thing. A deed is a whole snapshot attempt, a batch of touches, the end of a copy or of an encoding,
and so on; whatever the application does besides that is one more deed, which leaves the queue and
the pictures alone. The station sees a deed as some acts (`perform_acts`), so what holds of stations
is proved once for every act and holds of recordings after any run.
-/

namespace SessionReplay

/-! ## Acts -/

/-- Something that is done to the station of a recording. -/
inductive Act where
  /-- Logs an event. -/
  | note (event : Log.Event)
  /-- The gallery changes. -/
  | hang (gallery : Gallery)
  /-- The host decides what it does during the next writes. -/
  | host (script : List WriteTurn)
  /-- Makes a snapshot without nodes. -/
  | addSnapshot (screen : ScreenInfo)
  /-- One more picture of an item is being made. -/
  | startJob (id : ItemId)
  /-- One picture less of an item is being made. -/
  | finishJob (id : ItemId)
  /-- Attaches the nodes of a snapshot and requests a drain. -/
  | attachNodes (id : ItemId) (nodes : List (Node Slot))
  /-- Makes a batch of touches and requests a drain. -/
  | recordTouches (records : List (Record Slot))
  /-- A view becomes active, or none is. -/
  | activate (view : Option ViewContext)
  /-- The device's clock is set. -/
  | setClock (millis : Int)
  /-- Starts the worker. -/
  | startWorker
  /-- Requests a drain and an answer. -/
  | sendFlush
  /-- Tells the worker to stop. -/
  | sendShutdown

/-- An act that neither decides what the host does nor tells the worker to stop. -/
def Act.Plain : Act → Prop
  | .host _ => False
  | .sendShutdown => False
  | _ => True

/-- An act that is about pictures that are being made. -/
def Act.Copying : Act → Prop
  | .note _ => True
  | .hang _ => True
  | .startJob _ => True
  | .finishJob _ => True
  | _ => False

/-- An act that is part of a snapshot attempt. -/
def Act.Capturing : Act → Prop
  | .addSnapshot _ => True
  | .attachNodes _ _ => True
  | a => a.Copying

/-- What is about pictures is part of a snapshot attempt. -/
theorem Act.Copying.capturing {a : Act} (h : a.Copying) : a.Capturing := by
  cases a <;> trivial

/-- What is part of a snapshot attempt is plain. -/
theorem Act.Capturing.plain {a : Act} (h : a.Capturing) : a.Plain := by
  cases a <;> trivial

namespace Station

/-- The station after an act. -/
def act (s : Station Output) : Act → Station Output
  | .note event => s.note event
  | .hang gallery => { s with output := { s.output with gallery := gallery } }
  | .host script =>
    { s with output := { s.output with storage := { s.output.storage with script := script } } }
  | .addSnapshot screen => (s.addSnapshot screen).2
  | .startJob id => s.startJob id
  | .finishJob id => s.finishJob id
  | .attachNodes id nodes => (s.attachNodes id nodes).2.requestDrain
  | .recordTouches records => (s.recordTouches records).2
  | .activate view => { s with activeView := view }
  | .setClock millis => { s with clock := millis }
  | .startWorker => s.startWorker.2
  | .sendFlush => s.call .sendFlush
  | .sendShutdown =>
    match s.sendShutdown with
    | .ok sent => sent
    | .error _ => s

/-- **What an act does to what the worker writes to.** Nothing, unless it is about the gallery or the
host. -/
theorem output_act_cases (s : Station Output) (a : Act) :
    (s.act a).output = s.output ∨
    (∃ gallery, a = .hang gallery ∧ (s.act a).output = { s.output with gallery := gallery }) ∨
    (∃ script, a = .host script ∧
      (s.act a).output = { s.output with storage := { s.output.storage with script := script } }) := by
  cases a with
  | hang gallery => exact .inr (.inl ⟨gallery, rfl, rfl⟩)
  | host script => exact .inr (.inr ⟨script, rfl, rfl⟩)
  | addSnapshot screen => exact .inl (s.output_addItem _)
  | finishJob id =>
    refine .inl ?_
    change (s.finishJob id).output = s.output
    rcases s.finishJob_cases id with hfinish | ⟨-, hfinish⟩ <;> rw [hfinish]
    · exact output_requestDrain _
    · rfl
  | attachNodes id nodes => exact .inl (output_requestDrain _)
  | recordTouches records => exact .inl (s.recordTouches_frame records).1
  | startWorker =>
    refine .inl ?_
    unfold act startWorker
    dsimp only
    split <;> rfl
  | sendFlush =>
    refine .inl ?_
    change (s.call .sendFlush).output = s.output
    rcases s.call_sendFlush_cases with ⟨-, heq⟩ | ⟨-, heq⟩ <;> rw [heq]
  | sendShutdown =>
    refine .inl ?_
    unfold act sendShutdown send
    dsimp only
    cases s.worker.takesCommands <;> rfl
  | _ => exact .inl rfl

/-- Some acts that are allowed, one after the other. -/
abbrev Acts (ok : Act → Prop) : Station Output → Station Output → Prop :=
  Relation.ReflTransGen fun s t => ∃ a, ok a ∧ t = s.act a

/-- One act is acts. -/
theorem acts_single {ok : Act → Prop} {a : Act} (ha : ok a) (s : Station Output) :
    Acts ok s (s.act a) := .single ⟨a, ha, rfl⟩

/-- What each allowed act keeps is kept by some of them. -/
theorem acts_induction {ok : Act → Prop} {P : Station Output → Prop}
    (hact : ∀ a s, ok a → P s → P (s.act a)) {s t : Station Output} (h : P s)
    (hacts : Acts ok s t) : P t := by
  induction hacts with
  | refl => exact h
  | tail _ hlast ih =>
    obtain ⟨a, ha, rfl⟩ := hlast
    exact hact a _ ha ih

/-- An act keeps the chain of views. -/
theorem Chained.act {capacity : Nat} {s : Station Output} (h : s.Chained capacity) (a : Act) :
    (s.act a).Chained capacity := by
  cases a with
  | addSnapshot screen => exact h.call (.add (.snapshot { screen := screen }))
  | startJob id => exact h.call (.startJob id)
  | finishJob id => exact h.call (.finishJob id)
  | attachNodes id nodes => exact (h.call (.attachNodes id nodes)).requestDrain
  | recordTouches records =>
    exact (s.recordTouches_byCalls records).induction (fun c _ hs => hs.call c) h
  | startWorker => exact h.step engine_orderly (.start s)
  | sendFlush => exact h.call .sendFlush
  | sendShutdown =>
    change Chained capacity (match s.sendShutdown with | .ok sent => sent | .error _ => s)
    cases hsend : s.sendShutdown with
    | ok sent => exact h.step engine_orderly (.shutdown s sent hsend)
    | error error => exact h
  | _ => exact h.congr rfl rfl rfl rfl

end Station

/-! ## Deeds -/

/-- Something that somebody does with a recording. -/
inductive Deed where
  /-- A whole snapshot attempt for a watcher. -/
  | snapshot (w : WatcherRef)
  /-- Touches are reported. -/
  | touch (records : List (Record Slot))
  /-- A copy or an encoding ends. -/
  | complete (c : Completion)
  /-- A view becomes active, or none is. -/
  | activate (view : Option ViewContext)
  /-- The device's clock is set. -/
  | setClock (millis : Int)
  /-- The worker is started. -/
  | startWorker
  /-- A drain and an answer are requested. -/
  | flush
  /-- The worker is told to stop. -/
  | shutdown
  /-- The host decides what it does during the next writes. -/
  | host (script : List WriteTurn)
  /-- Something is logged. -/
  | note (event : Log.Event)
  /-- The application does something else: windows, owners, watchers, timers, and which copies and
  encodings will end while others are asked for, become those of another recording. -/
  | surround (other : Recording)

/-- The acts that a deed consists of. -/
def Deed.Involves : Deed → Act → Prop
  | .snapshot _, a => a.Capturing
  | .touch records, a => a = .recordTouches records
  | .complete _, a => a.Copying
  | .activate view, a => a = .activate view
  | .setClock millis, a => a = .setClock millis
  | .startWorker, a => a = .startWorker
  | .flush, a => a = .sendFlush
  | .shutdown, a => a = .sendShutdown
  | .host script, a => a = .host script
  | .note event, a => a = .note event
  | .surround _, _ => False

namespace Recording

/-- The recording after a deed. -/
def perform (r : Recording) : Deed → Recording
  | .snapshot w => r.takeSnapshot w
  | .touch records => (r.recordTouches records).2
  | .complete c => r.complete c
  | .activate view => r.activate view
  | .setClock millis => r.setClock millis
  | .startWorker => r.startWorker
  | .flush => r.mapStation (·.call .sendFlush)
  | .shutdown => r.shutdown.2
  | .host script => r.mapStorage fun s => { s with script := script }
  | .note event => r.note event
  | .surround other =>
    { other with
      settings := r.settings
      station := r.station
      held := r.held
      encoding := r.encoding }

/-! ## Deeds are acts -/

section Acts

open Station

variable {ok : Act → Prop}

/-- Several things done to a recording are acts if each is. -/
theorem foldl_acts {α : Type} {f : Recording → α → Recording}
    (hf : ∀ r a, Acts ok r.station (f r a).station) (as : List α) (r : Recording) :
    Acts ok r.station (as.foldl f r).station := by
  induction as generalizing r with
  | nil => exact .refl
  | cons a as ih => exact (hf r a).trans (ih (f r a))

section Copies

variable (hok : ∀ a : Act, a.Copying → ok a)

include hok

/-- The end of a copy is acts. -/
theorem endCopy_acts (r : Recording) (c : Copy) (result : CopyResult) :
    Acts ok r.station (r.endCopy c result).station := by
  cases result with
  | failed code =>
    have hnote := acts_single (hok (.note (.copyFailed c.source.view code)) trivial) r.station
    exact hnote.trans (acts_single (hok (.finishJob c.item) trivial) _)
  | copied bitmap => exact .refl

/-- A copy that is asked for is acts, also if it ends at once. -/
theorem ask_acts (r : Recording) (c : Copy) : Acts ok r.station (r.ask c).station := by
  unfold ask
  split
  next result _ => exact endCopy_acts hok r c result
  next => exact .refl

/-- Pixels that are encoded are acts. -/
theorem encode_acts (r : Recording) (c : Copy) (bitmap : Bitmap) :
    Acts ok r.station (r.encode c bitmap).station := by
  unfold encode
  split
  next picture _ =>
    have hfill := acts_single (hok (.hang (r.gallery.fill c.slot picture).1) trivial) r.station
    exact hfill.trans (acts_single (hok (.finishJob c.item) trivial) _)
  next error _ =>
    have hnote := acts_single (hok (.note (.pictureRefused error c.source.view)) trivial) r.station
    exact hnote.trans (acts_single (hok (.finishJob c.item) trivial) _)
  next => exact .refl

/-- Whatever ends on its own, it is acts. -/
theorem complete_acts (r : Recording) (c : Completion) :
    Acts ok r.station (r.complete c).station := by
  cases c with
  | copy index result =>
    unfold complete answerCopy
    dsimp only
    split
    next => exact .refl
    next c _ => exact endCopy_acts hok { r with held := r.held.eraseIdx index } c result
  | encoding index =>
    unfold complete encodeAt
    dsimp only
    split
    next => exact .refl
    next c bitmap _ =>
      exact encode_acts hok { r with encoding := r.encoding.eraseIdx index } c bitmap

/-- A copy that is asked for while other things end is acts. -/
theorem requestNext_acts (r : Recording) (c : Copy) :
    Acts ok r.station (r.requestNext c).station := by
  let started := r.mapStation (·.startJob c.item)
  have hstart : Acts ok r.station started.station := acts_single (hok (.startJob c.item) trivial) r.station
  have hask := hstart.trans (ask_acts hok started c)
  unfold requestNext capture
  dsimp only
  split
  · exact hask
  next ended later _ =>
    exact hask.trans
      (foldl_acts (complete_acts hok) ended { started.ask c with interludes := later })

end Copies

section Captures

variable (hok : ∀ a : Act, a.Capturing → ok a)

include hok

/-- Filling an item is acts. -/
theorem fillSnapshot_acts (r : Recording) (item : ItemId) (screen : ScreenInfo)
    (windows : List Window) : Acts ok r.station (r.fillSnapshot item screen windows).station := by
  let sketches := View.walkAll r.mappers screen (windows.filterMap Window.view)
  let numbered := Node.numberAll r.gallery.next sketches
  let extended := r.mapGallery (·.extend (numbered.2 - r.gallery.next))
  let requested := (copies sketches r.gallery.next item).foldl requestNext extended
  have hextend : Acts ok r.station extended.station :=
    acts_single (hok (.hang (r.gallery.extend (numbered.2 - r.gallery.next))) trivial) r.station
  have hrequests : Acts ok extended.station requested.station :=
    foldl_acts (requestNext_acts fun a ha => hok a ha.capturing) _ extended
  have hattach := acts_single (hok (.attachNodes item numbered.1) trivial) requested.station
  rw [fillSnapshot_eq]
  exact (hextend.trans hrequests).trans hattach

/-- A snapshot attempt is acts. The item waits in the queue already when its pictures are asked for. -/
theorem takeSnapshot_acts (r : Recording) (w : WatcherRef) :
    Acts ok r.station (r.takeSnapshot w).station := by
  unfold takeSnapshot
  split
  next => exact .refl
  next watcher _ =>
    split
    next => exact acts_single (hok (.note .ownerGone) trivial) r.station
    next owner _ =>
      dsimp only
      split
      · exact .refl
      · have hadd := acts_single (hok (.addSnapshot owner.screen) trivial) r.station
        have hstation : r.station.act (.addSnapshot owner.screen)
            = (r.station.addSnapshot owner.screen).2 := rfl
        rw [hstation] at hadd
        split
        next station heq =>
          rw [heq] at hadd
          exact hadd
        next item station heq =>
          rw [heq] at hadd
          refine hadd.trans (fillSnapshot_acts hok { r with
            owners := r.owners.setIfInBounds watcher.owner
              (some { owner with asked := owner.asked + 1 })
            station := station } item owner.screen _)

end Captures

/-- **A deed is acts** that it involves. -/
theorem perform_involves (r : Recording) (d : Deed) (hok : ∀ a, d.Involves a → ok a) :
    Acts ok r.station (r.perform d).station := by
  cases d with
  | snapshot w => exact takeSnapshot_acts hok r w
  | touch records => exact acts_single (hok (.recordTouches records) rfl) r.station
  | complete c => exact complete_acts hok r c
  | activate view => exact acts_single (hok (.activate view) rfl) r.station
  | setClock millis => exact acts_single (hok (.setClock millis) rfl) r.station
  | startWorker => exact acts_single (hok .startWorker rfl) r.station
  | flush => exact acts_single (hok .sendFlush rfl) r.station
  | shutdown =>
    have hsend := acts_single (hok .sendShutdown rfl) r.station
    have hstation : (r.perform .shutdown).station = r.station.act .sendShutdown := by
      unfold perform shutdown act
      dsimp only
      cases r.station.sendShutdown <;> rfl
    rw [hstation]
    exact hsend
  | host script => exact acts_single (hok (.host script) rfl) r.station
  | note event => exact acts_single (hok (.note event) rfl) r.station
  | surround other => exact .refl

/-- A deed is acts, all of them plain unless the deed itself is about the host or tells the worker to
stop. -/
theorem perform_acts (hok : ∀ a : Act, a.Plain → ok a) (r : Recording) (d : Deed)
    (hhost : ∀ script, d = .host script → ok (.host script))
    (hshutdown : d = .shutdown → ok .sendShutdown) :
    Acts ok r.station (r.perform d).station := by
  refine perform_involves r d fun a ha => ?_
  cases d with
  | snapshot w => exact hok a (Act.Capturing.plain ha)
  | complete c => exact hok a (Act.Copying.capturing ha).plain
  | surround other => cases ha
  | host script => exact ha ▸ hhost script rfl
  | shutdown => exact ha ▸ hshutdown rfl
  | _ => exact hok a (ha ▸ trivial)

end Acts

/-- One thing that happens to a recording: a deed that is allowed, or the worker does one thing. -/
inductive Step (ok : Deed → Prop) : Recording → Recording → Prop
  /-- Somebody does something. -/
  | deed (r : Recording) (d : Deed) (allowed : ok d) : Step ok r (r.perform d)
  /-- The worker does one thing. -/
  | work (r : Recording) (s : Station Output)
      (works : r.station.step? Station.engine = some s) : Step ok r { r with station := s }

/-- What can have become of a recording after some steps. -/
abbrev Reaches (ok : Deed → Prop) : Recording → Recording → Prop :=
  Relation.ReflTransGen (Step ok)

/-- **What holds of the station, and is kept by every act and by the worker, holds after any
run.** -/
theorem reaches_induction {ok : Deed → Prop} {P : Station Output → Prop} (okAct : Act → Prop)
    (hplain : ∀ a : Act, a.Plain → okAct a)
    (hhost : ∀ script, ok (.host script) → okAct (.host script))
    (hshutdown : ok .shutdown → okAct .sendShutdown)
    (hact : ∀ a s, okAct a → P s → P (s.act a))
    (hwork : ∀ s t, s.step? Station.engine = some t → P s → P t)
    {r t : Recording} (h : P r.station) (hrun : Reaches ok r t) : P t.station := by
  induction hrun with
  | refl => exact h
  | tail _ hlast ih =>
    cases hlast with
    | deed d allowed =>
      refine Station.acts_induction hact ih (perform_acts hplain _ d ?_ ?_)
      · rintro script rfl
        exact hhost script allowed
      · rintro rfl
        exact hshutdown allowed
    | work s works => exact hwork _ s works ih

/-- The items of a recording form a chain of views after any run. -/
theorem reaches_chained {ok : Deed → Prop} {settings : Settings} {r : Recording}
    (hrun : Reaches ok (new settings) r) : r.station.Chained settings.maxQueueSize :=
  reaches_induction (fun _ => True) (fun _ _ => trivial) (fun _ _ => trivial) (fun _ => trivial)
    (fun a _ _ hs => hs.act a) (fun _ _ hstep hs => hs.work Station.engine_orderly hstep)
    (Station.chained_fresh settings.maxItemDelay settings.maxQueueSize ({} : Output)) hrun

/-- An application with one window, which is watched. -/
def oneWindow : Recording :=
  { new {} with
    windows := #[some { id := 1, view := some {} }]
    owners := #[some { screen := {} }]
    watchers := #[{ owner := 0, windows := [0], debouncer := { quiet := 64, patience := 64 } }] }

end Recording

end SessionReplay
