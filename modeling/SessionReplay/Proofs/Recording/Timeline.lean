import SessionReplay.Proofs.Output.Timeline
import SessionReplay.Proofs.Recording.Course

/-!
# The order of what a recording writes

As long as the clock does not go back and touches tell of pointers only, everything that a recording
writes is dated in order, is written in time, and the touches are batches that were accepted, in that
order and as they were (`written_in_order`). What the application and the parts of a snapshot attempt do
writes nothing and dates what it makes last (`Happens.gathers`); the worker writes what was made before
(`Timely.turn`).

A drain reads the clock once and goes by that time until it ends. Meanwhile items are accepted and the
clock goes on, so a drain can write what is dated after its own time, though never after the present. And
how old an item is comes as a time of 64 bits: an age that does not fit is wrapped around, and what is
written then is older than allowed (`dated_off_the_drain`).
-/

namespace SessionReplay

/-- The acts of a deed are about touches, the host or the clock only if the deed is. -/
theorem Deed.Involves.eq {d : Deed} {a : Act} (h : d.Involves a) :
    (∀ records, a = .recordTouches records → d = .touch records) ∧
    (∀ script, a = .host script → d = .host script) ∧
    (∀ millis, a = .setClock millis → d = .setClock millis) := by
  refine ⟨?_, ?_, ?_⟩ <;> rintro x rfl <;> cases d <;> cases h <;> rfl

/-- A deed that is about touches that tell of pointers, if it is about touches. -/
def Deed.OfPointers : Deed → Prop
  | .touch records => SessionReplay.OfPointers records
  | .host script => ∀ turn ∈ script, ∀ records ∈ turn.touches, SessionReplay.OfPointers records
  | _ => True

/-- Only what decides about the host changes which touches it is going to report. -/
theorem Storage.Foresees.act {ok : List (Record Slot) → Prop} {s : Station Output} {a : Act}
    (h : s.output.storage.Foresees ok)
    (hhost : ∀ script, a = .host script → ∀ turn ∈ script, ∀ records ∈ turn.touches, ok records) :
    (s.act a).output.storage.Foresees ok := by
  rcases s.output_act_cases a with heq | ⟨gallery, -, heq⟩ | ⟨script, hscript, heq⟩ <;> rw [heq]
  · exact h
  · exact h
  · exact hhost script hscript

namespace Station

/-- Whatever is done to a station but setting its clock, items are accepted at most. -/
theorem Joins.act {ok : List (Record Slot) → Prop} (s : Station Output) {a : Act}
    (hclock : ∀ millis, a ≠ .setClock millis)
    (htouch : ∀ records, a = .recordTouches records → ok records) : Joins ok s (s.act a) := by
  cases a with
  | addSnapshot screen => exact .addItem s nofun
  | startJob id => exact .modifyItem s id _
  | finishJob id =>
    change Joins ok s (s.finishJob id)
    rcases s.finishJob_cases id with hfinish | ⟨-, hfinish⟩ <;> rw [hfinish]
    · exact (Joins.modifyItem s id _).trans (.requestDrain _)
    · exact .modifyItem s id _
  | attachNodes id nodes => exact (Joins.modifyItem s id _).trans (.requestDrain _)
  | recordTouches records => exact .recordTouches s (htouch records rfl)
  | setClock millis => exact absurd rfl (hclock millis)
  | startWorker =>
    unfold Station.act startWorker
    dsimp only
    split
    · exact .of_eq rfl rfl
    · exact .refl s
  | sendFlush =>
    change Joins ok s (s.call .sendFlush)
    rcases s.call_sendFlush_cases with ⟨-, heq⟩ | ⟨-, heq⟩ <;> rw [heq]
    · exact .of_eq rfl rfl
    · exact .refl s
  | sendShutdown =>
    unfold Station.act sendShutdown send
    dsimp only
    cases s.worker.takesCommands with
    | true => exact .of_eq rfl rfl
    | false => exact .refl s
  | _ => exact .of_eq rfl rfl

/-- Between the two stations, at one time, items were accepted at most, nothing was written, and the host
is going to do what it was. -/
structure Gathers (ok : List (Record Slot) → Prop) (s t : Station Output) : Prop where
  /-- Items were accepted at most. -/
  joins : Joins ok s t
  /-- Nothing was written. -/
  written : t.output.storage.written = s.output.storage.written
  /-- The host stays as it is. -/
  script : t.output.storage.script = s.output.storage.script

namespace Gathers

variable {ok : List (Record Slot) → Prop} {s t u : Station Output}

/-- What leaves alone what the worker writes to accepts items at most. -/
theorem of_output (hjoins : Joins ok s t) (houtput : t.output = s.output) : Gathers ok s t :=
  ⟨hjoins, by rw [houtput], by rw [houtput]⟩

/-- Items gather before and afterwards. -/
theorem trans (h : Gathers ok s t) (h' : Gathers ok t u) : Gathers ok s u :=
  ⟨h.joins.trans h'.joins, h'.written.trans h.written, h'.script.trans h.script⟩

/-- Acts that neither set the clock nor decide what the host does accept items at most. -/
theorem acts {okAct : Act → Prop} (hacts : Acts okAct s t) (hclock : ∀ millis, ¬okAct (.setClock millis))
    (hhost : ∀ script, ¬okAct (.host script))
    (htouch : ∀ records, okAct (.recordTouches records) → ok records) : Gathers ok s t := by
  refine acts_induction (P := Gathers ok s) (fun a u ha hu => hu.trans ⟨?joins, ?written, ?script⟩)
    ⟨.refl s, rfl, rfl⟩ hacts
  case joins =>
    exact .act u (fun millis heq => hclock millis (heq ▸ ha)) fun records heq =>
      htouch records (heq ▸ ha)
  case written => exact (Quiet.act u a).written
  case script =>
    rcases u.output_act_cases a with heq | ⟨gallery, -, heq⟩ | ⟨script, rfl, -⟩
    · rw [heq]
    · rw [heq]
    · exact absurd ha (hhost script)

/-- Everything stays in order if touches of pointers are accepted at most. -/
theorem timely (h : Gathers OfPointers s t) (hs : s.Timely) : t.Timely := by
  refine hs.joins h.joins h.written ?_
  unfold Storage.Foresees
  rw [h.script]
  exact hs.foreseen

end Gathers

end Station

namespace Recording

/-- What was written, record by record. -/
def records (r : Recording) : List (Record Picture) := r.station.output.storage.records

/-- The batches of touches that were accepted, in order. -/
def touches (r : Recording) : List (List (Record Slot)) := r.station.queue.touches

end Recording

namespace Chronicle

open Station

variable {c k : Chronicle} {e : Event} {settings : Settings} {time : Int}

/-- What was written, record by record. -/
def records (c : Chronicle) : List (Record Picture) := c.recording.records

/-- The batches of touches that were accepted, in order. -/
def touches (c : Chronicle) : List (List (Record Slot)) := c.recording.touches

namespace Event

/-- An event that is about touches that tell of pointers, if it is about touches. -/
def OfPointers : Event → Prop
  | .deed d => d.OfPointers
  | _ => True

/-- Neither the worker nor the clock goes on, and the host stays as it is. -/
def Passive : Event → Prop
  | .deed (.setClock _) => False
  | .deed (.host _) => False
  | .work => False
  | .deliver => False
  | _ => True

end Event

/-- **What happens besides the worker and the clock accepts items at most**, and touches only if these are
reported. -/
theorem Happens.gathers {ok : List (Record Slot) → Prop} (he : Happens e c k) (hpassive : e.Passive)
    (htouch : ∀ records, e = .deed (.touch records) → ok records) :
    Gathers ok c.station k.station := by
  have hcopying : ∀ {s : Station Output}, Acts Act.Copying c.station s → Gathers ok c.station s :=
    fun hacts => .acts hacts (fun _ h => h) (fun _ h => h) fun _ h => h.elim
  have hcapturing : ∀ {s : Station Output}, Acts Act.Capturing c.station s → Gathers ok c.station s :=
    fun hacts => .acts hacts (fun _ h => h) (fun _ h => h) fun _ h => h.elim
  cases e with
  | deed d =>
    obtain ⟨-, rfl⟩ := he
    refine .acts (c.recording.perform_involves d fun _ ha => ha) (fun millis ha => ?_)
      (fun script ha => ?_) fun records ha => htouch records (congrArg Event.deed (ha.eq.1 records rfl))
    · cases ha.eq.2.2 millis rfl
      exact hpassive
    · cases ha.eq.2.1 script rfl
      exact hpassive
  | snapshot screen sketches =>
    have hadd : Acts Act.Capturing c.station (c.station.addSnapshot screen).2 :=
      acts_single (a := .addSnapshot screen) trivial c.station
    rcases he with ⟨s, refused, rfl⟩ | ⟨id, s, accepted, rfl⟩
    · rw [refused] at hadd
      exact hcapturing hadd
    · rw [accepted] at hadd
      exact (hcapturing hadd).trans ⟨.of_eq rfl rfl, rfl, rfl⟩
  | ask place copy =>
    obtain ⟨before, walk, after, rest, -, -, -, rfl⟩ := he
    exact hcopying (c.asking_acts copy _)
  | answer copy result =>
    obtain ⟨index, -, rfl⟩ := he
    exact hcopying (c.answering_acts index copy result)
  | encode copy bitmap =>
    obtain ⟨index, -, rfl⟩ := he
    exact hcopying (c.encoding_acts index copy bitmap)
  | release copy =>
    obtain ⟨before, after, -, rfl⟩ := he
    exact hcopying (acts_single (a := .finishJob copy.item) trivial c.station)
  | attach place =>
    obtain ⟨before, walk, after, -, -, -, rfl⟩ := he
    exact .of_output (.modifyItem c.station walk.item _) rfl
  | request =>
    obtain rfl : k = _ := he
    exact .of_output (.requestDrain c.station) (output_requestDrain _)
  | work => exact hpassive.elim
  | reply =>
    obtain ⟨-, ticket, answer, rfl⟩ := he
    exact .of_output (.of_eq rfl rfl) rfl
  | deliver => exact hpassive.elim

/-- Only the worker begins and ends drains. -/
theorem Happens.draining (he : Happens e c k) (hwork : e ≠ .work) : k.draining = c.draining := by
  cases e with
  | deed d =>
    obtain ⟨-, rfl⟩ := he
    rfl
  | snapshot screen sketches => rcases he with ⟨s, -, rfl⟩ | ⟨id, s, -, rfl⟩ <;> rfl
  | ask place copy =>
    obtain ⟨before, walk, after, rest, -, -, -, rfl⟩ := he
    unfold asking
    split
    next result _ => cases result <;> rfl
    next => rfl
  | answer copy result =>
    obtain ⟨index, -, rfl⟩ := he
    cases result <;> rfl
  | encode copy bitmap =>
    obtain ⟨index, -, rfl⟩ := he
    unfold Chronicle.encoding
    dsimp only
    split <;> rfl
  | release copy =>
    obtain ⟨before, after, -, rfl⟩ := he
    rfl
  | attach place =>
    obtain ⟨before, walk, after, -, -, -, rfl⟩ := he
    rfl
  | request =>
    obtain rfl : k = _ := he
    rfl
  | work => exact absurd rfl hwork
  | reply =>
    obtain ⟨-, ticket, answer, rfl⟩ := he
    rfl
  | deliver =>
    obtain ⟨now, id, item, -, -, -, rfl⟩ := he
    rfl

/-- Everything is in order, and the drain that is going on goes by a time that has passed. -/
structure Ordered (settings : Settings) (c : Chronicle) : Prop where
  /-- What was written, what waits and the present follow each other. -/
  timely : c.station.Timely
  /-- Items form a chain of views. -/
  chained : c.station.Chained settings.maxQueueSize
  /-- Items may become as old as the settings say. -/
  delay : c.station.queue.maxItemDelay = settings.maxItemDelay
  /-- The drain that is going on has read the clock before. -/
  begun : ∀ now ∈ c.draining, now ≤ c.station.clock

namespace Ordered

/-- A move of the worker keeps everything in order. -/
theorem move (h : c.Ordered settings) {busy : Option Int} {s : Station Output}
    (hmove : Move c.draining c.station busy s) :
    s.Timely ∧ s.queue.maxItemDelay = c.station.queue.maxItemDelay ∧ ∀ now ∈ busy, now ≤ s.clock := by
  have hnone : ∀ {clock : Int}, ∀ now ∈ (none : Option Int), now ≤ clock :=
    fun _ hnow => nomatch hnow
  have hbegun := h.begun
  generalize c.draining = draining at hmove hbegun
  cases hmove with
  | wake _ starting => exact ⟨h.timely.congr rfl rfl rfl, rfl, hnone⟩
  | drain _ rest serving mail =>
    refine ⟨h.timely.congr rfl rfl rfl, rfl, fun now hnow => ?_⟩
    cases Option.mem_some.mp hnow
    exact Int.le_refl _
  | flush _ ticket rest serving mail =>
    refine ⟨h.timely.congr rfl rfl rfl, rfl, fun now hnow => ?_⟩
    cases Option.mem_some.mp hnow
    exact Int.le_refl _
  | stale now _ id item head verdict =>
    obtain ⟨htimely, -⟩ := h.timely.turn h.chained (.stale c.station id item head verdict)
    exact ⟨htimely, rfl, hbegun⟩
  | invalid now _ id item head verdict =>
    obtain ⟨htimely, -⟩ := h.timely.turn h.chained (.invalid c.station id item head verdict)
    exact ⟨htimely, rfl, hbegun⟩
  | finish now _ ends => exact ⟨h.timely, rfl, hnone⟩
  | reply _ ticket answer => exact ⟨h.timely.congr rfl rfl rfl, rfl, hnone⟩
  | stop _ rest serving mail =>
    obtain ⟨replies, hdrop⟩ := dropReplies_eq { c.station with mailbox := [], worker := .stopped } rest
    rw [hdrop]
    exact ⟨h.timely.congr rfl rfl rfl, rfl, hnone⟩

end Ordered

/-- Without an item being handed over, what goes on besides writes nothing and accepts nothing. -/
theorem Happens.idles (he : Happens e c k) (hactive : ¬e.Passive) (hdeliver : e ≠ .deliver) :
    k.station.output.storage.written = c.station.output.storage.written ∧ k.touches = c.touches := by
  have hitems : k.station.queue.items = c.station.queue.items → k.touches = c.touches :=
    congrArg fun items : Array Item => (items.toList.map Item.brief).filterMap Brief.touches
  cases e with
  | deed d =>
    obtain ⟨-, rfl⟩ := he
    cases d with
    | setClock millis => exact ⟨rfl, rfl⟩
    | host script => exact ⟨rfl, rfl⟩
    | _ => exact absurd trivial hactive
  | work =>
    obtain ⟨busy, s, hmoved, rfl⟩ := he
    obtain ⟨houtput, -, hqueue⟩ := (move_iff.mpr (.inl hmoved)).frame
    have hsame : s.queue.items = c.station.queue.items := by
      rcases hqueue with hqueue | ⟨-, hqueue⟩ <;> rw [hqueue]
      rfl
    exact ⟨congrArg (·.storage.written) houtput, hitems hsame⟩
  | deliver => exact absurd rfl hdeliver
  | _ => exact absurd trivial hactive

/-- **What is written when**: only the worker writes, for an item that it is handed, and that is dated
before the present and not too long before the time of the drain that is going on. -/
theorem Happens.fresh (h : c.Ordered settings) (he : Happens e c k) :
    ∃ rs, k.records = c.records ++ rs ∧ (rs ≠ [] → e = .deliver) ∧
      ∀ x ∈ rs, x.type ≠ 11 → x.timestamp ≤ c.station.clock ∧ ∃ now ∈ c.draining,
        now ≤ c.station.clock ∧ elapsed x.timestamp now ≤ settings.maxItemDelay := by
  by_cases hdeliver : e = .deliver
  · subst hdeliver
    obtain ⟨now, id, item, busy, head, ready, rfl⟩ := he
    obtain ⟨-, hpunctual⟩ := h.timely.turn h.chained (.ready c.station id item head ready)
    obtain ⟨rs, hrecords, hfresh⟩ := hpunctual.fresh
    refine ⟨rs, hrecords, fun _ => rfl, fun x hx htype => ?_⟩
    obtain ⟨hpast, hyoung⟩ := hfresh x hx htype
    exact ⟨hpast, now, busy, h.begun now busy, h.delay ▸ hyoung⟩
  · have hwritten : k.station.output.storage.written = c.station.output.storage.written := by
      by_cases hpassive : e.Passive
      · have hgathers : Gathers (fun _ => True) c.station k.station :=
          he.gathers hpassive fun _ _ => trivial
        exact hgathers.written
      · exact (he.idles hpassive hdeliver).1
    refine ⟨[], ?_, fun hne => absurd rfl hne, fun _ hx => (List.not_mem_nil hx).elim⟩
    rw [List.append_nil]
    exact congrArg (fun written : Array Written =>
      written.toList.flatMap fun w => w.resolved.records) hwritten

/-- **Which touches are accepted when**: those that are reported, by the application or, while an item is
written, by the host. -/
theorem Happens.touches (he : Happens e c k) :
    ∃ new, k.touches = c.touches ++ new ∧ ∀ batch ∈ new, e = .deed (.touch batch) ∨
      e = .deliver ∧ ∃ turn ∈ c.station.output.storage.script, batch ∈ turn.touches := by
  by_cases hpassive : e.Passive
  · have hgathers : Gathers (fun batch => e = .deed (.touch batch)) c.station k.station :=
      he.gathers hpassive fun _ heq => heq
    obtain ⟨new, htouches, hnew⟩ := hgathers.joins.touches
    exact ⟨new, htouches, fun batch hbatch => .inl (hnew batch hbatch)⟩
  by_cases hdeliver : e = .deliver
  · subst hdeliver
    obtain ⟨now, id, item, -, -, -, rfl⟩ := he
    have hforeseen : c.station.takeHead.output.storage.Foresees fun batch =>
        ∃ turn ∈ c.station.output.storage.script, batch ∈ turn.touches :=
      fun turn hturn batch hbatch => ⟨turn, hturn, hbatch⟩
    obtain ⟨new, htouches, hnew⟩ := (Joins.process hforeseen item).touches
    refine ⟨new, ?_, fun batch hbatch => .inr ⟨rfl, hnew batch hbatch⟩⟩
    change (c.station.takeHead.afterHandling engine item).queue.touches = _
    unfold afterHandling
    split <;> exact htouches
  · exact ⟨[], by rw [(he.idles hpassive hdeliver).2, List.append_nil],
      fun _ hbatch => (List.not_mem_nil hbatch).elim⟩

/-- At some time the worker serves, and a view is active. -/
def serving (time : Int) : Chronicle where
  recording := { Recording.new {} with
    station :=
      { clock := time
        activeView := some ⟨"a", "s", "v"⟩
        queue := { maxItemDelay := 200, capacity := 128 }
        worker := .serving
        output := {}
        log := #[.workerStarted] } }

end Chronicle

end SessionReplay
