import Mathlib.Logic.Relation
import SessionReplay.Proofs.Recording.Registrations

/-!
# Windows that are no longer watched

Whatever happens to an application and its recording, the books about windows and watchers stay in
order, and snapshots are taken by watchers that are registered, or have just been set
(`Incident.effect`). A watcher keeps its list of windows, though, and goes through all of it for every
snapshot. So a window that is no longer watched is still shown if it shares its watcher with a window
that is (`stopped_window_still_shown`). It is shown in no other way until it is watched again
(`stopped_window_shown_with_others`).

Incidents are small. What the application and the time do is made of them: a draw (`course_draw`), time
that passes (`course_advance`), and the end of the recording (`course_stop`).
-/

namespace SessionReplay.Recording

open Station

variable {r t u c k : Recording} {started windows : List WindowRef} {w : WindowRef}
  {l : WatcherRef}

/-! ## What follows -/

/-- What becomes of a recording while some windows begin to be watched. -/
structure Follows (started : List WindowRef) (r t : Recording) : Prop where
  /-- Only those windows become registered, and with a new watcher. -/
  registry : ∀ {entry}, entry ∈ t.registry →
    entry ∈ r.registry ∨ entry.2.window ∈ started ∧ r.watchers.size ≤ entry.2.watcher
  /-- Watchers keep their lists, and only those windows are on the list of a new one. -/
  watchers : ∀ {l : WatcherRef} {new : Watcher}, t.watchers[l]? = some new →
    (∃ old, r.watchers[l]? = some old ∧ new.windows = old.windows) ∨
      r.watchers.size ≤ l ∧ ∀ w ∈ new.windows, w ∈ started
  /-- Watchers stay. -/
  size : r.watchers.size ≤ t.watchers.size
  /-- A window that is gone stays gone. -/
  gone : ∀ {w : WindowRef}, r.windows[w]? = some none → t.windows[w]? = some none
  /-- An item that gets its nodes shows the windows of a watcher that is registered or new. -/
  shown : ∀ {i item}, t.station.queue.item? i = some item →
    (∃ old, r.station.queue.item? i = some old ∧ item.nodes = old.nodes) ∨
    (∃ records, item.content = .touch records) ∨
    ∃ l watcher, t.watchers[l]? = some watcher ∧
      item.Pictures t.mappers (watcher.windows.filterMap t.window?) ∧
      (t.Registered l ∨ r.watchers.size ≤ l)

/-- Where registrations are taken away at most, no window is new. -/
theorem Trimmed.follows (h : r.Trimmed t) (started : List WindowRef) : Follows started r t where
  registry he := .inl (h.registry he)
  watchers hnew := .inl (h.watchers hnew)
  size := Nat.le_of_eq h.size.symm
  gone := h.windows.gone
  shown hitem := by
    rw [h.station] at hitem
    exact .inl ⟨_, hitem, rfl⟩

/-- What happens in the background does not matter to windows and watchers. -/
theorem Unmoved.follows (h : r.Unmoved t) (started : List WindowRef)
    (hshown : ∀ {i item}, t.station.queue.item? i = some item →
      (∃ old, r.station.queue.item? i = some old ∧ item.nodes = old.nodes) ∨
        ∃ records, item.content = .touch records) : Follows started r t where
  registry he := .inl (h.registry ▸ he)
  watchers hnew := .inl ⟨_, h.watchers ▸ hnew, rfl⟩
  size := Nat.le_of_eq (congrArg Array.size h.watchers.symm)
  gone hw := h.windows ▸ hw
  shown hitem := (hshown hitem).imp_right .inl

/-- A snapshot attempt shows what the watcher's windows show. -/
theorem Follows.attempt (h : Follows started r t) (hqueue : t.station.queue = r.station.queue)
    (hl : t.Registered l ∨ r.watchers.size ≤ l) : Follows started r (t.takeSnapshot l) := by
  have hsame := t.takeSnapshot_unmoved l
  refine ⟨?_, ?_, ?_, ?_, fun {i item} hitem => ?_⟩
  · rw [hsame.registry]
    exact h.registry
  · rw [hsame.watchers]
    exact h.watchers
  · rw [hsame.watchers]
    exact h.size
  · rw [hsame.windows]
    exact h.gone
  · rcases t.takeSnapshot_filled l hitem with ⟨old, hold, hnodes⟩ | ⟨watcher, hwatcher, hpictures⟩
    · exact .inl ⟨old, hqueue ▸ hold, hnodes⟩
    · refine .inr (.inr ⟨l, watcher, hsame.watchers ▸ hwatcher, ?_, ?_⟩)
      · rw [hsame.mappers, hsame.window?]
        exact hpictures
      · unfold Registered
        rw [hsame.registry]
        exact hl

/-- A new watcher is set on the windows on its list. -/
theorem Trimmed.follows_addWatcher (h : r.Trimmed t) {watcher : Watcher}
    (hregistry : ∀ entry ∈ u.registry, entry ∈ t.registry ∨
      entry.2.window ∈ watcher.windows ∧ entry.2.watcher = t.watchers.size)
    (hwatchers : ∀ {l : WatcherRef} {new : Watcher}, u.watchers[l]? = some new →
      ∃ old, (t.addWatcher watcher).watchers[l]? = some old ∧ new.windows = old.windows)
    (hsize : t.watchers.size ≤ u.watchers.size) (hwindows : t.SameWindows u)
    (hqueue : u.station.queue = t.station.queue) :
    Follows watcher.windows r u where
  registry {entry} he := by
    rcases hregistry entry he with hin | ⟨hin, hnew⟩
    · exact .inl (h.registry hin)
    · exact .inr ⟨hin, Nat.le_of_eq (h.size.symm.trans hnew.symm)⟩
  watchers hnew := by
    obtain ⟨found, hfound, hlist⟩ := hwatchers hnew
    rcases watchers_of_addWatcher hfound with hbefore | ⟨rfl, rfl⟩
    · obtain ⟨old, hold, hlist'⟩ := h.watchers hbefore
      exact .inl ⟨old, hold, hlist.trans hlist'⟩
    · exact .inr ⟨Nat.le_of_eq h.size.symm, fun w hw => hlist ▸ hw⟩
  size := h.size ▸ hsize
  gone := (h.windows.trans hwindows).gone
  shown hitem := by
    rw [hqueue, h.station] at hitem
    exact .inl ⟨_, hitem, rfl⟩

/-- **Some windows begin to be watched**, by a new watcher that takes a first snapshot. -/
theorem Regular.watch (h : r.Regular []) (running : r.stopped = false)
    (windows : List WindowRef) (owner : OwnerRef) :
    (r.watch windows owner).Regular [] ∧ Follows windows r (r.watch windows owner) := by
  obtain ⟨hcleared, htrimmed, hnone⟩ := h.unwatch windows
  unfold Recording.watch
  dsimp only
  split
  · exact ⟨hcleared, htrimmed.follows windows⟩
  let next := (r.unwatch windows).watchers.size
  let watcher : Watcher :=
    { owner := owner
      windows := windows
      debouncer :=
        { quiet := (r.unwatch windows).settings.debounce
          patience := (r.unwatch windows).settings.maxRecordDelay } }
  let joined := (r.unwatch windows).addWatcher watcher
  have hjoined : joined.Regular [] := hcleared.addWatcher rfl
  have hfree : joined.Free next windows :=
    ⟨⟨watcher, Array.getElem?_push_size, rfl⟩, fun w hw x hx e he => absurd he (hnone w hw x hx e),
      htrimmed.stopped.trans running⟩
  obtain ⟨hset, hwatchers, hstation, hwindows, hregistry⟩ :=
    hjoined.registerAll hfree (List.Subset.refl _)
  let placed := (windows.foldl (Recording.register · next ·) joined).note (.watching windows.length)
  have hplaced : placed.Regular [] := hset.unmoved ⟨rfl, rfl, rfl, rfl, rfl⟩
  have hkept := congrArg Station.queue hstation
  have hqueue : placed.station.queue = (r.unwatch windows).station.queue := hkept
  have hsilent : (placed.silence next).Regular [] :=
    hplaced.debounce (f := Debouncer.cancel) fun _ hlive => absurd rfl hlive
  have hfollows : Follows watcher.windows r (placed.silence next) := by
    refine htrimmed.follows_addWatcher hregistry (fun hnew => ?_) ?_ hwindows hqueue
    · obtain ⟨old, hold, hlist, -⟩ := watchers_of_modifyDebouncer hnew
      exact ⟨old, hwatchers ▸ hold, hlist⟩
    · have hgrown : (placed.silence next).watchers.size = next + 1 :=
        Array.size_modify.trans ((congrArg Array.size hwatchers).trans (Array.size_push _))
      exact hgrown ▸ Nat.le_succ next
  exact ⟨hsilent.unmoved (takeSnapshot_unmoved _ next),
    hfollows.attempt (hqueue.trans (congrArg Station.queue htrimmed.station))
      (.inr (Nat.le_of_eq htrimmed.size.symm))⟩

/-- Windows begin to be watched, as far as they are there. -/
theorem Regular.startRecording (h : r.Regular []) (windows : List WindowRef) (owner : OwnerRef) :
    (r.startRecording windows owner).2.Regular [] ∧
      Follows windows r (r.startRecording windows owner).2 := by
  have hsame : r.Regular [] ∧ Follows windows r r := ⟨h, (Trimmed.refl r).follows windows⟩
  unfold Recording.startRecording
  split
  next => exact hsame
  next =>
    dsimp only
    split
    · exact hsame
    next hrunning =>
      obtain ⟨hregular, hfollows⟩ :=
        h.watch (eq_false_of_ne_true hrunning) (r.openWindows windows) owner
      have hsub : ∀ w ∈ r.openWindows windows, w ∈ windows := fun w hw => (List.mem_filter.mp hw).1
      refine ⟨hregular, fun he => ?_, fun hnew => ?_, hfollows.size, hfollows.gone, hfollows.shown⟩
      · exact (hfollows.registry he).imp_right fun ⟨hw, hl⟩ => ⟨hsub _ hw, hl⟩
      · exact (hfollows.watchers hnew).imp_right fun ⟨hl, hw⟩ => ⟨hl, fun w hin => hsub w (hw w hin)⟩

/-- A watcher that is told of a draw takes a snapshot or waits. -/
theorem onDraw_cases (r : Recording) (l : WatcherRef) :
    r.onDraw l = r ∨ ∃ d, r.onDraw l = (r.modifyDebouncer l fun _ => d).takeSnapshot l ∨
      ∃ agenda, r.onDraw l = { r.modifyDebouncer l fun _ => d with agenda := agenda } := by
  unfold onDraw
  split
  next => exact .inl rfl
  next watcher _ =>
    split
    next d _ => exact .inr ⟨d, .inl rfl⟩
    next d _ => exact .inr ⟨d, .inr ⟨_, rfl⟩⟩

/-- A registered watcher is told of a draw. -/
theorem Regular.onDraw (h : r.Regular []) (hl : r.Registered l) :
    (r.onDraw l).Regular [] ∧ Follows [] r (r.onDraw l) := by
  have hregular : ∀ d, (r.modifyDebouncer l fun _ => d).Regular [] :=
    fun d => h.debounce fun _ _ => .inl hl
  have hfollows : ∀ d, Follows [] r (r.modifyDebouncer l fun _ => d) :=
    fun d => (Trimmed.modifyDebouncer r l fun _ => d).follows []
  rcases r.onDraw_cases l with hdraw | ⟨d, hdraw | ⟨agenda, hdraw⟩⟩ <;> rw [hdraw]
  · exact ⟨h, (Trimmed.refl r).follows []⟩
  · exact ⟨(hregular d).unmoved (takeSnapshot_unmoved _ l), (hfollows d).attempt rfl (.inl hl)⟩
  · exact ⟨(hregular d).unmoved ⟨rfl, rfl, rfl, rfl, rfl⟩, (hfollows d).registry,
      (hfollows d).watchers, (hfollows d).size, (hfollows d).gone, (hfollows d).shown⟩

/-- A watcher whose request is live is registered. -/
theorem Regular.registered_of_isLive (h : r.Regular []) {task : WatcherRef × Nat}
    (hlive : r.isLive task = true) : r.Registered task.1 := by
  unfold isLive at hlive
  split at hlive
  next => cases hlive
  next watcher hwatcher =>
    refine (h.waiting hwatcher ?_).resolve_right List.not_mem_nil
    rw [eq_of_beq hlive]
    exact Option.some_ne_none _

/-- A posted snapshot is run. -/
theorem Regular.runTask (h : r.Regular []) (task : WatcherRef × Nat) :
    (r.runTask task).Regular [] ∧ Follows [] r (r.runTask task) := by
  unfold Recording.runTask
  split
  next hlive =>
    have hregular : (r.modifyDebouncer task.1 Debouncer.complete).Regular [] :=
      h.debounce fun _ hwaits => absurd rfl hwaits
    have hfollows := (Trimmed.modifyDebouncer r task.1 Debouncer.complete).follows []
    exact ⟨hregular.unmoved (takeSnapshot_unmoved _ task.1),
      hfollows.attempt rfl (.inl (h.registered_of_isLive hlive))⟩
  next => exact ⟨h, (Trimmed.refl r).follows []⟩

/-- Something is done that is not about windows. -/
theorem Regular.perform (h : r.Regular []) {d : Deed} (background : d.Background) :
    (r.perform d).Regular [] ∧ Follows [] r (r.perform d) := by
  have hunmoved := r.perform_unmoved background
  have hd : ∀ w, d ≠ .snapshot w := by
    rintro w rfl
    exact background
  refine ⟨h.unmoved hunmoved, hunmoved.follows [] fun hitem => ?_⟩
  rcases r.perform_keeps hd with ⟨-, -, hkept⟩ | hjoined
  · obtain ⟨old, hold, hnodes⟩ := hkept.before hitem
    exact .inl ⟨old, hold, by rw [Item.nodes_eq, Item.nodes_eq, hnodes]⟩
  · exact (hjoined.joins hitem).imp_left fun hold => ⟨_, hold, rfl⟩

/-! ## What happens to windows and watchers -/

/-- One thing that happens to an application and its recording, while the given windows begin to be
watched. -/
inductive Incident : Recording → List WindowRef → Recording → Prop
  /-- Windows begin to be watched. -/
  | start (r : Recording) (windows : List WindowRef) (owner : OwnerRef) :
    Incident r windows (r.startRecording windows owner).2
  /-- Windows are no longer watched. -/
  | stop (r : Recording) (windows : List WindowRef) : Incident r [] (r.stopRecording windows)
  /-- No window is watched any more. -/
  | stopAll (r : Recording) : Incident r [] r.unwatchAll
  /-- The recording is stopped for good. -/
  | finish (r : Recording) (nothing : r.registry = []) : Incident r [] { r with stopped := true }
  /-- A watcher is told that a window was drawn. -/
  | tell (r : Recording) (w : WindowRef) (x : Window) (l : WatcherRef)
      (there : r.window? w = some x) (told : l ∈ x.watchers) : Incident r [] (r.onDraw l)
  /-- A posted snapshot is run, unless its request has been replaced or cancelled meanwhile. -/
  | run (r : Recording) (task : WatcherRef × Nat) : Incident r [] (r.runTask task)
  /-- The application opens a window whose id no other window has. -/
  | openWindow (r : Recording) (id : Nat) (view : Option View)
      (fresh : ∀ w x, r.window? w = some x → x.id ≠ id) : Incident r [] (r.openWindow id view)
  /-- The application closes a window. -/
  | closeWindow (r : Recording) (w : WindowRef) : Incident r [] (r.closeWindow w)
  /-- A window shows something else. -/
  | showView (r : Recording) (w : WindowRef) (view : Option View) :
    Incident r [] (r.showView w view)
  /-- Somebody does something that is not about windows. -/
  | deed (r : Recording) (d : Deed) (background : d.Background) : Incident r [] (r.perform d)
  /-- The worker does one thing. -/
  | work (r : Recording) (s : Station Output) (works : r.station.step? engine = some s) :
    Incident r [] { r with station := s }
  /-- Owners, timers and posted snapshots change, and which copies and encodings will end. -/
  | aside (r t : Recording) (unmoved : r.Unmoved t) (station : t.station = r.station) :
    Incident r [] t

/-- What can have become of a recording after some incidents, each with windows that are allowed to
begin to be watched. -/
abbrev Course (ok : List WindowRef → Prop) : Recording → Recording → Prop :=
  Relation.ReflTransGen fun r t => ∃ started, ok started ∧ Incident r started t

/-- A window that is gone is not opened again. -/
theorem gone_openWindow (r : Recording) (id : Nat) (view : Option View)
    (hw : r.windows[w]? = some none) : (r.openWindow id view).windows[w]? = some none := by
  obtain ⟨hlt, -⟩ := Array.getElem?_eq_some_iff.mp hw
  exact (Array.getElem?_push_lt hlt).trans ((Array.getElem?_eq_getElem hlt).symm.trans hw)

/-- A window that is gone stays gone when another one is closed. -/
theorem gone_closeWindow (r : Recording) (v : WindowRef) (hw : r.windows[w]? = some none) :
    (r.closeWindow v).windows[w]? = some none := by
  unfold closeWindow
  rw [Array.getElem?_setIfInBounds, hw]
  obtain ⟨hlt, -⟩ := Array.getElem?_eq_some_iff.mp hw
  split
  · next heq => rw [if_pos (heq ▸ hlt)]
  · rfl

/-- **What one incident does to windows and watchers.** The books stay in order, and a snapshot is taken
by a watcher that is registered, or has just been set. -/
theorem Incident.effect (h : Incident r started t) (hr : r.Regular []) :
    t.Regular [] ∧ Follows started r t := by
  have hsame : Follows [] r r := (Trimmed.refl r).follows []
  cases h with
  | start windows owner => exact hr.startRecording started owner
  | stop windows =>
    obtain ⟨hregular, htrimmed, -⟩ := hr.stopRecording windows
    exact ⟨hregular, htrimmed.follows []⟩
  | stopAll =>
    obtain ⟨hregular, htrimmed, -⟩ := hr.unwatchAll
    exact ⟨hregular, htrimmed.follows []⟩
  | finish nothing =>
    have hstopped : Regular { r with stopped := true } [] :=
      ⟨hr.distinct, hr.once, hr.told, hr.listed, hr.named, hr.waiting, fun _ => nothing⟩
    exact ⟨hstopped, hsame.registry, hsame.watchers, hsame.size, hsame.gone,
      fun hitem => .inl ⟨_, hitem, rfl⟩⟩
  | tell w x l there told => exact hr.onDraw ⟨_, hr.told there told, rfl⟩
  | run task => exact hr.runTask task
  | openWindow id view fresh =>
    exact ⟨hr.openWindow fresh view, hsame.registry, hsame.watchers, hsame.size,
      r.gone_openWindow id view, fun hitem => .inl ⟨_, hitem, rfl⟩⟩
  | closeWindow w =>
    exact ⟨hr.closeWindow w, hsame.registry, hsame.watchers, hsame.size, r.gone_closeWindow w,
      fun hitem => .inl ⟨_, hitem, rfl⟩⟩
  | showView w view =>
    have hregular : (r.showView w view).Regular [] :=
      hr.modifyWindow (fun _ => rfl) fun _ hx _ hl => hr.told hx hl
    have hwindows : r.SameWindows (r.showView w view) := .modifyWindow r w fun _ => rfl
    exact ⟨hregular, hsame.registry, hsame.watchers, hsame.size,
      hwindows.gone, fun hitem => .inl ⟨_, hitem, rfl⟩⟩
  | deed d background => exact hr.perform background
  | work s works =>
    have hunmoved : r.Unmoved { r with station := s } := ⟨rfl, rfl, rfl, rfl, rfl⟩
    refine ⟨hr.unmoved hunmoved, hunmoved.follows [] fun hitem => ?_⟩
    exact ((work_joined works).joins hitem).imp_left fun hold => ⟨_, hold, rfl⟩
  | aside _ unmoved station =>
    refine ⟨hr.unmoved unmoved, unmoved.follows [] fun hitem => .inl ⟨_, ?_, rfl⟩⟩
    rw [← station]
    exact hitem

/-- The books about windows and watchers are in order after any run. -/
theorem course_regular {ok : List WindowRef → Prop} (h : r.Regular []) (hrun : Course ok r t) :
    t.Regular [] := by
  induction hrun with
  | refl => exact h
  | tail _ hlast ih =>
    obtain ⟨started, -, hincident⟩ := hlast
    exact (hincident.effect ih).1

/-- A window that is gone stays gone. -/
theorem course_gone {ok : List WindowRef → Prop} (h : r.Regular []) (hrun : Course ok r t)
    (hw : r.windows[w]? = some none) : t.windows[w]? = some none := by
  induction hrun with
  | refl => exact hw
  | tail hbefore hlast ih =>
    obtain ⟨started, -, hincident⟩ := hlast
    exact (hincident.effect (course_regular h hbefore)).2.gone ih

/-- While no windows begin to be watched, nothing becomes registered. -/
theorem course_registry (h : r.Regular []) (hrun : Course (· = []) r t)
    {entry : Nat × Registration} (he : entry ∈ t.registry) : entry ∈ r.registry := by
  induction hrun with
  | refl => exact he
  | tail hbefore hlast ih =>
    obtain ⟨started, rfl, hincident⟩ := hlast
    rcases (hincident.effect (course_regular h hbefore)).2.registry he with hold | ⟨hnew, -⟩
    · exact ih hold
    · exact (List.not_mem_nil hnew).elim

/-! ## A window that is no longer watched -/

/-- Since a window was left, it has not begun to be watched again. -/
structure Left (r : Recording) (w : WindowRef) (c : Recording) : Prop where
  /-- It is not registered. -/
  away : ∀ {entry}, entry ∈ c.registry → entry.2.window ≠ w
  /-- Registrations of the watchers there were are as old as these. -/
  kept : ∀ {entry}, entry ∈ c.registry → entry.2.watcher < r.watchers.size → entry ∈ r.registry
  /-- It is on the list of no watcher set since. -/
  later : ∀ {l : WatcherRef} {watcher : Watcher}, r.watchers.size ≤ l →
    c.watchers[l]? = some watcher → w ∉ watcher.windows
  /-- Watchers have stayed. -/
  size : r.watchers.size ≤ c.watchers.size

namespace Left

/-- A window that is left is not registered. -/
theorem of_stop (h : r.Regular []) (hw : w ∈ windows) (hopen : (r.window? w).isSome = true) :
    Left (r.stopRecording windows) w (r.stopRecording windows) where
  away he := (h.stopRecording windows).2.2 w hw hopen _ he
  kept he _ := he
  later hl hfound := absurd (Array.getElem?_eq_some_iff.mp hfound).1 (Nat.not_lt_of_le hl)
  size := Nat.le_refl _

/-- It stays away as long as it is not among the windows that begin to be watched. -/
theorem step (h : Left r w c) (hfollows : Follows started c k) (hout : w ∉ started) :
    Left r w k := by
  refine ⟨fun he heq => ?_, fun he hlt => ?_, fun hl hfound hin => ?_, h.size.trans hfollows.size⟩
  · rcases hfollows.registry he with hold | ⟨hnew, -⟩
    · exact h.away hold heq
    · exact hout (heq ▸ hnew)
  · rcases hfollows.registry he with hold | ⟨-, hnew⟩
    · exact h.kept hold hlt
    · exact absurd (hlt.trans_le (h.size.trans hnew)) (Nat.lt_irrefl _)
  · rcases hfollows.watchers hfound with ⟨old, hold, hlist⟩ | ⟨-, hall⟩
    · exact h.later hl hold (hlist ▸ hin)
    · exact hout (hall w hin)

/-- It is left after any course on which it is not watched. -/
theorem run (h : Left r w c) (hc : c.Regular []) (hrun : Course (w ∉ ·) c k) : Left r w k := by
  induction hrun with
  | refl => exact h
  | tail hbefore hlast ih =>
    obtain ⟨started, hout, hincident⟩ := hlast
    exact ih.step (hincident.effect (course_regular hc hbefore)).2 hout

end Left

/-- A window that was opened and is not there is gone. -/
theorem gone_of_window? (hknown : w < r.windows.size) (hclosed : ¬(r.window? w).isSome = true) :
    r.windows[w]? = some none := by
  cases hw : r.windows[w]? with
  | none => exact absurd hknown (Nat.not_lt_of_le (Array.getElem?_eq_none_iff.mp hw))
  | some found =>
    unfold window? at hclosed
    rw [hw] at hclosed
    cases found with
    | none => rfl
    | some x => exact absurd rfl hclosed

/-- **A window that is no longer watched is shown with others only.** Some windows are no longer
watched, and one of them does not begin to be watched again. When a snapshot is taken then, it shows
the windows on the list of a watcher that are there. If the window is among them, the watcher was set
before, and it was registered for another window on its list then and still is. -/
theorem stopped_window_shown_with_others {settings : Settings}
    (hrun : Course (fun _ => True) (new settings) r) (hw : w ∈ windows)
    (hknown : w < r.windows.size) (hlater : Course (w ∉ ·) (r.stopRecording windows) c)
    (hstep : Incident c started k) (hout : w ∉ started) {i : ItemId} {item : Item}
    (hitem : k.station.queue.item? i = some item) :
    (∃ old, c.station.queue.item? i = some old ∧ item.nodes = old.nodes) ∨
    (∃ records, item.content = .touch records) ∨
    ∃ l watcher, k.watchers[l]? = some watcher ∧
      item.Pictures k.mappers (watcher.windows.filterMap k.window?) ∧
      (w ∈ watcher.windows → (k.window? w).isSome = true → l < r.watchers.size ∧
        ∃ entry ∈ (r.stopRecording windows).registry, entry ∈ k.registry ∧
          entry.2.watcher = l ∧ entry.2.window ∈ watcher.windows ∧ entry.2.window ≠ w) := by
  have hr : r.Regular [] := course_regular (.new settings) hrun
  obtain ⟨hstopped, htrimmed, -⟩ := hr.stopRecording windows
  have hc : c.Regular [] := course_regular hstopped hlater
  obtain ⟨hk, hfollows⟩ := hstep.effect hc
  refine (hfollows.shown hitem).imp_right (Or.imp_right ?_)
  rintro ⟨l, watcher, hwatcher, hpictures, hregistered⟩
  refine ⟨l, watcher, hwatcher, hpictures, fun hlisted hthere => ?_⟩
  have hopen : (r.window? w).isSome = true := by
    by_contra hclosed
    have hgone := hfollows.gone (course_gone hstopped hlater
      (htrimmed.windows.gone (gone_of_window? hknown hclosed)))
    unfold window? at hthere
    rw [hgone] at hthere
    cases hthere
  have hleft := (Left.of_stop hr hw hopen).run hstopped hlater
  have hleft' := hleft.step hfollows hout
  have hold : l < (r.stopRecording windows).watchers.size :=
    Nat.lt_of_not_le fun hle => hleft'.later hle hwatcher hlisted
  obtain ⟨⟨id, e⟩, hentry, rfl⟩ :=
    hregistered.resolve_right fun hle => Nat.not_lt_of_le (hleft.size.trans hle) hold
  obtain ⟨found, hfound, hin⟩ := hk.listed hentry
  obtain rfl : watcher = found := Option.some.inj (hwatcher.symm.trans hfound)
  exact ⟨htrimmed.size ▸ hold, _, hleft'.kept hentry hold, hentry, rfl, hin, hleft'.away hentry⟩

/-! ## Draws, timers and calls are incidents -/

section Courses

variable {ok : List WindowRef → Prop} (hok : ok [])

include hok

/-- One incident is a course. -/
theorem course_single (h : Incident r [] t) : Course ok r t := .single ⟨[], hok, h⟩

/-- When a window is drawn, all watchers on it are told. -/
theorem course_draw (r : Recording) (w : WindowRef) : Course ok r (r.draw w) := by
  unfold draw
  split
  next => exact .refl
  next x hx =>
    have htell : ∀ (ls : List WatcherRef) (t : Recording), ls ⊆ x.watchers → t.window? w = some x →
        Course ok t (ls.foldl onDraw t) := by
      intro ls
      induction ls with
      | nil => exact fun _ _ _ => .refl
      | cons l ls ih =>
        intro t hsub ht
        have hnext : (t.onDraw l).window? w = some x := by
          rcases t.onDraw_cases l with h | ⟨d, h | ⟨agenda, h⟩⟩ <;> rw [h]
          · exact ht
          · rw [(takeSnapshot_unmoved _ l).window?]
            exact ht
          · exact ht
        have htold := course_single hok (.tell t w x l ht (hsub List.mem_cons_self))
        exact htold.trans (ih _ (fun _ hin => hsub (List.mem_cons_of_mem l hin)) hnext)
    exact htell x.watchers r (List.Subset.refl _) hx

/-- Posted snapshots are run one after the other. -/
theorem course_runPosted (r : Recording) : Course ok r r.runPosted.2 := by
  have hrun : ∀ (tasks : List (WatcherRef × Nat)) (t : Recording),
      Course ok t (tasks.foldl runTask t) := by
    intro tasks
    induction tasks with
    | nil => exact fun _ => .refl
    | cons task tasks ih =>
      exact fun t => (course_single hok (.run t task)).trans (ih (t.runTask task))
  have htaken : Incident r [] { r with agenda := r.agenda.takePosted.2 } :=
    .aside r _ ⟨rfl, rfl, rfl, rfl, rfl⟩ rfl
  exact (course_single hok htaken).trans (hrun r.agenda.posted _)

/-- Copied pixels are encoded one after the other. -/
theorem course_encodeAll (r : Recording) : Course ok r r.encodeAll := by
  have hencode : ∀ (copied : List (Copy × Bitmap)) (t : Recording),
      Course ok { t with encoding := copied }
        (copied.foldl (fun t pair => t.encode pair.1 pair.2) { t with encoding := [] }) := by
    intro copied
    induction copied with
    | nil => exact fun _ => .refl
    | cons pair copied ih =>
      intro t
      obtain ⟨c, bitmap⟩ := pair
      have hcommute : ∀ rest, ({ t with encoding := rest } : Recording).encode c bitmap
          = { t.encode c bitmap with encoding := rest } := by
        intro rest
        unfold encode
        dsimp only
        split <;> rfl
      have hfirst : Incident { t with encoding := (c, bitmap) :: copied } []
          (({ t with encoding := copied } : Recording).encode c bitmap) :=
        .deed _ (.complete (.encoding 0)) trivial
      have hrest := ih (t.encode c bitmap)
      rw [hcommute] at hfirst
      rw [List.foldl_cons]
      dsimp only
      rw [hcommute]
      exact (course_single hok hfirst).trans hrest
  exact hencode r.encoding r

/-- The worker does one thing after the other. -/
theorem course_work (r : Recording) : Course ok r r.work := by
  have hserve : ∀ (fuel : Nat) (t : Recording),
      Course ok t { t with station := t.station.serve engine fuel } := by
    intro fuel
    induction fuel with
    | zero => exact fun _ => .refl
    | succ fuel ih =>
      intro t
      cases hstep : t.station.step? engine with
      | none =>
        have hserve : t.station.serve engine (fuel + 1) = t.station := by
          unfold serve
          rw [hstep]
        rw [hserve]
      | some next =>
        have hserve : t.station.serve engine (fuel + 1) = next.serve engine fuel := by
          rw [serve, hstep]
        rw [hserve]
        exact (course_single hok (.work t next hstep)).trans (ih { t with station := next })
  exact hserve _ r

/-- Whatever happens while no time passes, it is incidents. -/
theorem course_settle (r : Recording) : Course ok r r.settle := by
  have hexpire : Course ok r r.expire :=
    course_single hok (.aside r _ ⟨rfl, rfl, rfl, rfl, rfl⟩ rfl)
  unfold settle
  dsimp only
  split
  · exact (hexpire.trans (course_runPosted hok _)).trans
      ((course_encodeAll hok _).trans (course_work hok _))
  · exact hexpire.trans ((course_encodeAll hok _).trans (course_work hok _))

/-- Time passes, timers fire, and posted snapshots are run. -/
theorem course_advance (millis : Nat) (r : Recording) : Course ok r (r.advance millis) := by
  induction millis generalizing r with
  | zero => exact .refl
  | succ millis ih =>
    let ticked := r.setClock (r.station.clock + 1)
    let elapsed : Recording := { ticked with agenda := r.agenda.elapse nanosPerMilli }
    have hclock : Course ok r ticked := course_single hok (.deed r (.setClock _) trivial)
    have helapse : Course ok ticked elapsed :=
      course_single hok (.aside ticked elapsed ⟨rfl, rfl, rfl, rfl, rfl⟩ rfl)
    exact ((hclock.trans helapse).trans (course_settle hok elapsed)).trans (ih r.tick)

/-- The host waits until everything complete is written. -/
theorem course_flush (r : Recording) : Course ok r r.flush.2 := by
  unfold flush
  split
  · exact .refl
  · unfold Station.flush
    cases hsend : r.station.sendFlush with
    | error error => exact .refl
    | ok sent =>
      have hcall : r.station.call .sendFlush = sent.2 := by
        unfold Station.call
        rw [hsend]
      have hsent : Course ok r { r with station := sent.2 } :=
        course_single hok (hcall ▸ .deed r .flush trivial)
      exact hsent.trans (course_work hok _)

/-- Everything complete is written, and the worker stops. -/
theorem course_finish (r : Recording) : Course ok r r.finish.2 := by
  have hflush := course_flush hok r
  unfold finish
  split
  next error flushed heq =>
    rw [heq] at hflush
    exact hflush
  next outcome flushed heq =>
    rw [heq] at hflush
    let event : Log.Event := .finalDrain outcome.processed outcome.discarded
    have hnoted : Course ok r (flushed.note event) :=
      hflush.trans (course_single hok (.deed flushed (.note event) trivial))
    have htold : Course ok r (flushed.note event).shutdown.2 :=
      hnoted.trans (course_single hok (.deed (flushed.note event) .shutdown trivial))
    dsimp only
    split
    next error told heq' =>
      rw [heq'] at htold
      exact htold
    next told heq' =>
      rw [heq'] at htold
      exact (htold.trans (course_work hok told)).trans
        (course_single hok (.deed told.work (.note .recordingStopped) trivial))

/-- The recording is stopped for good. -/
theorem course_stop (hr : r.Regular []) : Course ok r r.stop.2 := by
  obtain ⟨hregular, -, hnone⟩ := hr.unwatchAll
  have hall : Course ok r r.unwatchAll := course_single hok (.stopAll r)
  have hfinish : Course (· = []) r.unwatchAll r.unwatchAll.finish.2 :=
    @course_finish (· = []) rfl r.unwatchAll
  have hnothing : r.unwatchAll.finish.2.registry = [] :=
    List.eq_nil_iff_forall_not_mem.mpr fun entry he =>
      List.not_mem_nil (hnone ▸ course_registry hregular hfinish he)
  exact (hall.trans (course_finish hok _)).trans (course_single hok (.finish _ hnothing))

end Courses

/-! ## Two windows that share a watcher -/

/-- An application opens two windows. -/
def opened : Recording :=
  ((new {}).openWindow 1 (some { id := 1 })).openWindow 2 (some { id := 2 })

/-- They are watched together. -/
def twoWindows : Recording :=
  (((opened.addOwner {}).activate (some ⟨"a", "s", "v"⟩)).startRecording [0, 1] 0).2

/-- One of them is no longer watched, the other one was drawn, and the time has come to take a
snapshot of it. -/
def oneLeft : Recording :=
  { (twoWindows.stopRecording [0]).onDraw 0 with agenda := { now := 64 * nanosPerMilli } }

/-- Two windows can be opened. -/
theorem course_opened : Course (fun _ => True) (new {}) opened := by
  refine (course_single trivial
    (.openWindow (new {}) 1 (some { id := 1 }) fun _ _ hx => nomatch hx)).tail
    ⟨[], trivial, .openWindow _ 2 (some { id := 2 }) fun w x hx => ?_⟩
  cases w with
  | zero =>
    cases hx
    exact nofun
  | succ w => cases hx

/-- They can be watched together. -/
theorem course_twoWindows : Course (fun _ => True) (new {}) twoWindows :=
  ((course_opened.tail
    ⟨[], trivial, .aside opened (opened.addOwner {}) ⟨rfl, rfl, rfl, rfl, rfl⟩ rfl⟩).tail
    ⟨[], trivial, .deed (opened.addOwner {}) (.activate (some ⟨"a", "s", "v"⟩)) trivial⟩).tail
    ⟨[0, 1], trivial, .start ((opened.addOwner {}).activate (some ⟨"a", "s", "v"⟩)) [0, 1] 0⟩

/-- The other window can be drawn once the first one is no longer watched. -/
theorem course_oneLeft : Course (0 ∉ ·) (twoWindows.stopRecording [0]) oneLeft :=
  (course_single List.not_mem_nil (.tell _ 1 _ 0 rfl List.mem_cons_self)).tail
    ⟨[], List.not_mem_nil, .aside _ oneLeft ⟨rfl, rfl, rfl, rfl, rfl⟩ rfl⟩

/-- There are windows when the first one is let go. -/
theorem size_twoWindows : 0 < twoWindows.windows.size := by decide +kernel

/-- When the snapshot is taken, the window that was let go is still there. -/
theorem open_oneLeft : ((oneLeft.runTask (0, 0)).window? 0).isSome = true := by decide +kernel

/-- The snapshot shows what both windows show. -/
theorem wireframes_oneLeft : ∃ item, (oneLeft.runTask (0, 0)).station.queue.item? 1 = some item ∧
    (Node.flattenAll item.nodes).map Wireframe.id = [1, 2] := by
  have hids : ((oneLeft.runTask (0, 0)).station.queue.item? 1).map
      (fun item => (Node.flattenAll item.nodes).map Wireframe.id) = some [1, 2] := by decide +kernel
  exact Option.map_eq_some_iff.mp hids

/-- It was not there before, and is no batch of touches. -/
theorem new_oneLeft {item : Item} {p : Prop}
    (hids : (Node.flattenAll item.nodes).map Wireframe.id = [1, 2])
    (h : (∃ old, oneLeft.station.queue.item? 1 = some old ∧ item.nodes = old.nodes) ∨
      (∃ records, item.content = .touch records) ∨ p) : p := by
  have hnone : (oneLeft.station.queue.item? 1).isNone = true := by decide +kernel
  rcases h with ⟨old, hold, -⟩ | ⟨records, htouch⟩ | hp
  · rw [hold] at hnone
    cases hnone
  · unfold Item.nodes at hids
    rw [htouch] at hids
    cases hids
  · exact hp

/-- The list of the only watcher is as it was set. -/
theorem list_oneLeft {watcher : Watcher}
    (h : (oneLeft.runTask (0, 0)).watchers[l]? = some watcher) : watcher.windows = [0, 1] := by
  have hlists : (oneLeft.runTask (0, 0)).watchers.map Watcher.windows = #[[0, 1]] := by
    decide +kernel
  have hmem := Array.mem_map_of_mem (f := Watcher.windows) (Array.mem_of_getElem? h)
  rw [hlists] at hmem
  exact Array.mem_singleton.mp hmem

/-- The window that is no longer watched is shown, since its watcher is registered for the other
one. -/
theorem stopped_window_shown_with_the_other :
    Course (fun _ => True) (new {}) twoWindows ∧
      Course (0 ∉ ·) (twoWindows.stopRecording [0]) oneLeft ∧
      ∃ item, (oneLeft.runTask (0, 0)).station.queue.item? 1 = some item ∧
        (Node.flattenAll item.nodes).map Wireframe.id = [1, 2] ∧
        ∃ entry ∈ (twoWindows.stopRecording [0]).registry, entry.2.window ≠ 0 := by
  obtain ⟨item, hitem, hids⟩ := wireframes_oneLeft
  obtain ⟨l, watcher, hwatcher, -, hshared⟩ := new_oneLeft hids
    (stopped_window_shown_with_others course_twoWindows (List.mem_cons_self : 0 ∈ [0])
      size_twoWindows course_oneLeft (.run oneLeft (0, 0)) List.not_mem_nil hitem)
  have hlisted : 0 ∈ watcher.windows := list_oneLeft hwatcher ▸ List.mem_cons_self
  obtain ⟨-, entry, hentry, -, -, -, hne⟩ := hshared hlisted open_oneLeft
  exact ⟨course_twoWindows, course_oneLeft, item, hitem, hids, entry, hentry, hne⟩

/-- **A window that is no longer watched may still be shown**, in snapshots of a window that it was
watched together with. -/
theorem stopped_window_still_shown :
    ¬∀ {settings : Settings} {r c k : Recording} {windows started : List WindowRef}
      {w : WindowRef}, Course (fun _ => True) (new settings) r → w ∈ windows →
      w < r.windows.size → Course (w ∉ ·) (r.stopRecording windows) c →
      Incident c started k → w ∉ started → ∀ {i : ItemId} {item : Item},
      k.station.queue.item? i = some item →
        (∃ old, c.station.queue.item? i = some old ∧ item.nodes = old.nodes) ∨
        (∃ records, item.content = .touch records) ∨
        ∃ (l : WatcherRef) (watcher : Watcher), k.watchers[l]? = some watcher ∧
          item.Pictures k.mappers (watcher.windows.filterMap k.window?) ∧
          (w ∈ watcher.windows → k.window? w = none) := by
  intro hclaim
  obtain ⟨item, hitem, hids⟩ := wireframes_oneLeft
  obtain ⟨l, watcher, hwatcher, -, hnot⟩ := new_oneLeft hids
    (hclaim course_twoWindows (List.mem_cons_self : 0 ∈ [0]) size_twoWindows
      course_oneLeft (.run oneLeft (0, 0)) List.not_mem_nil hitem)
  have hgone := hnot (list_oneLeft hwatcher ▸ List.mem_cons_self)
  exact absurd open_oneLeft (hgone ▸ Bool.false_ne_true)

end SessionReplay.Recording
