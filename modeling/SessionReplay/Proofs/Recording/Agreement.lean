import SessionReplay.Proofs.Recording.StoppedWindows

/-!
# The registry and the windows agree

Who watches a window is written down twice: in the registry, by the window's id, and in the window
itself. `Regular` says that the registry knows all that the windows know; `Matched` says the converse,
that a registered window that is still there is watched by the registered watcher. It needs every
window to have an id of its own (`Named`), also those that are gone: a registration stays behind when
its window is closed.

With both, a window that is there is watched exactly if its id is registered, by the registered
watcher only, and a snapshot that can still be taken is one of a registered watcher
(`registry_agrees_with_windows`).
-/

namespace SessionReplay.Recording

variable {r t : Recording} {name : WindowRef → Nat} {v w : WindowRef} {x y : Window}
  {l : WatcherRef}

/-- The windows that are there have the ids they were given. -/
def Named (name : WindowRef → Nat) (r : Recording) : Prop :=
  ∀ w x, r.window? w = some x → x.id = name w

/-- Windows that are the same have the same ids. -/
theorem Named.same (h : r.Named name) (hsame : r.SameWindows t) : t.Named name := by
  intro w y hy
  obtain ⟨x, hx, hid⟩ := hsame.window hy
  exact hid.symm.trans (h w x hx)

/-- Registered windows are watched. -/
structure Matched (name : WindowRef → Nat) (r : Recording) : Prop where
  /-- Windows have ids of their own. -/
  named : r.Named name
  /-- A window is registered by its id. -/
  keyed : ∀ {id e}, (id, e) ∈ r.registry → id = name e.window
  /-- If it is there, its watcher is set on it. -/
  present : ∀ {id e x}, (id, e) ∈ r.registry → r.window? e.window = some x → e.watcher ∈ x.watchers

namespace Matched

/-- Nothing is registered in a new recording. -/
theorem new (settings : Settings) : (Recording.new settings).Matched name where
  named _ _ h := nomatch h
  keyed h := (List.not_mem_nil h).elim
  present h := (List.not_mem_nil h).elim

/-- Only the windows and the registry matter. -/
theorem congr (h : r.Matched name) (hwindows : t.windows = r.windows)
    (hregistry : t.registry = r.registry) : t.Matched name := by
  have hwindow : t.window? = r.window? := by
    funext w
    unfold window?
    rw [hwindows]
  constructor
  · unfold Named
    rw [hwindow]
    exact h.named
  · rw [hregistry]
    exact h.keyed
  · rw [hregistry, hwindow]
    exact h.present

/-- Agreement lasts while windows and registrations stay. -/
theorem unmoved (h : r.Matched name) (hsame : r.Unmoved t) : t.Matched name :=
  h.congr hsame.windows hsame.registry

/-- Without registrations nothing has to be watched. -/
theorem of_nil (hnamed : t.Named name) (hnone : t.registry = []) : t.Matched name where
  named := hnamed
  keyed := by simp [hnone]
  present := by simp [hnone]

/-- A window is registered under its own id only. -/
theorem window_eq (h : r.Matched name) (hname : Function.Injective name) (hx : r.window? w = some x)
    {e : Registration} (he : (x.id, e) ∈ r.registry) : e.window = w :=
  hname ((h.keyed he).symm.trans (h.named w x hx))

/-- **A window that is no longer watched** is not registered; the others are left alone. -/
theorem unregister (h : r.Matched name) (orphans : List WatcherRef) (w : WindowRef) :
    (unregister (r, orphans) w).1.Matched name := by
  unfold Recording.unregister
  dsimp only
  split
  next => exact h
  next x hx =>
    split
    next => exact h
    next registration hfound =>
      constructor
      case named => exact h.named.same (.modifyWindow r w fun _ => rfl)
      case keyed => exact fun he => h.keyed (mem_other_ids.mp he).1
      case present =>
        intro id e y he hy
        obtain ⟨hin, hother⟩ := mem_other_ids.mp he
        rcases window?_of_modifyWindow hy with ⟨-, hy'⟩ | ⟨hw, -⟩
        · exact h.present hin hy'
        · have hid : id = x.id := by rw [h.keyed hin, ← hw, h.named w x hx]
          exact absurd hid hother

/-- Windows that are no longer watched are not registered, and the others still agree. -/
theorem unwatch (h : r.Matched name) (windows : List WindowRef) :
    (r.unwatch windows).Matched name := by
  have hunregister : ∀ (windows : List WindowRef) (state : Recording × List WatcherRef),
      state.1.Matched name → (windows.foldl Recording.unregister state).1.Matched name := by
    intro windows
    induction windows with
    | nil => exact fun _ h => h
    | cons w windows ih => exact fun state h => ih _ (h.unregister state.2 w)
  have hsilence : ∀ (orphans : List WatcherRef) (r : Recording), r.Matched name →
      (orphans.foldl Recording.silence r).Matched name := by
    intro orphans
    induction orphans with
    | nil => exact fun _ h => h
    | cons watcher orphans ih => exact fun r h => ih _ (h.congr rfl rfl)
  exact hsilence _ _ (hunregister windows (r, []) h)

/-- **A watcher that is registered for a window** is set on it. -/
theorem register (h : r.Matched name) (l : WatcherRef) (w : WindowRef) :
    (r.register l w).Matched name := by
  unfold Recording.register
  split
  next => exact h
  next x hx =>
    constructor
    case named => exact h.named.same (.modifyWindow r w fun _ => rfl)
    case keyed =>
      intro id e he
      rcases List.mem_cons.mp he with heq | he
      · cases heq
        exact h.named w x hx
      · exact h.keyed (mem_other_ids.mp he).1
    case present =>
      intro id e y he hy
      rcases List.mem_cons.mp he with heq | he
      · cases heq
        rcases window?_of_modifyWindow hy with ⟨hne, -⟩ | ⟨-, z, -, rfl⟩
        · exact absurd rfl hne
        · simp
      · obtain ⟨hin, hother⟩ := mem_other_ids.mp he
        rcases window?_of_modifyWindow hy with ⟨-, hy'⟩ | ⟨hw, -⟩
        · exact h.present hin hy'
        · have hid : id = x.id := by rw [h.keyed hin, ← hw, h.named w x hx]
          exact absurd hid hother

/-- Windows that begin to be watched are registered and watched. -/
theorem watch (h : r.Matched name) (windows : List WindowRef) (owner : OwnerRef) :
    (r.watch windows owner).Matched name := by
  have hregister : ∀ (l : WatcherRef) (windows : List WindowRef) (r : Recording), r.Matched name →
      (windows.foldl (Recording.register · l ·) r).Matched name := by
    intro l windows
    induction windows with
    | nil => exact fun _ h => h
    | cons w windows ih => exact fun r h => ih _ (h.register l w)
  have hcleared := h.unwatch windows
  unfold Recording.watch
  dsimp only
  split
  · exact hcleared
  · refine unmoved ?_ (takeSnapshot_unmoved _ _)
    refine congr (r := windows.foldl _ _) (hregister _ _ _ ?_) rfl rfl
    exact hcleared.congr rfl rfl

/-- Nothing is registered any more. -/
theorem unwatchAll (h : r.Matched name) (hr : r.Regular []) : r.unwatchAll.Matched name := by
  obtain ⟨-, htrimmed, hnone⟩ := hr.unwatchAll
  exact of_nil (h.named.same htrimmed.windows) hnone

/-- A draw leaves windows and registrations as they are. -/
theorem onDraw (h : r.Matched name) (l : WatcherRef) : (r.onDraw l).Matched name := by
  rcases r.onDraw_cases l with hdraw | ⟨d, hdraw | ⟨agenda, hdraw⟩⟩ <;> rw [hdraw]
  · exact h
  · exact (h.congr rfl rfl : (r.modifyDebouncer l fun _ => d).Matched name).unmoved
      (takeSnapshot_unmoved _ l)
  · exact h.congr rfl rfl

/-- So does a snapshot that was posted. -/
theorem runTask (h : r.Matched name) (task : WatcherRef × Nat) : (r.runTask task).Matched name := by
  unfold Recording.runTask
  split
  · have hcompleted : (r.modifyDebouncer task.1 Debouncer.complete).Matched name := h.congr rfl rfl
    exact hcompleted.unmoved (takeSnapshot_unmoved _ task.1)
  · exact h

/-- **Every incident keeps registered windows watched**, if a window that is opened gets an id of its
own. -/
theorem incident (h : r.Matched name) (hr : r.Regular []) {started : List WindowRef}
    (hincident : Incident r started t) (hnamed : t.Named name) : t.Matched name := by
  cases hincident with
  | start _ owner =>
    unfold startRecording
    split
    · exact h
    · dsimp only
      split
      · exact h
      · exact h.watch (r.openWindows started) owner
  | stop windows =>
    unfold stopRecording
    split
    · exact h
    · exact h.unwatch (r.openWindows windows)
  | stopAll => exact h.unwatchAll hr
  | finish nothing => exact h.congr rfl rfl
  | tell w x l there told => exact h.onDraw l
  | run task => exact h.runTask task
  | openWindow id view fresh =>
    refine ⟨hnamed, h.keyed, fun he hx => ?_⟩
    rcases window?_of_openWindow hx with hx | ⟨hnew, -⟩
    · exact h.present he hx
    · exact absurd hnew (Nat.ne_of_lt (hr.named he).1)
  | closeWindow w => exact ⟨hnamed, h.keyed, fun he hx => h.present he (window?_of_closeWindow hx)⟩
  | showView w view =>
    refine ⟨hnamed, h.keyed, fun he hx => ?_⟩
    rcases window?_of_modifyWindow hx with ⟨-, hx⟩ | ⟨-, y, hy, rfl⟩
    · exact h.present he hx
    · have hset := h.present he hy
      exact hset
  | deed d background => exact h.unmoved (r.perform_unmoved background)
  | work s works => exact h.congr rfl rfl
  | aside _ unmoved station => exact h.unmoved unmoved

end Matched

/-- What can have become of a recording after some incidents, while every window that is opened gets
an id of its own. -/
abbrev NamedCourse (name : WindowRef → Nat) : Recording → Recording → Prop :=
  Relation.ReflTransGen fun r t => ∃ started, Incident r started t ∧ t.Named name

/-- Both sides are right after any run. -/
theorem matched_of_course {settings : Settings} (hrun : NamedCourse name (new settings) r) :
    r.Regular [] ∧ r.Matched name := by
  induction hrun with
  | refl => exact ⟨.new settings, .new settings⟩
  | tail _ hlast ih =>
    obtain ⟨hregular, hmatched⟩ := ih
    obtain ⟨started, hincident, hnamed⟩ := hlast
    exact ⟨(hincident.effect hregular).1, hmatched.incident hregular hincident hnamed⟩

/-- The registration of an id is the one that is found. -/
theorem Regular.lookup_eq_some_iff {orphans : List WatcherRef} (h : r.Regular orphans) {id : Nat}
    {e : Registration} : r.registry.lookup id = some e ↔ (id, e) ∈ r.registry := by
  constructor
  · intro hfound
    obtain ⟨before, after, hregistry, -⟩ := List.lookup_eq_some_iff.mp hfound
    simp [hregistry]
  · intro he
    cases hfound : r.registry.lookup id with
    | none => exact absurd rfl (bne_iff_ne.mp (List.lookup_eq_none_iff.mp hfound _ he))
    | some found =>
      obtain ⟨before, after, hregistry, -⟩ := List.lookup_eq_some_iff.mp hfound
      have hin : (id, found) ∈ r.registry := by simp [hregistry]
      rw [h.once hin he]

/-- Where nothing is registered, no window is watched and no snapshot can be taken. -/
theorem Regular.quiet (h : r.Regular []) (hnone : r.registry = []) :
    (∀ w x, r.window? w = some x → x.watchers = []) ∧
      ∀ task, r.isLive task = false ∧ r.runTask task = r := by
  have hdead : ∀ task, r.isLive task = false := by
    intro task
    refine Bool.eq_false_iff.mpr fun hlive => ?_
    obtain ⟨entry, he, -⟩ := h.registered_of_isLive hlive
    simp [hnone] at he
  refine ⟨fun w x hx => List.eq_nil_iff_forall_not_mem.mpr fun l hl => ?_,
    fun task => ⟨hdead task, by simp [Recording.runTask, hdead task]⟩⟩
  have he := h.told hx hl
  simp [hnone] at he

/-- **The registry and the windows agree.** After any incidents, and if windows have ids of their own,
those that are gone included:

* a window that is there is watched exactly if its id is registered; then it is the window that was
  registered, and only the watcher of that registration is on it, as often as it was set;
* a watcher whose snapshot can still be taken is registered for some window;
* once no window is watched any more, nothing is registered, no window that is there has a watcher,
  and no timer and no posted snapshot can take one; and so it stays until windows begin to be watched
  again. -/
theorem registry_agrees_with_windows {settings : Settings} (hname : Function.Injective name)
    (hrun : NamedCourse name (new settings) r) :
    (∀ w x, r.window? w = some x →
      (x.watchers ≠ [] ↔ (r.registry.lookup x.id).isSome = true) ∧
      ∀ e, r.registry.lookup x.id = some e → e.window = w ∧ ∀ l ∈ x.watchers, l = e.watcher) ∧
    (∀ task, r.isLive task = true → ∃ entry ∈ r.registry, entry.2.watcher = task.1) ∧
    ∀ t, Course (· = []) r.unwatchAll t →
      t.registry = [] ∧ (∀ w x, t.window? w = some x → x.watchers = []) ∧
      ∀ task, t.isLive task = false ∧ t.runTask task = t := by
  obtain ⟨hregular, hmatched⟩ := matched_of_course hrun
  refine ⟨fun w x hx => ⟨⟨?watched, ?registered⟩, ?same⟩, fun task => hregular.registered_of_isLive,
    ?stopped⟩
  case watched =>
    intro hwatched
    obtain ⟨l, hl⟩ := List.exists_mem_of_ne_nil _ hwatched
    rw [hregular.lookup_eq_some_iff.mpr (hregular.told hx hl)]
    rfl
  case registered =>
    intro hfound
    obtain ⟨e, he⟩ := Option.isSome_iff_exists.mp hfound
    have hin := hregular.lookup_eq_some_iff.mp he
    obtain rfl := hmatched.window_eq hname hx hin
    exact List.ne_nil_of_mem (hmatched.present hin hx)
  case same =>
    intro e he
    have hin := hregular.lookup_eq_some_iff.mp he
    refine ⟨hmatched.window_eq hname hx hin, fun l hl => ?_⟩
    rw [← hregular.once (hregular.told hx hl) hin]
  case stopped =>
    intro t hlater
    obtain ⟨hstopped, -, hnone⟩ := hregular.unwatchAll
    have hnone' : t.registry = [] :=
      List.eq_nil_iff_forall_not_mem.mpr fun entry he =>
        List.not_mem_nil (hnone ▸ course_registry hstopped hlater he)
    exact ⟨hnone', (course_regular hstopped hlater).quiet hnone'⟩

/-- Windows have the ids they were given if the list of their ids says so. -/
theorem named_of_ids {ids : Array (Option Nat)} (hids : r.windows.map (Option.map Window.id) = ids)
    (hgiven : ∀ w id, ids[w]? = some (some id) → id = name w) : r.Named name := by
  intro w x hx
  have hwindow : r.windows[w]? = some (some x) := Option.join_eq_some_iff.mp hx
  refine hgiven w x.id ?_
  rw [← hids, Array.getElem?_map, hwindow]
  rfl

/-- Two windows have the ids that they were opened with. -/
theorem named_two (hids : r.windows.map (Option.map Window.id) = #[some 1, some 2]) :
    r.Named (· + 1) := by
  refine named_of_ids hids fun w id hw => ?_
  rcases w with _ | _ | w <;> simp at hw <;> omega

/-- One of two windows that were watched together is no longer watched. -/
theorem namedCourse_left : NamedCourse (· + 1) (new {}) (twoWindows.stopRecording [0]) := by
  let owned := opened.addOwner {}
  have hfirst : NamedCourse (· + 1) (new {}) ((new {}).openWindow 1 (some { id := 1 })) := by
    have hnamed : Named (· + 1) ((new {}).openWindow 1 (some { id := 1 })) := by
      refine named_of_ids rfl fun w id hw => ?_
      rcases w with _ | w <;> simp [new, openWindow] at hw
      omega
    have hfirst := Incident.openWindow (new {}) 1 (some { id := 1 }) fun _ _ hx => nomatch hx
    exact .single ⟨[], hfirst, hnamed⟩
  have hopened : NamedCourse (· + 1) (new {}) opened := by
    have hnamed : Named (· + 1) opened := named_two (by decide +kernel)
    refine hfirst.tail ⟨[], .openWindow _ 2 (some { id := 2 }) fun w x hx => ?_, hnamed⟩
    cases w with
    | zero =>
      cases hx
      exact nofun
    | succ w => cases hx
  have hactive : NamedCourse (· + 1) (new {}) (owned.activate (some ⟨"a", "s", "v"⟩)) :=
    (hopened.tail
      ⟨[], .aside opened owned ⟨rfl, rfl, rfl, rfl, rfl⟩ rfl, named_two (by decide +kernel)⟩).tail
      ⟨[], .deed owned (.activate (some ⟨"a", "s", "v"⟩)) trivial, named_two (by decide +kernel)⟩
  exact (hactive.tail ⟨[0, 1], .start _ [0, 1] 0, named_two (by decide +kernel)⟩).tail
    ⟨[], .stop twoWindows [0], named_two (by decide +kernel)⟩

/-- The window that is still watched is the only one whose id is registered. -/
theorem registry_agrees_with_windows_left :
    Function.Injective (· + 1 : WindowRef → Nat) ∧
      NamedCourse (· + 1) (new {}) (twoWindows.stopRecording [0]) ∧
      (twoWindows.stopRecording [0]).registry.map Prod.fst = [2] ∧
      ∀ w x, (twoWindows.stopRecording [0]).window? w = some x →
        (x.watchers ≠ [] ↔
          ((twoWindows.stopRecording [0]).registry.lookup x.id).isSome = true) := by
  have hname : Function.Injective (· + 1 : WindowRef → Nat) := fun _ _ => Nat.succ.inj
  refine ⟨hname, namedCourse_left, by decide +kernel, fun w x hx => ?_⟩
  exact ((registry_agrees_with_windows hname namedCourse_left).1 w x hx).1

end SessionReplay.Recording
