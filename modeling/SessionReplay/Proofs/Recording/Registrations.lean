import SessionReplay.Proofs.Recording.Attempts

/-!
# Registrations

Three things are kept about which watcher watches which window: the list of watchers on a window,
the registrations by window id, and the list of windows of a watcher. The first two agree, and a
watcher is registered only for windows on its list (`Regular`). Its list stays as it was set, though:
a window that is no longer watched stays on the list of a watcher that is registered for another one.

* `Regular.unwatch` and `Regular.stopRecording`: windows that are not watched any more are not
  registered, and a watcher that is registered for none is waiting for nothing.
* `Regular.addWatcher` and `Regular.registerAll`: a new watcher is set on windows that have no other
  one.
* `Regular.unwatchAll`: nothing is registered any more.
-/

namespace SessionReplay.Recording

variable {r t u : Recording} {v w : WindowRef} {x y : Window} {watcher : WatcherRef}

/-! ## Windows and watchers that are changed -/

/-- The window that is changed is changed. -/
theorem window?_modifyWindow_self (r : Recording) (w : WindowRef) (f : Window → Window) :
    (r.modifyWindow w f).window? w = (r.window? w).map f := by
  unfold window? modifyWindow
  rw [Array.getElem?_modify, if_pos rfl]
  cases r.windows[w]? <;> rfl

/-- The other windows are left alone. -/
theorem window?_modifyWindow_of_ne (r : Recording) (h : w ≠ v) (f : Window → Window) :
    (r.modifyWindow w f).window? v = r.window? v := by
  unfold window? modifyWindow
  rw [Array.getElem?_modify, if_neg h]

/-- A window that is there once a window was changed is the changed one or another one. -/
theorem window?_of_modifyWindow {f : Window → Window}
    (h : (r.modifyWindow w f).window? v = some y) :
    w ≠ v ∧ r.window? v = some y ∨ w = v ∧ ∃ x, r.window? v = some x ∧ y = f x := by
  by_cases hw : w = v
  · rw [hw, window?_modifyWindow_self] at h
    obtain ⟨x, hx, rfl⟩ := Option.map_eq_some_iff.mp h
    exact .inr ⟨hw, x, hx, rfl⟩
  · rw [window?_modifyWindow_of_ne r hw] at h
    exact .inl ⟨hw, h⟩

/-- A window that is there is in the application's books. -/
theorem lt_of_window? (h : r.window? w = some x) : w < r.windows.size := by
  unfold window? at h
  cases hw : r.windows[w]? with
  | none =>
    rw [hw] at h
    cases h
  | some found => exact (Array.getElem?_eq_some_iff.mp hw).1

/-- A window that is there once one was opened is the new one or was there before. -/
theorem window?_of_openWindow {id : Nat} {view : Option View}
    (h : (r.openWindow id view).window? v = some y) :
    r.window? v = some y ∨ v = r.windows.size ∧ y = { id := id, view := view } := by
  unfold window? openWindow at h
  rw [Array.getElem?_push] at h
  split at h
  · next hv => exact .inr ⟨hv, (Option.some.inj h).symm⟩
  · exact .inl h

/-- A window that is there once one was closed was there before. -/
theorem window?_of_closeWindow (h : (r.closeWindow w).window? v = some y) :
    r.window? v = some y := by
  unfold window? closeWindow at h
  rw [Array.getElem?_setIfInBounds] at h
  split at h
  · split at h <;> cases h
  · exact h

/-- A watcher whose debouncer may have changed watches the same windows. -/
theorem watchers_of_modifyDebouncer {f : Debouncer → Debouncer} {l : WatcherRef} {new : Watcher}
    (h : (r.modifyDebouncer watcher f).watchers[l]? = some new) :
    ∃ old, r.watchers[l]? = some old ∧ new.windows = old.windows ∧
      (watcher ≠ l ∧ new.debouncer = old.debouncer ∨
        watcher = l ∧ new.debouncer = f old.debouncer) := by
  unfold modifyDebouncer at h
  rw [Array.getElem?_modify] at h
  by_cases hl : watcher = l
  · rw [if_pos hl] at h
    obtain ⟨old, hold, rfl⟩ := Option.map_eq_some_iff.mp h
    exact ⟨old, hold, rfl, .inr ⟨hl, rfl⟩⟩
  · rw [if_neg hl] at h
    exact ⟨new, h, rfl, .inl ⟨hl, rfl⟩⟩

/-- A watcher keeps its list when its debouncer changes. -/
theorem watchers_modifyDebouncer (f : Debouncer → Debouncer) (watcher : WatcherRef)
    {l : WatcherRef} {old : Watcher} (h : r.watchers[l]? = some old) :
    ∃ new, (r.modifyDebouncer watcher f).watchers[l]? = some new ∧ new.windows = old.windows := by
  unfold modifyDebouncer
  rw [Array.getElem?_modify, h]
  split <;> exact ⟨_, rfl, rfl⟩

/-- A watcher that was taken off a window is not on it. -/
theorem not_mem_takeOff (h : (r.takeOff w watcher).window? w = some y) : watcher ∉ y.watchers := by
  intro hin
  rcases window?_of_modifyWindow h with ⟨hne, -⟩ | ⟨-, x, -, rfl⟩
  · exact hne rfl
  · exact bne_iff_ne.mp (List.mem_filter.mp hin).2 rfl

/-- The same windows are there, and have kept their ids. -/
def SameWindows (r t : Recording) : Prop :=
  ∀ w : WindowRef,
    (t.windows[w]?).map (Option.map Window.id) = (r.windows[w]?).map (Option.map Window.id)

namespace SameWindows

/-- The windows are the same as themselves. -/
theorem refl (r : Recording) : r.SameWindows r := fun _ => rfl

/-- They are the same both ways. -/
theorem symm (h : r.SameWindows t) : t.SameWindows r := fun w => (h w).symm

/-- They are the same if they are the same as others that are the same. -/
theorem trans (h : r.SameWindows t) (h' : t.SameWindows u) : r.SameWindows u :=
  fun w => (h' w).trans (h w)

/-- A window can change if it keeps its id. -/
theorem modifyWindow (r : Recording) (w : WindowRef) {f : Window → Window}
    (hid : ∀ x, (f x).id = x.id) : r.SameWindows (r.modifyWindow w f) := by
  intro v
  unfold Recording.modifyWindow
  rw [Array.getElem?_modify]
  split
  · have hids : Window.id ∘ f = Window.id := funext hid
    rw [Option.map_map, Option.map_comp_map, hids]
  · rfl

/-- A window that is there has kept its id. -/
theorem window (h : r.SameWindows t) (hy : t.window? w = some y) :
    ∃ x, r.window? w = some x ∧ x.id = y.id := by
  have hsame := h w
  unfold window? at hy ⊢
  rw [Option.join_eq_some_iff.mp hy] at hsame
  obtain ⟨found, hfound, hid⟩ := Option.map_eq_some_iff.mp hsame.symm
  obtain ⟨x, rfl, hx⟩ := Option.map_eq_some_iff.mp hid
  exact ⟨x, by rw [hfound]; rfl, hx⟩

/-- A window that is gone stays gone. -/
theorem gone (h : r.SameWindows t) (hw : r.windows[w]? = some none) : t.windows[w]? = some none := by
  have hsame := h w
  rw [hw] at hsame
  obtain ⟨found, hfound, hid⟩ := Option.map_eq_some_iff.mp hsame
  rw [hfound, Option.map_eq_none_iff.mp hid]

end SameWindows

/-- The registrations of all ids but one. -/
theorem mem_other_ids {registry : List (Nat × Registration)} {id : Nat}
    {entry : Nat × Registration} :
    entry ∈ registry.filter (fun entry => entry.1 != id) ↔ entry ∈ registry ∧ entry.1 ≠ id := by
  rw [List.mem_filter, bne_iff_ne]

/-! ## The books are in order -/

/-- A watcher is registered for some window. -/
def Registered (r : Recording) (watcher : WatcherRef) : Prop :=
  ∃ entry ∈ r.registry, entry.2.watcher = watcher

/-- Whether a watcher is registered can be looked up. -/
theorem isRegistered_iff : r.isRegistered watcher = true ↔ r.Registered watcher := by
  unfold isRegistered Registered
  rw [List.any_eq_true]
  exact exists_congr fun entry => and_congr_right fun _ => beq_iff_eq

/-- What is kept about windows and watchers agrees, while some watchers are still to be silenced. -/
structure Regular (r : Recording) (orphans : List WatcherRef) : Prop where
  /-- No two windows that are there have the same id. -/
  distinct : ∀ {v w x y}, r.window? v = some x → r.window? w = some y → x.id = y.id → v = w
  /-- An id is registered once. -/
  once : ∀ {id e e'}, (id, e) ∈ r.registry → (id, e') ∈ r.registry → e = e'
  /-- A watcher on a window is registered for it. -/
  told : ∀ {v x l}, r.window? v = some x → l ∈ x.watchers → (x.id, ⟨v, l⟩) ∈ r.registry
  /-- A registered window is on the list of its watcher. -/
  listed : ∀ {id e}, (id, e) ∈ r.registry →
    ∃ watcher, r.watchers[e.watcher]? = some watcher ∧ e.window ∈ watcher.windows
  /-- A window is registered by its id. -/
  named : ∀ {id e}, (id, e) ∈ r.registry →
    e.window < r.windows.size ∧ ∀ x, r.window? e.window = some x → x.id = id
  /-- A watcher that waits is registered, or still to be silenced. -/
  waiting : ∀ {l watcher}, r.watchers[l]? = some watcher → watcher.debouncer.live ≠ none →
    r.Registered l ∨ l ∈ orphans
  /-- Nothing is registered once the recording has been stopped for good. -/
  idle : r.stopped = true → r.registry = []

namespace Regular

variable {orphans : List WatcherRef}

/-- A new recording has no watchers. -/
theorem new (settings : Settings) : (Recording.new settings).Regular [] where
  distinct h := nomatch h
  once h := (List.not_mem_nil h).elim
  told h := nomatch h
  listed h := (List.not_mem_nil h).elim
  named h := (List.not_mem_nil h).elim
  waiting h := nomatch h
  idle _ := rfl

/-- Other things do not matter. -/
theorem unmoved (h : r.Regular orphans) (hsame : r.Unmoved t) : t.Regular orphans := by
  refine ⟨?_, ?_, ?_, ?_, ?_, ?_, ?_⟩
  · intro v w x y
    rw [hsame.window?]
    exact h.distinct
  · rw [hsame.registry]
    exact h.once
  · intro v x l
    rw [hsame.window?, hsame.registry]
    exact h.told
  · rw [hsame.registry, hsame.watchers]
    exact h.listed
  · intro id e
    rw [hsame.registry, hsame.windows, hsame.window?]
    exact h.named
  · intro l watcher
    unfold Registered
    rw [hsame.watchers, hsame.registry]
    exact h.waiting
  · rw [hsame.stopped, hsame.registry]
    exact h.idle

/-- The debouncer of a watcher can change if the watcher is registered, or waits for nothing then. -/
theorem debounce (h : r.Regular orphans) {watcher : WatcherRef} {f : Debouncer → Debouncer}
    (hwatcher : ∀ d, (f d).live ≠ none → r.Registered watcher ∨ watcher ∈ orphans) :
    (r.modifyDebouncer watcher f).Regular orphans where
  distinct := h.distinct
  once := h.once
  told := h.told
  listed hentry := by
    obtain ⟨old, hold, hlisted⟩ := h.listed hentry
    obtain ⟨new, hnew, hwindows⟩ := watchers_modifyDebouncer f watcher hold
    exact ⟨new, hnew, hwindows ▸ hlisted⟩
  named := h.named
  waiting hnew hlive := by
    obtain ⟨old, hold, -, ⟨-, hsame⟩ | ⟨rfl, hchanged⟩⟩ := watchers_of_modifyDebouncer hnew
    · exact h.waiting hold (hsame ▸ hlive)
    · exact hwatcher _ (hchanged ▸ hlive)
  idle := h.idle

/-- A watcher that is silenced is no longer to be silenced. -/
theorem silence (h : r.Regular (watcher :: orphans)) : (r.silence watcher).Regular orphans where
  distinct := h.distinct
  once := h.once
  told := h.told
  listed := (h.debounce (f := Debouncer.cancel) fun _ hlive => absurd rfl hlive).listed
  named := h.named
  waiting hnew hlive := by
    obtain ⟨old, hold, -, ⟨hne, hsame⟩ | ⟨-, hchanged⟩⟩ := watchers_of_modifyDebouncer hnew
    · refine (h.waiting hold (hsame ▸ hlive)).imp_right fun hin => ?_
      exact (List.mem_cons.mp hin).resolve_left fun heq => hne heq.symm
    · rw [hchanged] at hlive
      exact absurd rfl hlive
  idle := h.idle

/-- Once all of them are silenced, nobody is left to be silenced. -/
theorem silenceAll (h : r.Regular orphans) :
    (orphans.foldl Recording.silence r).Regular [] := by
  induction orphans generalizing r with
  | nil => exact h
  | cons watcher orphans ih => exact ih h.silence

/-- The application may open a window whose id no other window has. -/
theorem openWindow (h : r.Regular orphans) {id : Nat}
    (fresh : ∀ w x, r.window? w = some x → x.id ≠ id) (view : Option View) :
    (r.openWindow id view).Regular orphans := by
  refine ⟨?_, h.once, ?_, h.listed, ?_, h.waiting, h.idle⟩
  · intro v w x y hx hy hid
    rcases window?_of_openWindow hx with hx | ⟨rfl, rfl⟩ <;>
      rcases window?_of_openWindow hy with hy | ⟨rfl, rfl⟩
    · exact h.distinct hx hy hid
    · exact absurd hid (fresh v x hx)
    · exact absurd hid.symm (fresh w y hy)
    · rfl
  · intro v x l hx hl
    rcases window?_of_openWindow hx with hx | ⟨-, rfl⟩
    · exact h.told hx hl
    · exact (List.not_mem_nil hl).elim
  · intro id' e hentry
    obtain ⟨hlt, hid⟩ := h.named hentry
    refine ⟨Nat.lt_of_lt_of_eq (Nat.lt_succ_of_lt hlt) (Array.size_push _).symm, fun x hx => ?_⟩
    rcases window?_of_openWindow hx with hx | ⟨heq, -⟩
    · exact hid x hx
    · exact absurd heq (Nat.ne_of_lt hlt)

/-- The application may close a window. -/
theorem closeWindow (h : r.Regular orphans) (w : WindowRef) :
    (r.closeWindow w).Regular orphans := by
  refine ⟨fun hx hy => h.distinct (window?_of_closeWindow hx) (window?_of_closeWindow hy), h.once,
    fun hx hl => h.told (window?_of_closeWindow hx) hl, h.listed, fun hentry => ?_, h.waiting,
    h.idle⟩
  obtain ⟨hlt, hid⟩ := h.named hentry
  exact ⟨Nat.lt_of_lt_of_eq hlt Array.size_setIfInBounds.symm,
    fun x hx => hid x (window?_of_closeWindow hx)⟩

/-- A window can change if it keeps its id, and its watchers are registered for it. -/
theorem modifyWindow (h : r.Regular orphans) {w : WindowRef} {f : Window → Window}
    (hid : ∀ x, (f x).id = x.id)
    (htold : ∀ x, r.window? w = some x → ∀ l ∈ (f x).watchers, (x.id, ⟨w, l⟩) ∈ r.registry) :
    (r.modifyWindow w f).Regular orphans := by
  have hsame := SameWindows.modifyWindow r w hid
  refine ⟨?_, h.once, ?_, h.listed, ?_, h.waiting, h.idle⟩
  · intro v v' y y' hy hy' heq
    obtain ⟨x, hx, hxid⟩ := hsame.window hy
    obtain ⟨x', hx', hxid'⟩ := hsame.window hy'
    exact h.distinct hx hx' (hxid.trans (heq.trans hxid'.symm))
  · intro v y l hy hl
    rcases window?_of_modifyWindow hy with ⟨-, hx⟩ | ⟨rfl, x, hx, rfl⟩
    · exact h.told hx hl
    · rw [hid]
      exact htold x hx l hl
  · intro id e hentry
    obtain ⟨hlt, hnamed⟩ := h.named hentry
    refine ⟨Nat.lt_of_lt_of_eq hlt Array.size_modify.symm, fun y hy => ?_⟩
    obtain ⟨x, hx, hxid⟩ := hsame.window hy
    exact hxid.symm.trans (hnamed x hx)

/-- A watcher can be taken off a window. -/
theorem takeOff (h : r.Regular orphans) (w : WindowRef) (watcher : WatcherRef) :
    (r.takeOff w watcher).Regular orphans :=
  h.modifyWindow (fun _ => rfl) fun _ hx _ hl => h.told hx (List.mem_filter.mp hl).1

/-- Registrations can be taken away from windows that have no watchers any more. -/
theorem restrict (h : r.Regular orphans) {registry : List (Nat × Registration)}
    {orphans' : List WatcherRef} (hsub : ∀ {entry}, entry ∈ registry → entry ∈ r.registry)
    (htold : ∀ {v x l}, r.window? v = some x → l ∈ x.watchers → (x.id, ⟨v, l⟩) ∈ registry)
    (hleft : ∀ entry ∈ r.registry, entry.2.watcher ∈ orphans' ∨
      ∃ kept ∈ registry, kept.2.watcher = entry.2.watcher)
    (horphans : orphans ⊆ orphans') : Regular { r with registry := registry } orphans' where
  distinct := h.distinct
  once he he' := h.once (hsub he) (hsub he')
  told := htold
  listed he := h.listed (hsub he)
  named he := h.named (hsub he)
  waiting hwatcher hlive := by
    rcases h.waiting hwatcher hlive with ⟨entry, hentry, rfl⟩ | horphan
    · exact (hleft entry hentry).symm
    · exact .inr (horphans horphan)
  idle hstopped := by
    refine List.eq_nil_iff_forall_not_mem.mpr fun entry he => ?_
    have hnone := hsub he
    rw [h.idle hstopped] at hnone
    cases hnone

end Regular

/-! ## Windows that are no longer watched -/

/-- Registrations are taken away at most; windows and the lists of watchers stay. -/
structure Trimmed (r t : Recording) : Prop where
  /-- Registrations were there before. -/
  registry : ∀ {entry}, entry ∈ t.registry → entry ∈ r.registry
  /-- The windows are the same. -/
  windows : r.SameWindows t
  /-- So are the lists of the watchers. -/
  watchers : ∀ {l : WatcherRef} {new : Watcher}, t.watchers[l]? = some new →
    ∃ old, r.watchers[l]? = some old ∧ new.windows = old.windows
  /-- No watcher is new. -/
  size : t.watchers.size = r.watchers.size
  /-- The queue is the same. -/
  station : t.station = r.station
  /-- A recording that has been stopped for good has been so before. -/
  stopped : t.stopped = r.stopped

namespace Trimmed

/-- Nothing need be taken away. -/
theorem refl (r : Recording) : r.Trimmed r :=
  ⟨fun h => h, .refl r, fun h => ⟨_, h, rfl⟩, rfl, rfl, rfl⟩

/-- Registrations are taken away one after the other. -/
theorem trans (h : r.Trimmed t) (h' : t.Trimmed u) : r.Trimmed u where
  registry he := h.registry (h'.registry he)
  windows := h.windows.trans h'.windows
  watchers hnew := by
    obtain ⟨mid, hmid, hwindows⟩ := h'.watchers hnew
    obtain ⟨old, hold, hwindows'⟩ := h.watchers hmid
    exact ⟨old, hold, hwindows.trans hwindows'⟩
  size := h'.size.trans h.size
  station := h'.station.trans h.station
  stopped := h'.stopped.trans h.stopped

/-- A change of a debouncer takes nothing away. -/
theorem modifyDebouncer (r : Recording) (watcher : WatcherRef) (f : Debouncer → Debouncer) :
    r.Trimmed (r.modifyDebouncer watcher f) where
  registry he := he
  windows := .refl r
  watchers hnew := by
    obtain ⟨old, hold, hwindows, -⟩ := watchers_of_modifyDebouncer hnew
    exact ⟨old, hold, hwindows⟩
  size := Array.size_modify
  station := rfl
  stopped := rfl

/-- Silencing watchers takes nothing away. -/
theorem silenceAll (orphans : List WatcherRef) (r : Recording) :
    r.Trimmed (orphans.foldl Recording.silence r) := by
  induction orphans generalizing r with
  | nil => exact .refl r
  | cons watcher orphans ih =>
    exact (modifyDebouncer r watcher Debouncer.cancel).trans (ih (r.silence watcher))

/-- Taking a watcher off a window takes no registration away. -/
theorem takeOff (r : Recording) (w : WindowRef) (watcher : WatcherRef) :
    r.Trimmed (r.takeOff w watcher) where
  registry he := he
  windows := .modifyWindow r w fun _ => rfl
  watchers h := ⟨_, h, rfl⟩
  size := rfl
  station := rfl
  stopped := rfl

end Trimmed

/-- **One window is no longer watched.** Its id is not registered, and its watcher is to be silenced if
it is registered for no other window. -/
theorem Regular.unregister {orphans : List WatcherRef} (h : r.Regular orphans) (w : WindowRef) :
    (unregister (r, orphans) w).1.Regular (unregister (r, orphans) w).2 ∧
      r.Trimmed (unregister (r, orphans) w).1 ∧
      ∀ x, (unregister (r, orphans) w).1.window? w = some x →
        ∀ e, (x.id, e) ∉ (unregister (r, orphans) w).1.registry := by
  unfold Recording.unregister
  dsimp only
  split
  next hgone => exact ⟨h, .refl r, fun x hx => nomatch hgone.symm.trans hx⟩
  next x hx =>
    split
    next hfree =>
      refine ⟨h, .refl r, fun y hy e he => ?_⟩
      obtain rfl : x = y := Option.some.inj (hx.symm.trans hy)
      exact bne_iff_ne.mp (List.lookup_eq_none_iff.mp hfree _ he) rfl
    next registration hfound =>
      have hentry : (x.id, registration) ∈ r.registry := by
        obtain ⟨before, after, hregistry, -⟩ := List.lookup_eq_some_iff.mp hfound
        exact hregistry ▸ List.mem_append_right _ List.mem_cons_self
      have hoff := h.takeOff w registration.watcher
      let rest := r.registry.filter fun entry => entry.1 != x.id
      let left := ({ r with registry := rest } : Recording).isRegistered registration.watcher
      have hregular : Regular { r.takeOff w registration.watcher with registry := rest }
          (if left then orphans else orphans ++ [registration.watcher]) := by
        refine hoff.restrict (fun he => (mem_other_ids.mp he).1) ?_ ?_ ?_
        · -- its watcher was the only one on the window
          intro v y l hy hl
          refine mem_other_ids.mpr ⟨hoff.told hy hl, fun (hid : y.id = x.id) => ?_⟩
          obtain ⟨-, rfl⟩ := Registration.mk.inj (h.once (hid ▸ hoff.told hy hl) hentry)
          obtain ⟨z, hz, hzid⟩ := (Trimmed.takeOff r w registration.watcher).windows.window hy
          obtain rfl : v = w := h.distinct hz hx (hzid.trans hid)
          exact not_mem_takeOff hy hl
        · rintro ⟨id, e⟩ he
          by_cases hid : id = x.id
          · obtain rfl : e = registration := h.once (hid ▸ he) hentry
            split
            next hleft =>
              obtain ⟨kept, hin, heq⟩ := isRegistered_iff.mp hleft
              exact .inr ⟨kept, hin, heq⟩
            next => exact .inl (List.mem_append_right _ (List.mem_singleton_self _))
          · exact .inr ⟨_, mem_other_ids.mpr ⟨he, hid⟩, rfl⟩
        · split
          · exact List.Subset.refl _
          · exact List.subset_append_left _ _
      have htrimmed : r.Trimmed { r.takeOff w registration.watcher with registry := rest } := by
        have htaken := Trimmed.takeOff r w registration.watcher
        exact ⟨fun he => (mem_other_ids.mp he).1, htaken.windows, htaken.watchers, rfl, rfl, rfl⟩
      refine ⟨hregular, htrimmed, fun y hy e he => ?_⟩
      obtain ⟨x', hx', hid⟩ := htrimmed.windows.window hy
      obtain rfl : x = x' := Option.some.inj (hx.symm.trans hx')
      exact (mem_other_ids.mp he).2 hid.symm

/-- **Windows that are not watched any more are not registered.** -/
theorem Regular.unwatch (h : r.Regular []) (windows : List WindowRef) :
    (r.unwatch windows).Regular [] ∧ r.Trimmed (r.unwatch windows) ∧
      ∀ w ∈ windows, ∀ x, (r.unwatch windows).window? w = some x →
        ∀ e, (x.id, e) ∉ (r.unwatch windows).registry := by
  have hall : ∀ (windows : List WindowRef) (state : Recording × List WatcherRef),
      state.1.Regular state.2 →
      (windows.foldl Recording.unregister state).1.Regular
        (windows.foldl Recording.unregister state).2 ∧
      state.1.Trimmed (windows.foldl Recording.unregister state).1 ∧
      ∀ w ∈ windows, ∀ x, (windows.foldl Recording.unregister state).1.window? w = some x →
        ∀ e, (x.id, e) ∉ (windows.foldl Recording.unregister state).1.registry := by
    intro windows
    induction windows with
    | nil => exact fun state h => ⟨h, .refl _, fun _ hw => (List.not_mem_nil hw).elim⟩
    | cons w windows ih =>
      intro state h
      obtain ⟨hfirst, htrimmed, hcleared⟩ := h.unregister w
      obtain ⟨hrest, htrimmed', hcleared'⟩ := ih (Recording.unregister state w) hfirst
      refine ⟨hrest, htrimmed.trans htrimmed', fun v hv x hx e he => ?_⟩
      rcases List.mem_cons.mp hv with rfl | hv
      · obtain ⟨y, hy, hid⟩ := htrimmed'.windows.window hx
        exact hcleared y hy e (hid ▸ htrimmed'.registry he)
      · exact hcleared' v hv x hx e he
  obtain ⟨hregular, htrimmed, hcleared⟩ := hall windows (r, []) h
  have hsilent := Trimmed.silenceAll (windows.foldl Recording.unregister (r, [])).2
    (windows.foldl Recording.unregister (r, [])).1
  refine ⟨hregular.silenceAll, htrimmed.trans hsilent, fun w hw x hx e he => ?_⟩
  obtain ⟨y, hy, hid⟩ := hsilent.windows.window hx
  exact hcleared w hw y hy e (hid ▸ hsilent.registry he)

/-- **A window that is there is not registered once it is no longer watched.** -/
theorem Regular.stopRecording (h : r.Regular []) (windows : List WindowRef) :
    (r.stopRecording windows).Regular [] ∧ r.Trimmed (r.stopRecording windows) ∧
      ∀ w ∈ windows, (r.window? w).isSome = true →
        ∀ entry ∈ (r.stopRecording windows).registry, entry.2.window ≠ w := by
  unfold Recording.stopRecording
  split
  next hstopped =>
    refine ⟨h, .refl r, fun w _ _ entry he => ?_⟩
    rw [h.idle hstopped] at he
    cases he
  next =>
    obtain ⟨hregular, htrimmed, hcleared⟩ := h.unwatch (r.openWindows windows)
    refine ⟨hregular, htrimmed, fun w hw hopen entry he heq => ?_⟩
    obtain ⟨id, e⟩ := entry
    obtain ⟨x, hx⟩ := Option.isSome_iff_exists.mp hopen
    obtain ⟨y, hy, -⟩ := htrimmed.windows.symm.window hx
    have hnamed := (hregular.named he).2 y (heq.symm ▸ hy)
    exact hcleared w (List.mem_filter.mpr ⟨hw, hopen⟩) y hy e (hnamed ▸ he)

/-- Windows that are watched by nobody else, and are on the list of a watcher. -/
structure Free (r : Recording) (l : WatcherRef) (windows : List WindowRef) : Prop where
  /-- They are on the watcher's list. -/
  listed : ∃ watcher, r.watchers[l]? = some watcher ∧ watcher.windows = windows
  /-- They are watched by nobody else. -/
  free : ∀ w ∈ windows, ∀ x, r.window? w = some x → ∀ e, (x.id, e) ∈ r.registry → e = ⟨w, l⟩
  /-- The recording has not been stopped. -/
  running : r.stopped = false

/-- What becomes registered when a watcher is set on a window. -/
theorem mem_registry_register {l : WatcherRef} {entry : Nat × Registration}
    (h : entry ∈ (r.register l w).registry) :
    entry ∈ r.registry ∨ ∃ x, r.window? w = some x ∧ entry = (x.id, ⟨w, l⟩) := by
  unfold register at h
  split at h
  next => exact .inl h
  next x hx =>
    rcases List.mem_cons.mp h with rfl | h
    · exact .inr ⟨x, hx, rfl⟩
    · exact .inl (List.mem_filter.mp h).1

/-- What stays the same when a watcher is set on a window. -/
theorem register_frame (r : Recording) (l : WatcherRef) (w : WindowRef) :
    (r.register l w).watchers = r.watchers ∧ (r.register l w).station = r.station ∧
      (r.register l w).stopped = r.stopped ∧ r.SameWindows (r.register l w) := by
  unfold register
  split
  next => exact ⟨rfl, rfl, rfl, .refl r⟩
  next => exact ⟨rfl, rfl, rfl, .modifyWindow r w fun _ => rfl⟩

/-- An id becomes registered that is not registered for anybody else. -/
theorem Regular.enter (h : r.Regular []) {l : WatcherRef} {windows : List WindowRef}
    (hfree : r.Free l windows) (hw : w ∈ windows) (hx : r.window? w = some x)
    {registry : List (Nat × Registration)}
    (hmem : ∀ {entry}, entry ∈ registry ↔ entry = (x.id, ⟨w, l⟩) ∨ entry ∈ r.registry) :
    Regular { r with registry := registry } [] := by
  refine ⟨h.distinct, ?once, fun hy hl => hmem.mpr (.inr (h.told hy hl)), ?listed, ?named, ?waiting,
    fun hstop => absurd (hfree.running.symm.trans hstop) Bool.false_ne_true⟩
  case once =>
    intro id e e' he he'
    rcases hmem.mp he with heq | hin <;> rcases hmem.mp he' with heq' | hin'
    · cases heq
      cases heq'
      rfl
    · cases heq
      exact (hfree.free w hw x hx e' hin').symm
    · cases heq'
      exact hfree.free w hw x hx e hin
    · exact h.once hin hin'
  case listed =>
    intro id e he
    rcases hmem.mp he with heq | hin
    · cases heq
      obtain ⟨watcher, hwatcher, hlist⟩ := hfree.listed
      exact ⟨watcher, hwatcher, hlist ▸ hw⟩
    · exact h.listed hin
  case named =>
    intro id e he
    rcases hmem.mp he with heq | hin
    · cases heq
      refine ⟨lt_of_window? hx, fun y hy => ?_⟩
      rw [Option.some.inj (hx.symm.trans hy)]
    · exact h.named hin
  case waiting =>
    intro l' watcher hwatcher hlive
    refine (h.waiting hwatcher hlive).imp_left fun ⟨entry, hin, heq⟩ => ?_
    exact ⟨entry, hmem.mpr (.inr hin), heq⟩

/-- **A watcher is set on a window that no other one watches.** What is registered for its id then can only be
what is registered now. -/
theorem Regular.register (h : r.Regular []) {l : WatcherRef} {windows : List WindowRef}
    (hfree : r.Free l windows) (hw : w ∈ windows) :
    (r.register l w).Regular [] ∧ (r.register l w).Free l windows := by
  obtain ⟨hwatchers, -, hstopped, hwindows⟩ := r.register_frame l w
  refine ⟨?_, ⟨hwatchers ▸ hfree.listed, fun v hv y hy e he => ?_, hstopped.trans hfree.running⟩⟩
  · unfold Recording.register
    split
    next => exact h
    next x hx =>
      let registry := (x.id, Registration.mk w l) :: r.registry.filter fun entry => entry.1 != x.id
      have hmem : ∀ {entry : Nat × Registration}, entry ∈ registry ↔
          entry = (x.id, ⟨w, l⟩) ∨ entry ∈ r.registry := by
        intro entry
        rw [List.mem_cons, mem_other_ids]
        refine or_congr_right' fun hne => ⟨fun hin => hin.1, fun hin => ⟨hin, fun hid => hne ?_⟩⟩
        obtain ⟨id, e⟩ := entry
        cases hid
        rw [hfree.free w hw x hx e hin]
      refine (h.enter hfree hw hx hmem).modifyWindow
        (f := fun x => { x with watchers := x.watchers ++ [l] }) (fun _ => rfl) fun y hy l' hl' => ?_
      rcases List.mem_append.mp hl' with hl' | hl'
      · exact hmem.mpr (.inr (h.told hy hl'))
      · rw [List.mem_singleton.mp hl', Option.some.inj (hy.symm.trans hx)]
        exact hmem.mpr (.inl rfl)
  · obtain ⟨x, hx, hid⟩ := hwindows.window hy
    rcases mem_registry_register he with hin | ⟨z, hz, heq⟩
    · exact hfree.free v hv x hx e (hid ▸ hin)
    · obtain ⟨hyz, rfl⟩ := Prod.mk.inj heq
      obtain rfl : v = w := h.distinct hx hz (hid.trans hyz)
      rfl

/-- A watcher is set on windows that no other one watches. -/
theorem Regular.registerAll {l : WatcherRef} {windows rest : List WindowRef} (h : r.Regular [])
    (hfree : r.Free l windows) (hsub : rest ⊆ windows) :
    (rest.foldl (Recording.register · l ·) r).Regular [] ∧
      (rest.foldl (Recording.register · l ·) r).watchers = r.watchers ∧
      (rest.foldl (Recording.register · l ·) r).station = r.station ∧
      r.SameWindows (rest.foldl (Recording.register · l ·) r) ∧
      ∀ entry ∈ (rest.foldl (Recording.register · l ·) r).registry,
        entry ∈ r.registry ∨ entry.2.window ∈ windows ∧ entry.2.watcher = l := by
  induction rest generalizing r with
  | nil => exact ⟨h, rfl, rfl, .refl r, fun _ he => .inl he⟩
  | cons w rest ih =>
    have hw : w ∈ windows := hsub List.mem_cons_self
    obtain ⟨hregular, hfree'⟩ := h.register hfree hw
    obtain ⟨hwatchers, hstation, -, hwindows⟩ := r.register_frame l w
    obtain ⟨hrest, hwatchers', hstation', hwindows', hregistry⟩ :=
      ih hregular hfree' fun _ hv => hsub (List.mem_cons_of_mem w hv)
    refine ⟨hrest, hwatchers'.trans hwatchers, hstation'.trans hstation, hwindows.trans hwindows',
      fun entry he => ?_⟩
    rcases hregistry entry he with hin | hnew
    · rcases mem_registry_register hin with hin | ⟨x, -, rfl⟩
      · exact .inl hin
      · exact .inr ⟨hw, rfl⟩
    · exact .inr hnew

/-- The recording with one more watcher. -/
def addWatcher (r : Recording) (watcher : Watcher) : Recording :=
  { r with watchers := r.watchers.push watcher }

/-- Of all watchers, only the last one is new. -/
theorem watchers_of_addWatcher {watcher new : Watcher} {l : WatcherRef}
    (h : (r.addWatcher watcher).watchers[l]? = some new) :
    r.watchers[l]? = some new ∨ l = r.watchers.size ∧ new = watcher := by
  unfold addWatcher at h
  rw [Array.getElem?_push] at h
  split at h
  · next hl => exact .inr ⟨hl, (Option.some.inj h).symm⟩
  · exact .inl h

/-- A watcher that waits for nothing may join the others. -/
theorem Regular.addWatcher (h : r.Regular []) {watcher : Watcher}
    (hlive : watcher.debouncer.live = none) : (r.addWatcher watcher).Regular [] := by
  refine ⟨h.distinct, h.once, h.told, fun he => ?_, h.named, fun hfound hwaits => ?_, h.idle⟩
  · obtain ⟨old, hold, hlisted⟩ := h.listed he
    obtain ⟨hlt, -⟩ := Array.getElem?_eq_some_iff.mp hold
    exact ⟨old, (Array.getElem?_push_lt hlt).trans
      ((Array.getElem?_eq_getElem hlt).symm.trans hold), hlisted⟩
  · rcases watchers_of_addWatcher hfound with hold | ⟨-, rfl⟩
    · exact h.waiting hold hwaits
    · exact absurd hlive hwaits

/-- Takes the registered watcher off a window, and silences it. -/
def dismiss (r : Recording) (entry : Nat × Registration) : Recording :=
  (r.takeOff entry.2.window entry.2.watcher).silence entry.2.watcher

/-- All windows are let go by dismissing one registration after the other. -/
theorem unwatchAll_eq (r : Recording) :
    r.unwatchAll = r.registry.foldl dismiss { r with registry := [] } := rfl

/-- **No window is watched any more.** -/
theorem Regular.unwatchAll (h : r.Regular []) :
    r.unwatchAll.Regular [] ∧ r.Trimmed r.unwatchAll ∧ r.unwatchAll.registry = [] := by
  have hall : ∀ (entries : List (Nat × Registration)) (r : Recording),
      Regular { r with registry := entries } [] →
      Regular { entries.foldl dismiss r with registry := [] } [] ∧
        r.Trimmed (entries.foldl dismiss r) := by
    intro entries
    induction entries with
    | nil => exact fun r h => ⟨h, .refl r⟩
    | cons entry entries ih =>
      intro r h
      obtain ⟨id, e⟩ := entry
      have hoff : Regular { r.takeOff e.window e.watcher with registry := (id, e) :: entries } [] :=
        h.takeOff e.window e.watcher
      have hrest : Regular { r.takeOff e.window e.watcher with registry := entries } [e.watcher] := by
        refine hoff.restrict (fun he => List.mem_cons_of_mem _ he) ?_ ?_ (List.nil_subset _)
        · intro v y l hy hl
          refine (List.mem_cons.mp (hoff.told hy hl)).resolve_left fun heq => ?_
          obtain ⟨-, rfl⟩ := Prod.mk.inj heq
          exact not_mem_takeOff hy hl
        · intro other hother
          rcases List.mem_cons.mp hother with rfl | hother
          · exact .inl (List.mem_singleton_self _)
          · exact .inr ⟨other, hother, rfl⟩
      obtain ⟨hregular, htrimmed⟩ :=
        ih ((r.takeOff e.window e.watcher).silence e.watcher) hrest.silence
      refine ⟨hregular, ((Trimmed.takeOff r e.window e.watcher).trans ?_).trans htrimmed⟩
      exact Trimmed.modifyDebouncer _ e.watcher Debouncer.cancel
  obtain ⟨hregular, htrimmed⟩ := hall r.registry { r with registry := [] } h
  rw [← unwatchAll_eq] at hregular htrimmed
  have hnone : r.unwatchAll.registry = [] :=
    List.eq_nil_iff_forall_not_mem.mpr fun entry he => List.not_mem_nil (htrimmed.registry he)
  have hsame : Unmoved { r.unwatchAll with registry := [] } r.unwatchAll :=
    ⟨rfl, rfl, hnone, rfl, rfl⟩
  refine ⟨hregular.unmoved hsame, ⟨fun he => ?_, htrimmed.windows, htrimmed.watchers, htrimmed.size,
    htrimmed.station, htrimmed.stopped⟩, hnone⟩
  exact (List.not_mem_nil (htrimmed.registry he)).elim

end SessionReplay.Recording
