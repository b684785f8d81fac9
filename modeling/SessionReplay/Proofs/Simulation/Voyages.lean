import SessionReplay.Proofs.Context.Returning
import SessionReplay.Proofs.Simulation.ViewIds

/-!
# Items made in started views

A `Voyage` is an application that starts views under any names, with the items that are made in them.
Views are started between items as the application likes. An item is kept, or it is refused, so that its
change of view is handed back at once; and what an item remembers can be handed back later as well.

* `call_cases`: everything that a call can do.
* `views_after`: the views that were ever active, and which of them is.
* `Behind`: among which views those are that a next item could follow. Only an item that is kept adds to
  them, and only its own view.
* `views_never_recur`: no view comes twice. So an item made before a view is started and one made after
  it belong to different views, and until an item is kept again each one that is made carries a change.

The number of views is limited by the word in which the application counts them. An application without
an id makes no items.
-/

namespace SessionReplay.Simulation

/-- Something that happens on a voyage. -/
inductive VoyageCall where
  /-- A view is started. -/
  | start (name : String)
  /-- An item is made and kept. -/
  | keep (now : Int)
  /-- An item is made and refused. Its change is handed back at once. -/
  | refuse (now : Int)
  /-- What an item remembers is handed back; items are numbered as they were made. -/
  | restore (index : Nat)
deriving DecidableEq, Repr

/-- An application that starts views, with the items that are made in them. -/
structure Voyage where
  /-- What starts the views. -/
  views : ViewStarter
  /-- The views that were ever active, the oldest first. -/
  installed : List ViewContext := []
  /-- The view that is active. -/
  active : Option ViewContext := none
  /-- All items. -/
  itinerary : Itinerary := {}
  /-- What the items remember that were kept. -/
  kept : List ContextData := []

namespace Voyage

/-- What an item remembers that is made now. -/
def create (x : Voyage) (now : Int) : Except Log.Event (ContextData × Tracker) :=
  x.itinerary.tracker.create now x.active

/-- The voyage after one more call. -/
def call (x : Voyage) : VoyageCall → Voyage
  | .start name =>
    let (context, views) := x.views.start name
    { x with views := views, installed := x.installed ++ [context], active := some context }
  | .keep now =>
    let next := x.itinerary.call (.create now x.active)
    { x with itinerary := next, kept := x.kept ++ next.made.drop x.itinerary.made.length }
  | .refuse now =>
    let next := x.itinerary.call (.create now x.active)
    { x with itinerary := next.call (.restore x.itinerary.made.length) }
  | .restore index => { x with itinerary := x.itinerary.call (.restore index) }

/-- The voyage after several calls. -/
def calls (x : Voyage) (cs : List VoyageCall) : Voyage := cs.foldl call x

/-- The voyage of an application after some calls. -/
def after (application : String) (cs : List VoyageCall) : Voyage :=
  calls { views := { application := application } } cs

/-- The names of the views that are started by some calls. -/
def names (cs : List VoyageCall) : List String :=
  cs.filterMap fun
    | .start name => some name
    | _ => none

variable {application name : String} {cs before between rest : List VoyageCall}

/-- Calls are made one after the other. -/
theorem calls_append (x : Voyage) (cs more : List VoyageCall) :
    x.calls (cs ++ more) = (x.calls cs).calls more :=
  List.foldl_append

/-- The last call is made after the others. -/
theorem after_concat (application : String) (cs : List VoyageCall) (c : VoyageCall) :
    after application (cs ++ [c]) = (after application cs).call c :=
  calls_append _ _ _

/-- The names of calls are those of the first ones and of the others. -/
@[simp] theorem names_append (cs more : List VoyageCall) : names (cs ++ more) = names cs ++ names more :=
  List.filterMap_append

/-- A start brings a name. -/
@[simp] theorem names_start (name : String) (cs : List VoyageCall) :
    names (.start name :: cs) = name :: names cs := rfl

/-- The item that is made in a view. -/
def item (x : Voyage) (now : Int) (view : ViewContext) : ContextData :=
  ⟨now, x.itinerary.tracker.last, view⟩

/-- In a valid view an item can be made. -/
theorem create_of_valid {x : Voyage} {view : ViewContext} (hactive : x.active = some view)
    (hvalid : view.isValid = true) (now : Int) : x.itinerary.call (.create now x.active)
      = ⟨⟨view⟩, x.itinerary.made ++ [x.item now view]⟩ := by
  simp [Itinerary.call, Tracker.create, hactive, hvalid, item]

/-- **Everything that a call can do.** It starts a view; or it changes nothing; or it makes an item in
the active view, which becomes the view seen last only if the item is kept; or it hands back the change of
an item. -/
theorem call_cases (x : Voyage) (c : VoyageCall) :
    (∃ name, c = .start name ∧ x.call c = { x with
      views := (x.views.start name).2
      installed := x.installed ++ [(x.views.start name).1]
      active := some (x.views.start name).1 }) ∨
    ((∀ name, c ≠ .start name) ∧ x.call c = x) ∨
    (∃ now view, c = .keep now ∧ x.active = some view ∧ view.isValid = true ∧
      x.call c = { x with
        itinerary := ⟨⟨view⟩, x.itinerary.made ++ [x.item now view]⟩
        kept := x.kept ++ [x.item now view] }) ∨
    (∃ now view, c = .refuse now ∧ x.active = some view ∧ view.isValid = true ∧
      x.call c = { x with
        itinerary := ⟨x.itinerary.tracker, x.itinerary.made ++ [x.item now view]⟩ }) ∨
    ∃ index data, c = .restore index ∧ data ∈ x.itinerary.made ∧
      x.call c = { x with itinerary := ⟨⟨data.previous⟩, x.itinerary.made⟩ } := by
  have hcreate : ∀ now, x.itinerary.call (.create now x.active) = x.itinerary ∨
      ∃ view, x.active = some view ∧ view.isValid = true ∧
        x.itinerary.call (.create now x.active) = ⟨⟨view⟩, x.itinerary.made ++ [x.item now view]⟩ := by
    intro now
    cases hactive : x.active with
    | none => exact .inl rfl
    | some view =>
      by_cases hvalid : view.isValid = true
      · exact .inr ⟨view, rfl, hvalid, hactive ▸ create_of_valid hactive hvalid now⟩
      · exact .inl (by simp [Itinerary.call, Tracker.create, hvalid])
  cases c with
  | start name => exact .inl ⟨name, rfl, rfl⟩
  | keep now =>
    rcases hcreate now with hsame | ⟨view, hactive, hvalid, hmade⟩
    · exact .inr (.inl ⟨by simp, by simp [call, hsame]⟩)
    · exact .inr (.inr (.inl ⟨now, view, rfl, hactive, hvalid, by simp [call, hmade]⟩))
  | refuse now =>
    rcases hcreate now with hsame | ⟨view, hactive, hvalid, hmade⟩
    · refine .inr (.inl ⟨by simp, ?_⟩)
      simp only [call, hsame]
      simp [Itinerary.call]
    · -- The item that is handed back is the one that was just made.
      refine .inr (.inr (.inr (.inl ⟨now, view, rfl, hactive, hvalid, ?_⟩)))
      simp only [call, hmade]
      simp [Itinerary.call, Tracker.restore, item]
  | restore index =>
    rcases x.itinerary.call_cases (.restore index) with
      hsame | ⟨_, _, hcall, -⟩ | ⟨_, data, hcall, hdata, -, hrestored⟩
    · exact .inr (.inl ⟨by simp, by rw [call, hsame]⟩)
    · cases hcall
    · obtain rfl := TrackerCall.restore.inj hcall
      refine .inr (.inr (.inr (.inr ⟨index, data, rfl, List.mem_of_getElem? hdata, ?_⟩)))
      rw [call, hrestored]

/-! ## The views that are started -/

/-- Without a start the views are as they were. -/
theorem views_calls {x : Voyage} (h : names cs = []) : (x.calls cs).views = x.views := by
  induction cs generalizing x with
  | nil => rfl
  | cons c cs ih =>
    cases c with
    | start name => cases h
    | keep now => exact ih h
    | refuse now => exact ih h
    | restore index => exact ih h

/-- **The views that were ever active** are those of the names, and the last one of them is active. -/
theorem views_after (application : String) (cs : List VoyageCall) :
    (after application cs).installed = contexts application (names cs) ∧
      (after application cs).active = (contexts application (names cs)).getLast? ∧
      (after application cs).views = ⟨application, UInt64.ofNat (names cs).length⟩ := by
  induction cs using List.reverseRecOn with
  | nil => exact ⟨rfl, rfl, rfl⟩
  | append_singleton cs c ih =>
    rw [after_concat, names_append]
    cases c with
    | start name =>
      obtain ⟨hinstalled, -, hviews⟩ := ih
      let context : ViewContext :=
        ⟨application, sessionId, viewId name (UInt64.ofNat (names cs).length)⟩
      have hstart : (after application cs).call (.start name) = { after application cs with
          views := ⟨application, UInt64.ofNat (names cs).length + 1⟩
          installed := contexts application (names cs) ++ [context]
          active := some context } := by
        simp only [call, ViewStarter.start, hinstalled, hviews, context]
      rw [hstart, show names [.start name] = [name] from rfl, contexts_concat, List.getLast?_concat,
        List.length_append, UInt64.ofNat_add]
      exact ⟨rfl, rfl, rfl⟩
    | keep now => rwa [show names [.keep now] = [] from rfl, List.append_nil]
    | refuse now => rwa [show names [.refuse now] = [] from rfl, List.append_nil]
    | restore index => rwa [show names [.restore index] = [] from rfl, List.append_nil]

/-- Once a view was started, one is active that was not there before, nor is it the default one. -/
theorem active_notMem (application : String)
    (few : (names (before ++ .start name :: rest)).length ≤ 2 ^ 64) :
    ∃ view, (after application (before ++ .start name :: rest)).active = some view ∧
      view ∈ contexts application (names (before ++ .start name :: rest)) ∧
      view ∉ {} :: contexts application (names before) := by
  obtain ⟨-, hactive, -⟩ := views_after application (before ++ .start name :: rest)
  rw [names_append, names_start] at few hactive ⊢
  obtain ⟨later, hlength, happend, hnew⟩ := exists_contexts_append_new application few
  have hlater : later ≠ [] := List.ne_nil_of_length_pos (by simp [hlength])
  have hlast : later.getLast hlater ∈ later := List.getLast_mem hlater
  refine ⟨later.getLast hlater, ?_, happend ▸ List.mem_append_right _ hlast, hnew _ hlast⟩
  rw [hactive, happend, List.getLast?_append_of_ne_nil _ hlater, List.getLast?_eq_some_getLast hlater]

/-! ## What the items know -/

/-- The items that a call makes, kept or not, are made in the active view. -/
theorem made_call (x : Voyage) (c : VoyageCall) :
    ∃ made kept, (x.call c).itinerary.made = x.itinerary.made ++ made ∧ (x.call c).kept = x.kept ++ kept ∧
      kept ⊆ made ∧ ∀ d ∈ made, x.active = some d.current := by
  have hnothing : ∃ made kept, x.itinerary.made = x.itinerary.made ++ made ∧ x.kept = x.kept ++ kept ∧
      kept ⊆ made ∧ ∀ d ∈ made, x.active = some d.current :=
    ⟨[], [], (List.append_nil _).symm, (List.append_nil _).symm, List.nil_subset _, nofun⟩
  rcases x.call_cases c with ⟨_, -, hcall⟩ | ⟨-, hcall⟩ | ⟨now, view, -, hactive, -, hcall⟩ |
    ⟨now, view, -, hactive, -, hcall⟩ | ⟨_, _, -, -, hcall⟩ <;> rw [hcall]
  · exact hnothing
  · exact hnothing
  · refine ⟨[x.item now view], [x.item now view], rfl, rfl, List.Subset.refl _, ?_⟩
    rintro _ (_ | ⟨_, ⟨⟩⟩)
    exact hactive
  · refine ⟨[x.item now view], [], rfl, (List.append_nil _).symm, List.nil_subset _, ?_⟩
    rintro _ (_ | ⟨_, ⟨⟩⟩)
    exact hactive
  · exact hnothing

/-- What was kept stays. -/
theorem kept_prefix_calls (x : Voyage) (cs : List VoyageCall) : x.kept <+: (x.calls cs).kept := by
  induction cs generalizing x with
  | nil => exact List.prefix_refl _
  | cons c cs ih =>
    obtain ⟨_, kept, -, hkept, -⟩ := x.made_call c
    exact List.IsPrefix.trans ⟨kept, hkept.symm⟩ (ih (x.call c))

/-- Items that were kept were made. -/
theorem kept_subset_made (application : String) (cs : List VoyageCall) :
    (after application cs).kept ⊆ (after application cs).itinerary.made := by
  induction cs using List.reverseRecOn with
  | nil => exact List.nil_subset _
  | append_singleton cs c ih =>
    obtain ⟨made, kept, hmade, hkept, hsub, -⟩ := (after application cs).made_call c
    rw [after_concat, hmade, hkept]
    exact List.append_subset.mpr ⟨List.subset_append_of_subset_left _ ih,
      List.subset_append_of_subset_right _ hsub⟩

/-- The views that the next item could follow are the default one and some given ones. -/
structure Behind (views : List ViewContext) (x : Itinerary) : Prop where
  /-- The view seen last is one of them. -/
  last : x.tracker.last ∈ {} :: views
  /-- So is every view that can be handed back. -/
  previous : ∀ d ∈ x.made, d.previous ∈ {} :: views

variable {views : List ViewContext}

/-- More views allow more. -/
theorem Behind.mono {x : Itinerary} {more : List ViewContext} (h : Behind views x)
    (hmore : views ⊆ more) : Behind more x where
  last := List.cons_subset_cons _ hmore h.last
  previous d hd := List.cons_subset_cons _ hmore (h.previous d hd)

/-- Only an item that is kept adds to the views that the next one could follow, and only its own
view. -/
theorem Behind.call {x : Voyage} (h : Behind views x.itinerary) {c : VoyageCall}
    (hkeep : (x.call c).kept = x.kept ∨ ∀ view, x.active = some view → view ∈ views) :
    Behind views (x.call c).itinerary := by
  have hmade : ∀ now view, ∀ d ∈ x.itinerary.made ++ [x.item now view], d.previous ∈ {} :: views := by
    intro now view d hd
    rcases List.mem_append.mp hd with hd | hd
    · exact h.previous d hd
    · rw [List.mem_singleton.mp hd]
      exact h.last
  rcases x.call_cases c with ⟨_, -, hcall⟩ | ⟨-, hcall⟩ | ⟨now, view, -, hactive, -, hcall⟩ |
    ⟨now, view, -, -, -, hcall⟩ | ⟨_, data, -, hdata, hcall⟩ <;> rw [hcall] at hkeep ⊢
  · exact h
  · exact h
  · refine ⟨List.mem_cons_of_mem _ ?_, hmade now view⟩
    rcases hkeep with hsame | hviews
    · simp at hsame
    · exact hviews view hactive
  · exact ⟨h.last, hmade now view⟩
  · exact ⟨h.previous data hdata, h.previous⟩

/-- Items are made in views that were started, and follow such views or the default one. -/
theorem behind_after (application : String) (cs : List VoyageCall) :
    Behind (contexts application (names cs)) (after application cs).itinerary ∧
      ∀ d ∈ (after application cs).itinerary.made, d.current ∈ contexts application (names cs) := by
  induction cs using List.reverseRecOn with
  | nil => exact ⟨⟨List.mem_cons_self, nofun⟩, nofun⟩
  | append_singleton cs c ih =>
    obtain ⟨hbehind, hcurrent⟩ := ih
    obtain ⟨-, hactive, -⟩ := views_after application cs
    obtain ⟨later, -, happend⟩ := exists_contexts_append application (names cs) (names [c])
    have hmore : contexts application (names cs) ⊆ contexts application (names (cs ++ [c])) := by
      rw [names_append, happend]
      exact List.subset_append_left _ _
    have hstarted : ∀ view, (after application cs).active = some view →
        view ∈ contexts application (names cs) :=
      fun view hview => List.mem_of_getLast? (hactive ▸ hview)
    obtain ⟨made, _, hmade, -, -, hview⟩ := (after application cs).made_call c
    rw [after_concat]
    refine ⟨(hbehind.call (.inr hstarted)).mono hmore, ?_⟩
    rw [hmade]
    intro d hd
    rcases List.mem_append.mp hd with hd | hd
    · exact hmore (hcurrent d hd)
    · exact hmore (hstarted d.current (hview d hd))

/-- Items that are made after a view was started, kept or not, belong to views that were not there
before. -/
theorem made_after_start (application : String)
    (few : (names (before ++ .start name :: rest)).length ≤ 2 ^ 64) :
    ∃ made kept, (after application (before ++ .start name :: rest)).itinerary.made
        = (after application before).itinerary.made ++ made ∧
      (after application (before ++ .start name :: rest)).kept
        = (after application before).kept ++ kept ∧
      kept ⊆ made ∧ ∀ d ∈ made, d.current ∉ contexts application (names before) := by
  induction rest using List.reverseRecOn with
  | nil =>
    rw [after_concat]
    exact ⟨[], [], (List.append_nil _).symm, (List.append_nil _).symm, List.nil_subset _, nofun⟩
  | append_singleton rest c ih =>
    rw [← List.cons_append, ← List.append_assoc] at few ⊢
    have hfewer : (names (before ++ .start name :: rest)).length ≤ 2 ^ 64 := by
      rw [names_append _ [c], List.length_append] at few
      omega
    obtain ⟨made, kept, hmade, hkept, hsub, hlater⟩ := ih hfewer
    obtain ⟨here, hhere, -, hnew⟩ := active_notMem application hfewer
    obtain ⟨made', kept', hmade', hkept', hsub', hview⟩ :=
      (after application (before ++ .start name :: rest)).made_call c
    rw [after_concat]
    refine ⟨made ++ made', kept ++ kept', by rw [hmade', hmade, List.append_assoc],
      by rw [hkept', hkept, List.append_assoc], ?_, ?_⟩
    · exact List.append_subset.mpr ⟨List.subset_append_of_subset_left _ hsub,
        List.subset_append_of_subset_right _ hsub'⟩
    · intro d hd
      rcases List.mem_append.mp hd with hd | hd
      · exact hlater d hd
      · obtain rfl : here = d.current := Option.some.inj (hhere.symm.trans (hview d hd))
        exact fun hearlier => hnew (List.mem_cons_of_mem _ hearlier)

/-- Until an item is kept again, the next one follows a view that was there before. -/
theorem behind_until_kept
    (hkept : (after application (before ++ .start name :: between)).kept
      = (after application before).kept) :
    Behind (contexts application (names before))
      (after application (before ++ .start name :: between)).itinerary := by
  induction between using List.reverseRecOn with
  | nil =>
    rw [after_concat] at hkept ⊢
    exact (behind_after application before).1.call (.inl hkept)
  | append_singleton between c ih =>
    rw [← List.cons_append, ← List.append_assoc, after_concat] at hkept ⊢
    have hstart : (after application before).kept
        <+: (after application (before ++ .start name :: between)).kept := by
      rw [show after application (before ++ .start name :: between)
        = (after application before).calls (.start name :: between) from calls_append _ _ _]
      exact kept_prefix_calls _ _
    have hlast := kept_prefix_calls (after application (before ++ .start name :: between)) [c]
    have hsame := hstart.eq_of_length_le (hkept ▸ hlast.length_le)
    exact (ih hsame.symm).call (.inl (hkept.trans hsame))

/-- Until an item is kept again, each one that is made carries a change to the view that was started
last, whatever is handed back in between. An application without an id makes none. -/
theorem create_until_kept (application : String)
    (few : (names (before ++ .start name :: between)).length ≤ 2 ^ 64)
    (hkept : (after application (before ++ .start name :: between)).kept
      = (after application before).kept) (now : Int) :
    ∃ view, (after application (before ++ .start name :: between)).installed.getLast? = some view ∧
      if isId application then
        ∃ data tracker, (after application (before ++ .start name :: between)).create now
          = .ok (data, tracker) ∧ data.current = view ∧ data.Changes
      else (after application (before ++ .start name :: between)).create now
        = .error (.invalidContext view.view) := by
  obtain ⟨view, hactive, hstarted, hnew⟩ := active_notMem application few
  obtain ⟨hinstalled, hlast, -⟩ := views_after application (before ++ .start name :: between)
  have hvalid := isValid_of_mem_contexts hstarted
  refine ⟨view, by rw [hinstalled, ← hlast, hactive], ?_⟩
  rw [create, hactive]
  split
  next hid =>
    refine ⟨⟨now, _, view⟩, ⟨view⟩, by rw [Tracker.create, hvalid, hid]; rfl, rfl, ?_⟩
    intro hsame
    refine hnew ?_
    rw [← show _ = view from hsame]
    exact (behind_until_kept hkept).last
  next hid => simp [Tracker.create, hvalid, hid]

/-- **No view comes twice**, and every start of a view is seen. After any calls with at most `2 ^ 64`
starts, the ids of the views that were ever active are all different. Whichever of the starts is looked
at, the items made before it and those made after it belong to different views; and until an item is
kept after it, each one that is made carries a change to the view that was started last. An application
without an id makes no items. -/
theorem views_never_recur (application : String) (few : (names cs).length ≤ 2 ^ 64) :
    (after application cs).installed = contexts application (names cs) ∧
    ((after application cs).installed.map ViewContext.view).Nodup ∧
    ∀ before name rest, cs = before ++ .start name :: rest →
      (∃ later, (after application cs).itinerary.made
          = (after application before).itinerary.made ++ later ∧
        ∀ d ∈ (after application before).itinerary.made, ∀ d' ∈ later, d.current ≠ d'.current) ∧
      ∀ between, between <+: rest →
        let x := after application (before ++ .start name :: between)
        x.kept = (after application before).kept → ∀ now,
          ∃ view, x.installed.getLast? = some view ∧
            if isId application then
              ∃ data tracker, x.create now = .ok (data, tracker) ∧ data.current = view ∧ data.Changes
            else x.create now = .error (.invalidContext view.view) := by
  obtain ⟨hinstalled, -, -⟩ := views_after application cs
  refine ⟨hinstalled, hinstalled ▸ nodup_view_contexts application few, ?_⟩
  rintro before name rest rfl
  obtain ⟨later, -, hmade, -, -, hlater⟩ := made_after_start application few
  obtain ⟨-, hcurrent⟩ := behind_after application before
  refine ⟨⟨later, hmade, ?_⟩, ?_⟩
  · intro d hd d' hd' hsame
    exact hlater d' hd' (hsame ▸ hcurrent d hd)
  · rintro between ⟨rest, rfl⟩
    intro x hkept now
    refine create_until_kept application ?_ hkept now
    rw [names_append, names_start, names_append] at few
    rw [names_append, names_start]
    simp only [List.length_append, List.length_cons] at few ⊢
    omega

/-- Three views whose names look like ids, with items made before, between and after them. -/
def lookalikes : List VoyageCall :=
  [.start "x", .keep 1, .start "x-0", .refuse 2, .start "x", .keep 3, .restore 0]

/-- The last view has the name of the first one, and the name of the second one is the id of the first.
The item that is made after the refused one still carries the change to the second view. -/
theorem views_never_recur_lookalikes :
    (names lookalikes).length ≤ 2 ^ 64 ∧
    (after "app" lookalikes).installed.map ViewContext.view = ["x-0", "x-0-1", "x-2"] ∧
    ((after "app" lookalikes).installed.map ViewContext.view).Nodup ∧
    ∃ data tracker, (after "app" (lookalikes.take 4)).create 3 = .ok (data, tracker) ∧
      data.current.view = "x-0-1" ∧ data.Changes := by
  have few : (names lookalikes).length ≤ 2 ^ 64 := by decide
  have hlast : (after "app" (lookalikes.take 4)).installed.getLast?
      = some ⟨"app", sessionId, "x-0-1"⟩ := by decide
  obtain ⟨-, hnodup, hstarts⟩ := views_never_recur "app" few
  obtain ⟨-, hseen⟩ := hstarts [.start "x", .keep 1] "x-0" _ rfl
  obtain ⟨view, hview, data, tracker, hcreate, rfl, hchanges⟩ :=
    hseen [.refuse 2] ⟨_, rfl⟩ (by decide) 3
  have hcurrent : data.current = ⟨"app", sessionId, "x-0-1"⟩ := Option.some.inj (hview.symm.trans hlast)
  exact ⟨few, by decide, hnodup, data, tracker, hcreate, by rw [hcurrent], hchanges⟩

end Voyage

end SessionReplay.Simulation
