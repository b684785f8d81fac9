import SessionReplay.Proofs.Output.Skipping

/-!
# The size that is announced

Wireframes are recorded in units that depend on the screen's density, and so is the size of the screen
that is announced before them. But a screen is announced anew only when the view, its bounds in pixels
or the way it is held have changed (`Item.Announces`). So the size that was announced last is that of
the last snapshot that announced one (`Sized.hand`): it is in the units of the wireframes behind it if
the density has been the same since (`announced_size_is_the_announcers`), and it is not if only the
density has changed (`announced_size_is_outdated`).
-/

namespace SessionReplay

/-! ## Sizes -/

/-- The size of the screen that a record tells. -/
def Record.size? {ι : Type} (r : Record ι) : Option (Int × Int) :=
  match r.content with
  | .screenSize width height _ => some (width, height)
  | _ => none

/-- A record that passes tells no size. -/
theorem Record.Passing.size? {ι : Type} {r : Record ι} (h : r.Passing) : r.size? = none := by
  unfold Record.size?
  rcases h with hend | ⟨event, hevent⟩
  · rw [hend]
  · rw [hevent]

/-- The size of the screen that some batches tell last. -/
def lastSize? {ι : Type} (bs : List (Batch ι)) : Option (Int × Int) := lastOf? Record.size? bs

namespace Item

/-- The density of the screen that a snapshot was taken of. -/
def density? (i : Item) : Option Single :=
  match i.content with
  | .snapshot s => some s.screen.density
  | .touch _ => none

/-- The size of the screen that a snapshot was taken of, in the units of its wireframes. -/
def screenSize? (i : Item) : Option (Int × Int) :=
  match i.content with
  | .snapshot s =>
    let size := s.screen.bounds.normalize s.screen.density
    some (size.width, size.height)
  | .touch _ => none

/-- The size is a matter of the bounds and the density. -/
theorem screenSize?_congr {i j : Item} (hscreen : i.screen? = j.screen?)
    (hdensity : i.density? = j.density?) : i.screenSize? = j.screenSize? := by
  unfold screen? at hscreen
  unfold density? at hdensity
  unfold screenSize?
  cases hi : i.content with
  | touch records =>
    rw [hi] at hscreen
    cases hj : j.content with
    | touch records' => rfl
    | snapshot t =>
      rw [hj] at hscreen
      cases hscreen
  | snapshot s =>
    rw [hi] at hscreen hdensity
    cases hj : j.content with
    | touch records' =>
      rw [hj] at hscreen
      cases hscreen
    | snapshot t =>
      rw [hj] at hscreen hdensity
      have hbounds := congrArg Prod.fst (Option.some.inj hscreen)
      have hsame := Option.some.inj hdensity
      dsimp only at hbounds ⊢
      rw [hbounds, hsame]

/-- A report tells the size of the screen if it announces one. -/
theorem lastSize?_report {i : Item} {s : Snapshot} (hsnapshot : i.content = .snapshot s)
    (last : Option (Bounds × Orientation)) :
    lastSize? [i.report s.screen last] = if i.Announces last then i.screenSize? else none := by
  unfold lastSize? lastOf? report screenSize?
  rw [hsnapshot, List.flatMap_singleton, List.filterMap_append]
  split <;> rfl

end Item

namespace Exhibition

variable {x y : Exhibition} {a item : Item}

/-- The size of the screen that was written last. -/
def size? (x : Exhibition) : Option (Int × Int) := lastSize? x.batches

/-! ## What an item does to the size -/

/-- An item that is processed without being remembered writes nothing of the screen. -/
theorem Faithful.adds_passing (h : x.Faithful) (hpointed : item.Pointed)
    (hpassing : ¬item.Shows ∨ item.BreaksOff x.station.output.storage) :
    ∃ bs, (x.hand item).batches = x.batches ++ bs ∧ ∀ b ∈ bs, ∀ r ∈ b.records, r.Passing := by
  obtain ⟨bs, hadds, hsilent, -⟩ := Station.process_passing h.lasting hpointed hpassing
  exact ⟨bs, (h.added item hadds).1, hsilent⟩

/-- A snapshot that is shown tells the size of its screen if it announces it, and leaves the size alone
otherwise. -/
theorem Faithful.size_shown (h : x.Faithful) (hshows : item.Shows)
    (hkept : ¬item.BreaksOff x.station.output.storage) :
    (x.hand item).size? =
      if item.Announces (x.shown.getLast?.bind Item.screen?) then item.screenSize? else x.size? := by
  obtain ⟨snapshot, hsnapshot⟩ := Item.snapshot_of_wireframes hshows
  obtain ⟨plan, hplan, hfarewell, hreport⟩ :=
    x.station.output.history.plan?_cases x.station.output.gallery hsnapshot hshows
  have hscreen := h.screen
  rcases Station.process_snapshot_adds x.station hsnapshot hplan with
    ⟨b, hb, hfalters, -⟩ | ⟨-, bs, -, hall, hadds⟩
  · refine absurd ⟨hshows, Decidable.of_not_not fun hstays => ?_, hfalters⟩ hkept
    rw [hfarewell, if_neg hstays] at hb
    cases hb
  · rw [hall h.lasting] at hadds
    have hsize : (x.hand item).size?
        = ((lastSize? plan.report.toList).or (lastSize? plan.farewell.toList)).or x.size? := by
      unfold size?
      rw [(h.added item hadds).1]
      unfold lastSize?
      rw [lastOf?_append, lastOf?_append]
    have hends : lastSize? plan.farewell.toList = none := by
      refine lastOf?_eq_none fun b hb r hr => ?_
      rw [hfarewell] at hb
      split at hb
      · cases List.mem_singleton.mp hb
        cases List.mem_singleton.mp hr
        rfl
      · cases hb
    rw [hsize, hends, Option.or_none, ← hscreen]
    rcases hreport with ⟨hknows, hnone, -⟩ | ⟨hnews, -⟩
    · have hquiet : ¬item.Announces x.station.output.history.screen :=
        fun hannounces => hannounces.elim (· hknows.1) (· hknows.2.1)
      rw [hnone, if_neg hquiet]
      rfl
    · rw [ScreenHistory.report_of_plan? hsnapshot hshows hplan hnews]
      change (lastSize? [item.report snapshot.screen x.station.output.history.screen]).or _ = _
      rw [Item.lastSize?_report hsnapshot]
      split
      · unfold Item.screenSize?
        rw [hsnapshot]
        rfl
      · rfl

/-! ## Who announced the screen -/

/-- An item is the last one among the snapshots shown that announced its view and its screen: after it,
view and screen stayed the same. -/
def AnnouncedBy (x : Exhibition) (a : Item) : Prop :=
  ∃ before after, x.shown = before ++ a :: after ∧
    a.Announces (before.getLast?.bind Item.screen?) ∧
    ∀ i ∈ after, i.data.previous = i.data.current ∧ i.screen? = a.screen?

/-- The screen that was announced is the one of the snapshot shown last. -/
theorem AnnouncedBy.screen (h : x.AnnouncedBy a) :
    x.shown.getLast?.bind Item.screen? = a.screen? := by
  obtain ⟨before, after, hshown, -, hafter⟩ := h
  rw [hshown, List.getLast?_append, List.getLast?_cons, Option.some_or, Option.bind_some]
  cases hlast : after.getLast? with
  | none => rfl
  | some i => exact (hafter i (List.mem_of_getLast? hlast)).2

/-- A snapshot that announces nothing leaves it to the one before. -/
theorem AnnouncedBy.concat (h : x.AnnouncedBy a) (hshown : y.shown = x.shown ++ [item])
    (hquiet : ¬item.Announces (x.shown.getLast?.bind Item.screen?)) : y.AnnouncedBy a := by
  have hscreen := h.screen
  obtain ⟨before, after, hbefore, hannounces, hafter⟩ := h
  refine ⟨before, after ++ [item], ?_, hannounces, ?_⟩
  · rw [hshown, hbefore, List.append_assoc, List.cons_append]
  · intro i hi
    rcases List.mem_append.mp hi with hi | hi
    · exact hafter i hi
    · cases List.mem_singleton.mp hi
      obtain ⟨hview, hsame⟩ := not_or.mp hquiet
      exact ⟨Decidable.of_not_not hview, (Decidable.of_not_not hsame).symm.trans hscreen⟩

/-- The size that was written last is that of the snapshot that announced the screen last. -/
def Sized (x : Exhibition) : Prop :=
  (x.shown = [] ∧ x.size? = none) ∨ ∃ a, x.AnnouncedBy a ∧ x.size? = a.screenSize?

/-- A snapshot that is shown is sized, and announced by itself if it announces its screen. -/
theorem Sized.hand_shown (h : x.Sized) (hfaithful : x.Faithful) (hshows : item.Shows)
    (hkept : ¬item.BreaksOff x.station.output.storage) :
    ∃ a, (x.hand item).AnnouncedBy a ∧ (x.hand item).size? = a.screenSize? ∧
      a.screen? = item.screen? ∧
      (item.Announces (x.shown.getLast?.bind Item.screen?) → a = item) := by
  have hsize := hfaithful.size_shown hshows hkept
  have hshown : (x.hand item).shown = x.shown ++ [item] := if_pos ⟨hshows, hkept⟩
  by_cases hannounces : item.Announces (x.shown.getLast?.bind Item.screen?)
  · rw [if_pos hannounces] at hsize
    exact ⟨item, ⟨x.shown, [], hshown, hannounces, nofun⟩, hsize, rfl, fun _ => rfl⟩
  · rw [if_neg hannounces] at hsize
    rcases h with ⟨hnone, -⟩ | ⟨a, hby, hbefore⟩
    · -- the first snapshot that is shown announces its screen
      obtain ⟨snapshot, hsnapshot⟩ := Item.snapshot_of_wireframes hshows
      refine absurd (.inr fun hsame => ?_) hannounces
      rw [hnone] at hsame
      unfold Item.screen? at hsame
      rw [hsnapshot] at hsame
      cases hsame
    · refine ⟨a, hby.concat hshown hannounces, hsize.trans hbefore, ?_, fun h => absurd h hannounces⟩
      rw [← hby.screen]
      exact Decidable.of_not_not (not_or.mp hannounces).2

/-- Every step keeps the size that of the announcer. -/
theorem Sized.step (h : x.Sized) (hfaithful : x.Faithful) (hstep : Step x y) : y.Sized := by
  cases hstep with
  | hand item pointed =>
    by_cases hshown : item.Shows ∧ ¬item.BreaksOff x.station.output.storage
    · obtain ⟨a, hby, hsize, -⟩ := h.hand_shown hfaithful hshown.1 hshown.2
      exact .inr ⟨a, hby, hsize⟩
    · have hpassing : ¬item.Shows ∨ item.BreaksOff x.station.output.storage :=
        Item.passing_of_not_shown hshown
      obtain ⟨bs, hbatches, hpass⟩ := hfaithful.adds_passing pointed hpassing
      have hsame : (x.hand item).shown = x.shown := if_neg hshown
      have hsize : (x.hand item).size? = x.size? := by
        unfold size? lastSize?
        rw [hbatches, lastOf?_append, lastOf?_eq_none fun b hb r hr => (hpass b hb r hr).size?]
        rfl
      unfold Sized AnnouncedBy
      rw [hsame, hsize]
      exact h
  | meanwhile s history written lasting settled =>
    have hsize : ({ x with station := s } : Exhibition).size? = x.size? := by
      unfold size? batches
      rw [written]
    unfold Sized
    rw [hsize]
    exact h

/-- The size that was written last is right after any calls. -/
theorem Sized.of_reachable (h : x.Reachable) : x.Sized := by
  obtain ⟨x₀, hstarts, hsteps⟩ := h
  induction hsteps with
  | refl =>
    cases hstarts with
    | fresh s history written lasting =>
      refine .inl ⟨rfl, ?_⟩
      unfold size? batches
      rw [written]
      rfl
  | tail hbefore hstep ih => exact ih.step (.of_reachable ⟨x₀, hstarts, hbefore⟩) hstep

/-- What is written in full is shown. -/
theorem Writes.shown (hwrites : x.Writes item) (h : x.Faithful) (hpointed : item.Pointed) :
    item.Shows ∧ ¬item.BreaksOff x.station.output.storage := by
  refine Decidable.of_not_not fun hnot => ?_
  obtain ⟨bs, hbatches, hpass⟩ := h.adds_passing hpointed (Item.passing_of_not_shown hnot)
  obtain ⟨cs, hwritten, b, hb, -, hrecord⟩ := hwrites
  rw [hbatches, List.append_cancel_left_eq] at hwritten
  rcases hpass b (hwritten ▸ hb) _ hrecord with hend | ⟨event, hevent⟩
  · cases hend
  · cases hevent

/-- **The size that was announced last is the announcer's.** After any items, let all wireframes of one
be written. Then the size of the screen that was written last, for this item or before, is that of the
last snapshot that announced its view and its screen, in the units of that snapshot. Its screen has the
same bounds in pixels and is held the same way, so the size is that of the item, in the units of its
wireframes, if the densities are the same; and if the item is taken in another view than the one before
it, or of another screen than the snapshot shown before, it is the announcer itself. -/
theorem announced_size_is_the_announcers (h : x.Reachable) (hpointed : item.Pointed)
    (hwrites : x.Writes item) :
    ∃ a, (x.hand item).AnnouncedBy a ∧ (x.hand item).size? = a.screenSize? ∧
      a.screen? = item.screen? ∧
      (a.density? = item.density? → (x.hand item).size? = item.screenSize?) ∧
      (item.Announces (x.shown.getLast?.bind Item.screen?) → a = item) := by
  have hfaithful := Faithful.of_reachable h
  obtain ⟨hshows, hkept⟩ := hwrites.shown hfaithful hpointed
  obtain ⟨a, hby, hsize, hscreen, hself⟩ :=
    (Sized.of_reachable h).hand_shown hfaithful hshows hkept
  refine ⟨a, hby, hsize, hscreen, fun hdensity => ?_, hself⟩
  rw [hsize]
  exact Item.screenSize?_congr hscreen hdensity

/-- A snapshot of a screen with 1080 by 1920 pixels, showing a square. -/
def square (time : Int) (previous : ViewContext) (density : Single) (side : Int) : Item where
  data := ⟨time, previous, ⟨"a", "s", "v"⟩⟩
  content := .snapshot
    { screen := { bounds := ⟨0, 0, 1080, 1920⟩, density := density }
      nodes := some [⟨[{ id := 1, bounds := ⟨0, 0, side, side⟩, content := .shape }], []⟩] }

/-- A processor that was handed a snapshot at a density of three. -/
def dense : Exhibition := blank.hand (square 0 {} ⟨0x40400000⟩ 10)

/-- This can come about. -/
theorem reachable_dense : dense.Reachable := reachable_blank.hand nofun

/-- Another snapshot of a changed square is written in full. -/
theorem writes_square (density : Single) :
    dense.Writes (square 100 ⟨"a", "s", "v"⟩ density 15) :=
  ⟨_, rfl, _, List.mem_singleton_self _, rfl, List.mem_singleton_self _⟩

/-- At the same density the size that was announced is the present one. -/
theorem announced_size_is_the_announcers_dense :
    dense.Reachable ∧ (square 100 ⟨"a", "s", "v"⟩ ⟨0x40400000⟩ 15).Pointed ∧
      dense.Writes (square 100 ⟨"a", "s", "v"⟩ ⟨0x40400000⟩ 15) ∧
      (dense.hand (square 100 ⟨"a", "s", "v"⟩ ⟨0x40400000⟩ 15)).size? = some (360, 640) := by
  have hpointed : (square 100 ⟨"a", "s", "v"⟩ ⟨0x40400000⟩ 15).Pointed := nofun
  obtain ⟨a, ⟨before, after, hshown, -⟩, -, -, hsize, -⟩ :=
    announced_size_is_the_announcers reachable_dense hpointed (writes_square _)
  have hmem : a ∈ [square 0 {} ⟨0x40400000⟩ 10, square 100 ⟨"a", "s", "v"⟩ ⟨0x40400000⟩ 15] := by
    change a ∈ (dense.hand (square 100 ⟨"a", "s", "v"⟩ ⟨0x40400000⟩ 15)).shown
    rw [hshown]
    exact List.mem_append_right _ List.mem_cons_self
  have hdensity : a.density? = some ⟨0x40400000⟩ := by
    rcases List.mem_cons.mp hmem with rfl | hmem
    · rfl
    · rw [List.mem_singleton.mp hmem]
      rfl
  refine ⟨reachable_dense, hpointed, writes_square _, (hsize hdensity).trans ?_⟩
  decide

/-- **The size that was announced can be outdated.** If only the density changes, the size that was
announced is in other units than the wireframes behind it. -/
theorem announced_size_is_outdated :
    ¬∀ (x : Exhibition) (item : Item), x.Reachable → item.Pointed → x.Writes item →
      (x.hand item).size? = item.screenSize? := by
  intro hclaim
  have hsize := hclaim dense (square 100 ⟨"a", "s", "v"⟩ ⟨0x40000000⟩ 15) reachable_dense nofun
    (writes_square _)
  exact absurd hsize (by decide)

end Exhibition

end SessionReplay
