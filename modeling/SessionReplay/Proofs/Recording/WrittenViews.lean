import SessionReplay.Proofs.Recording.EndedViews

/-!
# The views that are written for

An item can be made in a valid view only, but it also remembers the view of the item before it, and
the first item of all remembers a view that is none. Still everything that is written belongs to a
valid view (`written_in_valid_view`): what is written for an item belongs to its own view, but for the
end of the view that a snapshot leaves, which belongs to the view that the snapshot remembers.

Touches are written in the view that they were made in, whatever they tell. So an end of a view that
a host reports among its touches need not be the end of a view that any item remembers
(`reported_end_in_own_view`).
-/

namespace SessionReplay

/-- Each of the three ids names something. -/
def ViewContext.Named (view : ViewContext) : Prop :=
  ∀ id ∈ [view.application, view.session, view.view], id ≠ "" ∧ id ≠ nullId

/-- A view is valid exactly if its ids name something. -/
theorem ViewContext.named_iff {view : ViewContext} : view.Named ↔ view.isValid = true := by
  have hid : ∀ id : String, (id ≠ "" ∧ id ≠ nullId) ↔ isId id = true := by
    intro id
    unfold isId
    rw [Bool.and_eq_true, bne_iff_ne, bne_iff_ne]
  unfold Named isValid
  simp only [hid, List.forall_mem_cons, List.not_mem_nil, false_implies, implies_true, and_true,
    Bool.and_eq_true, and_assoc]

namespace Item

variable {i : Item} {bs : List (Batch Slot)} {b : Batch Slot}

/-- Batches written for a snapshot that end no view belong to its own. -/
theorem Writes.context_of_not_endsView (h : i.Writes bs) (hb : b ∈ bs) (hstays : ¬b.EndsView) :
    b.context = i.data.current := by
  refine (h.context hb).resolve_right ?_
  rintro ⟨hends, hprevious⟩
  cases h with
  | touch records _ content all =>
    rw [all b hb] at hprevious
    exact hends.1 hprevious.symm
  | snapshot _ farewells reports content ends tells =>
    rcases List.mem_append.mp hb with hb | hb
    · rcases ends with rfl | ⟨-, rfl⟩
      · cases hb
      · rw [List.mem_singleton.mp hb] at hstays
        exact hstays ⟨_, List.mem_singleton_self _, rfl⟩
    · rcases tells with rfl | ⟨report, hreports, rfl⟩
      · cases hb
      · rw [List.mem_singleton.mp hb, hreports.1] at hprevious
        exact hends.1 hprevious.symm

/-- Batches written for touches belong to the view of the touches. -/
theorem Writes.context_of_touch (h : i.Writes bs) {records : List (Record Slot)}
    (htouch : i.content = .touch records) (hb : b ∈ bs) : b.context = i.data.current := by
  cases h with
  | touch _ _ _ all => exact congrArg Batch.context (all b hb)
  | snapshot _ _ _ content => cases content.symm.trans htouch

/-- What is written for an item belongs to a valid view, if the item does. -/
theorem Writes.isValid (h : i.Writes bs) (hvalid : i.data.current.isValid = true) (hb : b ∈ bs) :
    b.context.isValid = true := by
  rcases h.context hb with hcurrent | ⟨⟨-, hends⟩, hprevious⟩
  · rw [hcurrent]
    exact hvalid
  · rw [hprevious]
    exact hends

end Item

namespace Chronicle

open Station

variable {c k : Chronicle}

/-- What was written is a batch with the pictures that were there. -/
theorem exists_gallery {settings : Settings} (hrun : Reaches (start settings) c) :
    ∀ w ∈ c.station.output.storage.written.toList, ∃ g : Gallery, w = g.written w.batch := by
  induction hrun with
  | refl => exact fun _ hw => (List.not_mem_nil hw).elim
  | tail _ hstep ih =>
    rcases hstep.effect with ⟨-, hquiet⟩ | ⟨-, -, -, houtput⟩ | ⟨now, id, item, -, -, rfl⟩
    · rw [hquiet.written]
      exact ih
    · rw [houtput]
      exact ih
    · obtain ⟨bs, history, -, hadds, -⟩ := delivering_cases _ id item
      rw [hadds.written]
      intro w hw
      rcases List.mem_append.mp hw with hw | hw
      · exact ih w hw
      · obtain ⟨b, -, rfl⟩ := List.mem_map.mp hw
        exact ⟨_, rfl⟩

/-- What was written for a snapshot ends a view. -/
def Farewell (e : Delivery × Written) : Prop :=
  (∃ s, e.1.item.content = .snapshot s) ∧ e.2.batch.EndsView

/-- The item that something was written for is one of those that the worker was handed. -/
theorem mem_entries {e : Delivery × Written} (he : e ∈ c.entries) :
    e.1 ∈ c.deliveries ∧ e.2 ∈ e.1.kept := by
  obtain ⟨d, hd, hin⟩ := List.mem_flatMap.mp he
  obtain ⟨w, hw, rfl⟩ := List.mem_map.mp hin
  exact ⟨hd, hw⟩

/-- **Everything is written in a valid view.** After any run, what was written was written for
accepted items, with all three ids of its view naming something. It belongs to the view that the item
remembers if it is the end of the view that a snapshot leaves, and to the item's own view if it is
anything else. -/
theorem written_in_valid_view {settings : Settings} (hrun : Reaches (start settings) c) :
    c.station.output.storage.written.toList = c.entries.map Prod.snd ∧
    ∀ e ∈ c.entries, c.station.queue.data[e.1.id]? = some e.1.item.data ∧
      e.2.resolved.context = e.2.batch.context ∧ e.2.resolved.context.Named ∧
      (Farewell e → e.2.resolved.context = e.1.item.data.previous ∧
        e.1.item.data.previous ≠ e.1.item.data.current) ∧
      (¬Farewell e → e.2.resolved.context = e.1.item.data.current) := by
  have h := Booked.of_reaches hrun
  have hwritten : c.station.output.storage.written.toList = c.entries.map Prod.snd := by
    rw [h.written, entries, List.map_flatMap]
    simp only [List.map_map, Function.comp_def, List.map_id']
  refine ⟨hwritten, fun e he => ?_⟩
  obtain ⟨hd, hkept⟩ := mem_entries he
  have hin : e.2.batch ∈ e.1.kept.map Written.batch := List.mem_map_of_mem hkept
  have hwrites := h.writes e.1 hd
  have hfound := h.accepted e.1 hd
  have hvalid := (reaches_chained hrun).valid _ (List.mem_of_getElem? hfound)
  obtain ⟨g, hg⟩ := exists_gallery hrun e.2 (hwritten ▸ List.mem_map_of_mem he)
  have hresolved : e.2.resolved.context = e.2.batch.context :=
    congrArg (fun w : Written => w.resolved.context) hg
  rw [hresolved]
  refine ⟨hfound, rfl, ViewContext.named_iff.mpr (hwrites.isValid hvalid hin), ?farewell, ?own⟩
  case farewell =>
    rintro ⟨⟨s, hsnapshot⟩, hends⟩
    obtain ⟨⟨hleaves, -⟩, heq⟩ := hwrites.eq_farewell hsnapshot hin hends
    exact ⟨congrArg Batch.context heq, hleaves⟩
  case own =>
    intro hother
    cases hcontent : e.1.item.content with
    | touch records => exact hwrites.context_of_touch hcontent hin
    | snapshot s =>
      exact hwrites.context_of_not_endsView hin fun hends => hother ⟨⟨s, hcontent⟩, hends⟩

/-- A view is left and entered again: its end belongs to the view that the snapshot remembers. -/
theorem written_in_valid_view_again :
    Reaches (start {}) (journey ⟨0, .pointer {}⟩) ∧
      ∃ e ∈ (journey ⟨0, .pointer {}⟩).entries, Farewell e ∧ e.2.resolved.context.Named ∧
        e.2.resolved.context = ⟨"a", "s", "v"⟩ ∧ e.1.item.data.current = ⟨"a", "s", "w"⟩ := by
  have hrun := reaches_journey ⟨0, .pointer {}⟩
  have hin : (journey ⟨0, .pointer {}⟩).entries[1] ∈ (journey ⟨0, .pointer {}⟩).entries :=
    List.getElem_mem (by decide)
  obtain ⟨-, -, hnamed, hfarewell, -⟩ := (written_in_valid_view hrun).2 _ hin
  have hends : Farewell (journey ⟨0, .pointer {}⟩).entries[1] :=
    ⟨⟨_, rfl⟩, _, List.mem_singleton_self _, rfl⟩
  exact ⟨hrun, _, hin, hends, hnamed, (hfarewell hends).1, rfl⟩

/-- A view becomes active after another one, and the host reports the end of a view among the first
touches in it. -/
theorem reaches_reported : ∃ c, Reaches (start {}) c ∧
    c.station.queue.data = [⟨0, {}, ⟨"a", "s", "v"⟩⟩, ⟨0, ⟨"a", "s", "v"⟩, ⟨"a", "s", "w"⟩⟩] ∧
    c.entries.map (fun e => e.2.batch)
      = [⟨⟨"a", "s", "v"⟩, [⟨0, .pointer {}⟩]⟩, ⟨⟨"a", "s", "w"⟩, [⟨0, .viewEnd⟩]⟩] := by
  have hserving : Reaches (start {}) _ :=
    (Relation.ReflTransGen.single (.deed (start {}) .startWorker ⟨nofun, nofun⟩)).tail
      (.move _ none _ (.wake _ rfl))
  have hleft : Reaches (start {}) _ :=
    ((hserving.tail (.deed _ (.activate (some ⟨"a", "s", "v"⟩)) ⟨nofun, nofun⟩)).tail
      (.deed _ (.touch [⟨0, .pointer {}⟩]) ⟨nofun, nofun⟩)).tail
        (.deed _ (.activate (some ⟨"a", "s", "w"⟩)) ⟨nofun, nofun⟩)
  have hreported : Reaches (start {}) _ :=
    (hleft.tail (.deed _ (.touch [⟨0, .viewEnd⟩]) ⟨nofun, nofun⟩)).tail
      (.move _ _ _ (.drain _ [] rfl rfl))
  exact ⟨_, (hreported.tail (.deliver _ 0 0 _ rfl rfl rfl)).tail (.deliver _ 0 1 _ rfl rfl rfl),
    rfl, rfl⟩

/-- **An end that is reported among touches is written in the view of the touches**, and not in the
view that an item remembers. -/
theorem reported_end_in_own_view :
    ¬∀ {settings : Settings} {c : Chronicle}, Reaches (start settings) c →
      ∀ e ∈ c.entries, e.2.batch.EndsView →
        ∃ d ∈ c.station.queue.data, e.2.batch.context = d.previous := by
  intro hclaim
  obtain ⟨c, hrun, hdata, hentries⟩ := reaches_reported
  have hin : (⟨⟨"a", "s", "w"⟩, [⟨0, .viewEnd⟩]⟩ : Batch Slot) ∈ c.entries.map (·.2.batch) := by
    rw [hentries]
    exact List.mem_cons_of_mem _ List.mem_cons_self
  obtain ⟨e, he, hbatch⟩ := List.mem_map.mp hin
  obtain ⟨d, hd, hprevious⟩ := hclaim hrun e he (hbatch ▸ ⟨_, List.mem_singleton_self _, rfl⟩)
  rw [hdata, List.mem_cons, List.mem_singleton] at hd
  rw [hbatch] at hprevious
  rcases hd with rfl | rfl <;> exact absurd hprevious (by decide)

end Chronicle

end SessionReplay
