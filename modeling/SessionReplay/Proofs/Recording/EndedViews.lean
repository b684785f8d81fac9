import Mathlib.Algebra.Ring.Nat
import SessionReplay.Proofs.Recording.Chronicle
import SessionReplay.Proofs.Recording.Views

/-!
# An ended view stays ended

When a snapshot in one view follows an item in another one, the end of the other view is written.
Items are processed in the order in which they were accepted, and each remembers the view of the item
before it. So whatever is written later for the ended view belongs to an item that was accepted later,
and between the two the view was entered again (`ended_view_stays_ended`).

Touches are written as they are. A host that reports the end of a view among its touches ends it
without leaving it, and the next touches are written for the same view
(`reported_end_does_not_stay`).
-/

namespace SessionReplay

/-! ## Ends of views -/

/-- Whether a record ends its view. -/
def Record.endsView {ι : Type} (r : Record ι) : Bool :=
  match r.content with
  | .viewEnd => true
  | _ => false

/-- A batch ends its view. -/
def Batch.EndsView {ι : Type} (b : Batch ι) : Prop := ∃ r ∈ b.records, r.endsView = true

namespace Item

variable {i : Item} {bs : List (Batch Slot)} {b : Batch Slot}

/-- A report ends no view. -/
theorem Reports.not_endsView (h : i.Reports b) : ¬b.EndsView := by
  obtain ⟨-, rs, hrs, hrecords⟩ := h
  rintro ⟨r, hr, hends⟩
  rw [hrecords] at hr
  rcases List.mem_append.mp hr with hr | hr
  · rcases hrs with rfl | ⟨screen, rfl⟩
    · cases hr
    · simp only [ScreenHistory.announcement, List.mem_cons, List.not_mem_nil, or_false] at hr
      rcases hr with rfl | rfl <;> cases hends
  · cases List.mem_singleton.mp hr
    cases hends

/-- Batches written for a snapshot that end a view are the farewell. -/
theorem Writes.eq_farewell (h : i.Writes bs) {s : Snapshot} (hsnapshot : i.content = .snapshot s)
    (hb : b ∈ bs) (hends : b.EndsView) : i.Ends ∧ b = i.farewell i.data.previous := by
  cases h with
  | touch records _ content => cases content.symm.trans hsnapshot
  | snapshot _ farewells reports content ends tells =>
    rcases List.mem_append.mp hb with hb | hb
    · rcases ends with rfl | ⟨hleaves, rfl⟩
      · cases hb
      · exact ⟨hleaves, List.mem_singleton.mp hb⟩
    · rcases tells with rfl | ⟨b', hreports, rfl⟩
      · cases hb
      · rw [List.mem_singleton.mp hb] at hends
        exact absurd hends hreports.not_endsView

/-- A batch written for an item belongs to its view, or to the view that it ends. -/
theorem Writes.context (h : i.Writes bs) (hb : b ∈ bs) :
    b.context = i.data.current ∨ i.Ends ∧ b.context = i.data.previous := by
  cases h with
  | touch records _ content all => exact .inl (congrArg Batch.context (all b hb))
  | snapshot _ farewells reports content ends tells =>
    rcases List.mem_append.mp hb with hb | hb
    · rcases ends with rfl | ⟨hleaves, rfl⟩
      · cases hb
      · exact .inr ⟨hleaves, congrArg Batch.context (List.mem_singleton.mp hb)⟩
    · rcases tells with rfl | ⟨b', hreports, rfl⟩
      · cases hb
      · rw [List.mem_singleton.mp hb]
        exact .inl hreports.1

/-- Behind a farewell only the item's own view is written for it. -/
theorem Writes.pairwise (h : i.Writes bs) {s : Snapshot} (hsnapshot : i.content = .snapshot s) :
    bs.Pairwise fun _ b => b.context = i.data.current := by
  cases h with
  | touch records _ content => cases content.symm.trans hsnapshot
  | snapshot _ farewells reports content ends tells =>
    have hreports : ∀ b ∈ reports, b.context = i.data.current := by
      intro b hb
      rcases tells with rfl | ⟨b', hreports, rfl⟩
      · cases hb
      · rw [List.mem_singleton.mp hb]
        exact hreports.1
    refine List.pairwise_append.mpr ⟨?_, ?_, fun _ _ b hb => hreports b hb⟩
    · rcases ends with rfl | ⟨-, rfl⟩
      · exact .nil
      · exact List.pairwise_singleton _ _
    · rcases tells with rfl | ⟨b', -, rfl⟩
      · exact .nil
      · exact List.pairwise_singleton _ _

end Item

/-- An item leaves a view. -/
def ContextData.Leaves (d : ContextData) (view : ViewContext) : Prop :=
  d.previous = view ∧ d.current ≠ view

/-- An item enters a view. -/
def ContextData.Enters (d : ContextData) (view : ViewContext) : Prop :=
  d.previous ≠ view ∧ d.current = view

instance (d : ContextData) (view : ViewContext) : Decidable (d.Leaves view) :=
  inferInstanceAs (Decidable (_ ∧ _))

/-- How many ends of a view were written for an item because the item leaves it. -/
def Delivery.endings (d : Delivery) (view : ViewContext) : Nat :=
  match d.item.content with
  | .touch _ => 0
  | .snapshot _ =>
    (((d.kept.map Written.batch).filter (·.context = view)).flatMap Batch.records).countP
      Record.endsView

/-- At most one end of a view is written for an item, and only if it leaves the view. -/
theorem Delivery.endings_le {d : Delivery} (h : d.item.Writes (d.kept.map Written.batch))
    (view : ViewContext) : d.endings view ≤ if d.item.data.Leaves view then 1 else 0 := by
  unfold endings
  generalize d.kept.map Written.batch = bs at h ⊢
  cases h with
  | touch records _ content => simp [content]
  | snapshot s farewells reports content ends tells =>
    have hreports : (((reports.filter (·.context = view)).flatMap Batch.records).countP
        Record.endsView) = 0 := by
      rw [List.countP_eq_zero]
      intro r hr hends
      obtain ⟨b, hb, hin⟩ := List.mem_flatMap.mp hr
      rcases tells with rfl | ⟨b', htells, rfl⟩
      · cases (List.mem_filter.mp hb).1
      · rw [List.mem_singleton.mp (List.mem_filter.mp hb).1] at hin
        exact htells.not_endsView ⟨r, hin, hends⟩
    rw [content]
    dsimp only
    rw [List.filter_append, List.flatMap_append, List.countP_append, hreports]
    rcases ends with rfl | ⟨⟨hne, -⟩, rfl⟩
    · exact Nat.zero_le _
    · by_cases hview : d.item.data.previous = view
      · have hleaves : d.item.data.Leaves view :=
          ⟨hview, fun hcurrent => hne (hview.trans hcurrent.symm)⟩
        rw [if_pos hleaves]
        exact Nat.add_le_add_right
          (Nat.le_trans List.countP_le_length (by simp [Item.farewell, hview])) 0
      · simp [Item.farewell, hview]

/-! ## Chains of views -/

section Chains

variable {ds : List ContextData} {view : ViewContext} {d d' : ContextData}

/-- In a chain every item but the first has one before it. -/
theorem exists_before (hlinked : ds.IsChain fun d d' => d'.previous = d.current) {n : Nat}
    (hn : ds[n + 1]? = some d') : ∃ d, ds[n]? = some d ∧ d'.previous = d.current := by
  obtain ⟨hlt, rfl⟩ := List.getElem?_eq_some_iff.mp hn
  exact ⟨ds[n], List.getElem?_eq_getElem (Nat.lt_of_succ_lt hlt),
    List.isChain_iff_getElem.mp hlinked n hlt⟩

/-- Who is in a view after not having been there has entered it. -/
theorem exists_enters (hlinked : ds.IsChain fun d d' => d'.previous = d.current) {i j : Nat}
    (hij : i < j) (hi : ds[i]? = some d) (hj : ds[j]? = some d') (hd : d.current ≠ view)
    (hd' : d'.current = view) :
    ∃ n, i < n ∧ n ≤ j ∧ ∃ e, ds[n]? = some e ∧ e.Enters view := by
  induction j generalizing d' with
  | zero => exact absurd hij (Nat.not_lt_zero i)
  | succ j ih =>
    obtain ⟨e, he, hlink⟩ := exists_before hlinked hj
    by_cases hthere : e.current = view
    · rcases Nat.lt_succ_iff_lt_or_eq.mp hij with hij | rfl
      · obtain ⟨n, hin, hnj, hentered⟩ := ih hij he hthere
        exact ⟨n, hin, Nat.le_succ_of_le hnj, hentered⟩
      · cases hi.symm.trans he
        exact absurd hthere hd
    · exact ⟨j + 1, hij, Nat.le_refl _, d', hj, hlink ▸ hthere, hd'⟩

/-- Who leaves a view after not having been there has entered it before. -/
theorem exists_enters_of_leaves (hlinked : ds.IsChain fun d d' => d'.previous = d.current)
    {i j : Nat} (hij : i < j) (hi : ds[i]? = some d) (hj : ds[j]? = some d') (hd : d.current ≠ view)
    (hd' : d'.previous = view) :
    ∃ n, i < n ∧ n ≤ j ∧ ∃ e, ds[n]? = some e ∧ e.Enters view := by
  cases j with
  | zero => exact absurd hij (Nat.not_lt_zero i)
  | succ j =>
    obtain ⟨e, he, hlink⟩ := exists_before hlinked hj
    have hthere : e.current = view := hlink.symm.trans hd'
    rcases Nat.lt_succ_iff_lt_or_eq.mp hij with hij | rfl
    · obtain ⟨n, hin, hnj, hentered⟩ := exists_enters hlinked hij hi he hd hthere
      exact ⟨n, hin, Nat.le_succ_of_le hnj, hentered⟩
    · cases hi.symm.trans he
      exact absurd hthere hd

end Chains

namespace Chronicle

open Station

variable {c k : Chronicle}

/-- What was written, batch by batch, with the items it was written for. -/
def entries (c : Chronicle) : List (Delivery × Written) :=
  c.deliveries.flatMap fun d => d.kept.map (d, ·)

/-! ## What was written for which item -/

/-- How many items have been taken out of the queue. -/
def taken (c : Chronicle) : Nat := c.station.queue.data.length - c.station.queue.waiting.length

/-- What was not taken out waits. -/
theorem taken_add_waiting {capacity : Nat} (h : c.station.Chained capacity) :
    c.taken + c.station.queue.waiting.length = c.station.queue.data.length := by
  obtain ⟨n, hn, hwaits⟩ := h.waits
  unfold taken
  rw [hwaits, List.length_range']
  omega

/-- The head of the queue is the item after those that were taken out. -/
theorem taken_of_head {capacity : Nat} (h : c.station.Chained capacity) {id : ItemId} {item : Item}
    (head : c.station.queue.head? = some (id, item)) :
    c.taken = id ∧ c.station.queue.data[id]? = some item.data := by
  obtain ⟨hid, hitem⟩ := Queue.head?_eq_some_iff.mp head
  refine ⟨?_, Queue.data_getElem? hitem⟩
  obtain ⟨n, hn, hwaits⟩ := h.waits
  have hwaiting := taken_add_waiting h
  rw [hwaits, List.length_range'] at hwaiting
  rw [hwaits, List.head?_range'] at hid
  split at hid
  · cases hid
  · cases hid
    omega

/-- What was written is accounted for. -/
structure Booked (c : Chronicle) : Prop where
  /-- It was written for items that the worker was handed. -/
  written : c.station.output.storage.written.toList = c.deliveries.flatMap Delivery.kept
  /-- Only what can be written for an item was. -/
  writes : ∀ d ∈ c.deliveries, d.item.Writes (d.kept.map Written.batch)
  /-- The items are accepted ones. -/
  accepted : ∀ d ∈ c.deliveries, c.station.queue.data[d.id]? = some d.item.data
  /-- They were taken out. -/
  out : ∀ d ∈ c.deliveries, d.id < c.taken
  /-- They were handed over in the order in which they were accepted. -/
  ordered : c.deliveries.Pairwise fun d d' => d.id < d'.id
  /-- Each was handed over once. -/
  once : (c.deliveries.map fun d => d.item.data).Sublist (c.station.queue.data.take c.taken)

/-- Nothing was written at the beginning. -/
theorem booked_start (settings : Settings) : (start settings).Booked where
  written := rfl
  writes _ hd := (List.not_mem_nil hd).elim
  accepted _ hd := (List.not_mem_nil hd).elim
  out _ hd := (List.not_mem_nil hd).elim
  ordered := .nil
  once := .refl _

namespace Booked

/-- What happens to the queue is of no matter if items are accepted or dropped at most. -/
theorem congr (h : c.Booked) (hdeliveries : k.deliveries = c.deliveries)
    (hwritten : k.station.output.storage.written = c.station.output.storage.written)
    (hdata : c.station.queue.data <+: k.station.queue.data) (htaken : c.taken ≤ k.taken) :
    k.Booked := by
  obtain ⟨ds, hds⟩ := hdata
  refine ⟨?_, ?_, ?_, ?_, ?_, ?_⟩
  · rw [hwritten, hdeliveries]
    exact h.written
  · rw [hdeliveries]
    exact h.writes
  · rw [hdeliveries, ← hds]
    intro d hd
    have hfound := h.accepted d hd
    rw [List.getElem?_append_left (List.getElem?_eq_some_iff.mp hfound).1]
    exact hfound
  · rw [hdeliveries]
    exact fun d hd => Nat.lt_of_lt_of_le (h.out d hd) htaken
  · rw [hdeliveries]
    exact h.ordered
  · rw [hdeliveries, ← hds]
    refine h.once.trans ((List.take_sublist_take_left htaken).trans ?_)
    rw [List.take_append]
    exact List.sublist_append_left _ _

/-- What is written for the item that is handed over is accounted for. -/
theorem deliver {capacity : Nat} (h : c.Booked) (hchained : c.station.Chained capacity)
    {id : ItemId} {item : Item} (head : c.station.queue.head? = some (id, item)) :
    (c.delivering id item).Booked := by
  obtain ⟨htaken, hfound⟩ := taken_of_head hchained head
  obtain ⟨hlt, -⟩ := List.getElem?_eq_some_iff.mp hfound
  obtain ⟨bs, history, hdeliveries, hadds, hwrites, -, ds, hdata, hmore⟩ :=
    c.delivering_cases id item
  have hdata' : (c.delivering id item).station.queue.data = c.station.queue.data ++ ds := hdata
  have htaken' : (c.delivering id item).taken = id + 1 := by
    have hwaiting := taken_add_waiting hchained
    unfold taken
    rw [hdata', hmore, Queue.waiting_dropHead, List.length_append, List.length_tail]
    omega
  have hkept : ∀ {i : ItemId} {e : ContextData}, c.station.queue.data[i]? = some e →
      (c.delivering id item).station.queue.data[i]? = some e := by
    intro i e he
    rw [hdata', List.getElem?_append_left (List.getElem?_eq_some_iff.mp he).1]
    exact he
  have hbefore : ∀ d ∈ c.deliveries, d.id < id := fun d hd => htaken ▸ h.out d hd
  refine ⟨?written, ?writes, ?accepted, ?out, ?ordered, ?once⟩ <;> rw [hdeliveries]
  case written =>
    rw [hadds.written, h.written, List.flatMap_append, List.flatMap_singleton]
  case writes =>
    intro d hd
    rcases List.mem_append.mp hd with hd | hd
    · exact h.writes d hd
    · rw [List.mem_singleton.mp hd, List.map_map]
      exact (List.map_id bs).symm ▸ hwrites
  case accepted =>
    intro d hd
    rcases List.mem_append.mp hd with hd | hd
    · exact hkept (h.accepted d hd)
    · rw [List.mem_singleton.mp hd]
      exact hkept hfound
  case out =>
    intro d hd
    rw [htaken']
    rcases List.mem_append.mp hd with hd | hd
    · exact Nat.lt_succ_of_lt (hbefore d hd)
    · rw [List.mem_singleton.mp hd]
      exact Nat.lt_succ_self id
  case ordered =>
    refine List.pairwise_append.mpr ⟨h.ordered, List.pairwise_singleton _ _, fun d hd e he => ?_⟩
    rw [List.mem_singleton.mp he]
    exact hbefore d hd
  case once =>
    have hlast : (c.station.queue.data ++ ds).take (id + 1)
        = c.station.queue.data.take id ++ [item.data] := by
      rw [List.take_append_of_le_length hlt, List.take_add_one, hfound]
      rfl
    rw [htaken', hdata', hlast, List.map_append]
    exact (htaken ▸ h.once).append (.refl _)

/-- Every step keeps the accounts. -/
theorem step {capacity : Nat} (h : c.Booked) (hchained : c.station.Chained capacity)
    (hstep : Step c k) : k.Booked := by
  rcases hstep.effect with ⟨hdeliveries, hquiet⟩ | ⟨hdeliveries, hwaiting, hqueue, houtput⟩ |
    ⟨now, id, item, head, -, rfl⟩
  · obtain ⟨ds, hdata, hmore⟩ := hquiet.queue
    refine h.congr hdeliveries hquiet.written ⟨ds, hdata.symm⟩ ?_
    unfold taken
    rw [hdata, hmore, List.length_append]
    omega
  · refine h.congr hdeliveries (by rw [houtput]) (by rw [hqueue]; exact List.prefix_rfl) ?_
    unfold taken
    rw [hqueue, Queue.waiting_dropHead, List.length_tail]
    exact Nat.sub_le_sub_left (Nat.sub_le _ _) _
  · exact h.deliver hchained head

/-- What was written is accounted for after any run. -/
theorem of_reaches {settings : Settings} (hrun : Reaches (start settings) c) : c.Booked := by
  induction hrun with
  | refl => exact booked_start settings
  | tail hbefore hstep ih => exact ih.step (reaches_chained hbefore) hstep

end Booked

/-! ## Ended views -/

/-- The end of a view was written for an item because the item leaves it. -/
def EndsView (e : Delivery × Written) (view : ViewContext) : Prop :=
  (∃ s, e.1.item.content = .snapshot s) ∧ e.2.batch.context = view ∧ e.2.batch.EndsView

/-- Between two items, the later one included, the view was entered. -/
def Entered (c : Chronicle) (view : ViewContext) (i j : ItemId) : Prop :=
  ∃ n, i < n ∧ n ≤ j ∧ ∃ d, c.station.queue.data[n]? = some d ∧ d.Enters view

/-- How many ends of a view were written because items leave it. -/
def endings (c : Chronicle) (view : ViewContext) : Nat :=
  (c.deliveries.map (·.endings view)).sum

/-- No more ends of a view are written for items than there are items among them that leave it. -/
theorem sum_endings_le {ds : List Delivery} (view : ViewContext)
    (h : ∀ d ∈ ds, d.item.Writes (d.kept.map Written.batch)) :
    (ds.map (·.endings view)).sum ≤ (ds.map fun d => d.item.data).countP (·.Leaves view) := by
  induction ds with
  | nil => exact Nat.le_refl 0
  | cons d ds ih =>
    have hfirst := Delivery.endings_le (h d List.mem_cons_self) view
    have hrest := ih fun d' hd' => h d' (List.mem_cons_of_mem d hd')
    simp only [List.map_cons, List.sum_cons, List.countP_cons, decide_eq_true_eq]
    omega

/-- Where the end of a view was written for an item, the item leaves it. -/
theorem Booked.leaves (h : c.Booked) {d : Delivery} (hd : d ∈ c.deliveries) {w : Written}
    (hw : w ∈ d.kept) {view : ViewContext} (hends : EndsView (d, w) view) :
    d.item.data.Leaves view := by
  obtain ⟨⟨s, hsnapshot⟩, hcontext, hending⟩ := hends
  obtain ⟨⟨hne, -⟩, hfarewell⟩ :=
    (h.writes d hd).eq_farewell hsnapshot (List.mem_map_of_mem hw) hending
  have hprevious : d.item.data.previous = view :=
    (congrArg Batch.context hfarewell).symm.trans hcontext
  exact ⟨hprevious, fun hcurrent => hne (hprevious.trans hcurrent.symm)⟩

/-- **An ended view stays ended.** After any run, what was written was written for accepted items. If
the end of a view was written for a snapshot, and something was written for that view later, the later
item was accepted after the snapshot, and between the two the view was entered from another one. And
no more ends of a view were written for snapshots than accepted items have left it. -/
theorem ended_view_stays_ended {settings : Settings} (hrun : Reaches (start settings) c) :
    c.station.output.storage.written.toList = c.entries.map Prod.snd ∧
    (∀ d ∈ c.deliveries, c.station.queue.data[d.id]? = some d.item.data) ∧
    (c.entries.Pairwise fun e e' => ∀ view, EndsView e view → e'.2.batch.context = view →
      e.1.id < e'.1.id ∧ c.Entered view e.1.id e'.1.id) ∧
    ∀ view, c.endings view ≤ c.station.queue.data.countP (·.Leaves view) := by
  have h := Booked.of_reaches hrun
  have hlinked := (reaches_chained hrun).linked
  refine ⟨?written, h.accepted, ?ended, fun view => ?counted⟩
  case written =>
    rw [h.written, entries, List.map_flatMap]
    refine congrArg (c.deliveries.flatMap ·) (funext fun d => ?_)
    rw [List.map_map]
    exact (List.map_id d.kept).symm
  case ended =>
    refine List.pairwise_flatMap.mpr ⟨fun d hd => ?same, ?later⟩
    case same =>
      refine List.pairwise_map.mpr ?_
      cases hcontent : d.item.content with
      | touch records =>
        refine List.pairwise_of_forall fun _ _ view hends _ => ?_
        obtain ⟨⟨s, hsnapshot⟩, -⟩ := hends
        cases hcontent.symm.trans hsnapshot
      | snapshot s =>
        have hpairwise := List.pairwise_map.mp ((h.writes d hd).pairwise hcontent)
        refine hpairwise.imp_of_mem fun {w w'} hw hw' hcurrent view hends hview => ?_
        exact absurd (hcurrent.symm.trans hview) (h.leaves hd hw hends).2
    case later =>
      refine h.ordered.imp_of_mem fun {d d'} hd hd' hlt e he e' he' view hends hview => ?_
      obtain ⟨w, hw, rfl⟩ := List.mem_map.mp he
      obtain ⟨w', hw', rfl⟩ := List.mem_map.mp he'
      have hcurrent : d.item.data.current ≠ view := (h.leaves hd hw hends).2
      refine ⟨hlt, ?_⟩
      rcases (h.writes d' hd').context (List.mem_map_of_mem hw') with hin | ⟨-, hin⟩
      · exact exists_enters hlinked hlt (h.accepted d hd) (h.accepted d' hd') hcurrent
          (hin.symm.trans hview)
      · exact exists_enters_of_leaves hlinked hlt (h.accepted d hd) (h.accepted d' hd') hcurrent
          (hin.symm.trans hview)
  case counted =>
    exact Nat.le_trans (sum_endings_le view h.writes)
      ((h.once.trans (List.take_sublist _ _)).countP_le)

/-! ## One view that is left and entered again, and one that is reported to end -/

/-- What a walk over a view that is painted with nothing gives. -/
def plainSketch : List (Node CopySource) := [⟨[{ id := 0, bounds := {}, content := .shape }], []⟩]

/-- Touches in one view, a snapshot in another one, and touches in the first view again were accepted,
and the worker begins to drain. -/
def returned (record : Record Slot) : Chronicle where
  recording := { Recording.new {} with
    station :=
      { clockReads := 4
        activeView := some ⟨"a", "s", "v"⟩
        tracker := ⟨⟨"a", "s", "v"⟩⟩
        queue :=
          { maxItemDelay := 200
            capacity := 128
            items :=
              #[⟨⟨0, {}, ⟨"a", "s", "v"⟩⟩, .touch [record]⟩,
                Journal.plainSnapshot ⟨"a", "s", "v"⟩ ⟨"a", "s", "w"⟩,
                ⟨⟨0, ⟨"a", "s", "w"⟩, ⟨"a", "s", "v"⟩⟩, .touch [record]⟩]
            waiting := [0, 1, 2] }
        worker := .serving
        output := {}
        log := #[.workerStarted] } }
  draining := some 0

/-- The three items can come about. -/
theorem reaches_returned (record : Record Slot) : Reaches (start {}) (returned record) := by
  have hserving : Reaches (start {}) _ :=
    (Relation.ReflTransGen.single (.deed (start {}) .startWorker ⟨nofun, nofun⟩)).tail
      (.move _ none _ (.wake _ rfl))
  have hleft : Reaches (start {}) _ :=
    ((hserving.tail (.deed _ (.activate (some ⟨"a", "s", "v"⟩)) ⟨nofun, nofun⟩)).tail
      (.deed _ (.touch [record]) ⟨nofun, nofun⟩)).tail
        (.deed _ (.activate (some ⟨"a", "s", "w"⟩)) ⟨nofun, nofun⟩)
  have hshown : Reaches (start {}) _ :=
    (hleft.tail (.accept _ {} plainSketch 1 _ rfl)).tail (.attach _ [] [] _ rfl rfl)
  exact ((hshown.tail (.deed _ (.activate (some ⟨"a", "s", "v"⟩)) ⟨nofun, nofun⟩)).tail
      (.deed _ (.touch [record]) ⟨nofun, nofun⟩)).tail (.move _ _ _ (.drain _ [] rfl rfl))

/-- All three were written. -/
def journey (record : Record Slot) : Chronicle :=
  (((returned record).delivering 0 ⟨⟨0, {}, ⟨"a", "s", "v"⟩⟩, .touch [record]⟩).delivering 1
    (Journal.plainSnapshot ⟨"a", "s", "v"⟩ ⟨"a", "s", "w"⟩)).delivering 2
    ⟨⟨0, ⟨"a", "s", "w"⟩, ⟨"a", "s", "v"⟩⟩, .touch [record]⟩

/-- They can be written. -/
theorem reaches_journey (record : Record Slot) : Reaches (start {}) (journey record) :=
  (((reaches_returned record).tail (.deliver _ 0 0 _ rfl rfl rfl)).tail
    (.deliver _ 0 1 _ rfl rfl rfl)).tail (.deliver _ 0 2 _ rfl rfl rfl)

/-- A view is ended by a snapshot, and entered again. -/
theorem ended_view_stays_ended_again :
    Reaches (start {}) (journey ⟨0, .pointer {}⟩) ∧
      (journey ⟨0, .pointer {}⟩).entries.map (fun e => (e.1.id, e.2.batch.context.view))
        = [(0, "v"), (1, "v"), (1, "w"), (2, "v")] ∧
      (journey ⟨0, .pointer {}⟩).Entered ⟨"a", "s", "v"⟩ 1 2 := by
  have hrun := reaches_journey ⟨0, .pointer {}⟩
  refine ⟨hrun, rfl, ?_⟩
  obtain ⟨-, -, hended, -⟩ := ended_view_stays_ended hrun
  refine (List.pairwise_iff_getElem.mp hended 1 3 (by decide) (by decide) (by decide)
    ⟨"a", "s", "v"⟩ ⟨⟨_, rfl⟩, rfl, _, List.mem_singleton_self _, rfl⟩ rfl).2

/-- **An end that is reported among touches does not stay.** Touches that end a view are written as
they are, and so are the next records of the same view. -/
theorem reported_end_does_not_stay :
    ¬∀ {settings : Settings} {c : Chronicle}, Reaches (start settings) c →
      c.entries.Pairwise fun e e' => ∀ view, e.2.batch.context = view → e.2.batch.EndsView →
        e'.2.batch.context = view → e.1.id < e'.1.id ∧ c.Entered view e.1.id e'.1.id := by
  intro hclaim
  have hended := List.pairwise_iff_getElem.mp (hclaim (reaches_journey ⟨0, .viewEnd⟩)) 0 1
    (by decide) (by decide) (by decide) ⟨"a", "s", "v"⟩ rfl ⟨_, List.mem_singleton_self _, rfl⟩ rfl
  obtain ⟨-, n, hlt, hle, d, hd, hentered, -⟩ := hended
  obtain rfl : n = 1 := Nat.le_antisymm hle hlt
  cases hd
  exact hentered rfl

end Chronicle

end SessionReplay

