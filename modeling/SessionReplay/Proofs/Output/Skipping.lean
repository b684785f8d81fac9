import Mathlib.Logic.Relation
import SessionReplay.Proofs.Output.Decisions
import SessionReplay.Proofs.Output.Likeness

/-!
# Skipped snapshots

A snapshot is compared with the one before it, also if that one was skipped itself, and what a player
shows is the last snapshot that was written. `Faithful` ties the two together over chains of skipped
snapshots: whatever is compared with what is remembered could as well be compared with what was
written last. So a snapshot that is skipped is on the player's screen already
(`skipped_snapshot_is_on_screen`).

Writes are kept here, but a message to a view can fail. If the message about the end of the view
before fails, the snapshot is broken off there: it is neither written nor remembered, and what the
player shows is not like it (`snapshot_lost_with_farewell`).

How long ago something was written is a time of 64 bits (`elapsed`). It is less than the interval also if
it does not fit and is wrapped around: a snapshot can be skipped though all wireframes were written ages
before it.
-/

namespace SessionReplay

/-! ## What a player shows -/

section Player

variable {ι κ : Type}

/-- The last record of some batches that tells something, with what it tells. -/
def lastOf? {α : Type} (tells : Record ι → Option α) (bs : List (Batch ι)) : Option α :=
  ((bs.flatMap Batch.records).filterMap tells).getLast?

/-- What is told last is told by the later batches, or else by the earlier ones. -/
theorem lastOf?_append {α : Type} (tells : Record ι → Option α) (bs cs : List (Batch ι)) :
    lastOf? tells (bs ++ cs) = (lastOf? tells cs).or (lastOf? tells bs) := by
  unfold lastOf?
  rw [List.flatMap_append, List.filterMap_append, List.getLast?_append]

/-- Batches whose records tell nothing change nothing. -/
theorem lastOf?_eq_none {α : Type} {tells : Record ι → Option α} {bs : List (Batch ι)}
    (h : ∀ b ∈ bs, ∀ r ∈ b.records, tells r = none) : lastOf? tells bs = none := by
  unfold lastOf?
  rw [List.getLast?_eq_none_iff, List.filterMap_eq_nil_iff]
  intro r hr
  obtain ⟨b, hb, hr⟩ := List.mem_flatMap.mp hr
  exact h b hb r hr

/-- When and how all wireframes were recorded, if a record does that. -/
def Record.full? (r : Record ι) : Option (Int × List (Wireframe ι)) :=
  match r.content with
  | .fullSnapshot wireframes => some (r.timestamp, wireframes)
  | _ => none

/-- When and how all wireframes were recorded last in some batches. -/
def lastFull? (bs : List (Batch ι)) : Option (Int × List (Wireframe ι)) :=
  ((bs.flatMap Batch.records).filterMap Record.full?).getLast?

/-- The last full snapshot is one of the later batches, or else of the earlier ones. -/
theorem lastFull?_append (bs cs : List (Batch ι)) :
    lastFull? (bs ++ cs) = (lastFull? cs).or (lastFull? bs) :=
  lastOf?_append Record.full? bs cs

/-- Batches without a record of all wireframes leave the player's screen alone. -/
theorem lastFull?_eq_none {bs : List (Batch ι)}
    (h : ∀ b ∈ bs, ∀ r ∈ b.records, r.full? = none) : lastFull? bs = none :=
  lastOf?_eq_none h

/-- Replacing pictures can be done before or after looking for the last record of all wireframes. -/
theorem lastFull?_map (f : ι → κ) (bs : List (Batch ι)) :
    lastFull? (bs.map (·.map f)) = (lastFull? bs).map fun full => (full.1, full.2.map (·.map f)) := by
  have hrecord : ∀ r : Record ι, (r.map f).full?
      = r.full?.map fun full => (full.1, full.2.map (·.map f)) := by
    intro r
    obtain ⟨time, content⟩ := r
    cases content <;> rfl
  have hrecords : (bs.map (·.map f)).flatMap Batch.records
      = (bs.flatMap Batch.records).map (Record.map f) := by
    rw [List.flatMap_map, List.map_flatMap]
    rfl
  unfold lastFull?
  rw [hrecords, List.filterMap_map, ← List.getLast?_map, List.map_filterMap]
  have hall : Record.full? ∘ Record.map f
      = fun r : Record ι => r.full?.map fun full => (full.1, full.2.map (·.map f)) :=
    funext hrecord
  rw [hall]

end Player

/-- A report of an item leaves its wireframes on the player's screen. -/
theorem Item.Reports.lastFull? {item : Item} {b : Batch Slot} (h : item.Reports b) :
    SessionReplay.lastFull? [b] = some (item.data.timestamp, item.wireframes) := by
  obtain ⟨-, rs, -, hrecords⟩ := h
  unfold SessionReplay.lastFull?
  rw [List.flatMap_singleton, hrecords, List.filterMap_append]
  exact List.getLast?_concat

/-! ## Items that are passed over -/

/-- A record tells nothing of the screen: it ends a view, or it is a pointer. -/
def Record.Passing {ι : Type} (r : Record ι) : Prop :=
  r.content = .viewEnd ∨ ∃ event, r.content = .pointer event

/-- A record that passes is no full snapshot. -/
theorem Record.Passing.full? {ι : Type} {r : Record ι} (h : r.Passing) : r.full? = none := by
  unfold Record.full?
  rcases h with hend | ⟨event, hevent⟩
  · rw [hend]
  · rw [hevent]

namespace Item

/-- A snapshot that shows something is broken off: it ends the view of the item before it, and
telling so fails. -/
def BreaksOff (i : Item) (s : Storage) : Prop := i.Shows ∧ i.Ends ∧ s.Falters

instance (i : Item) (s : Storage) : Decidable (i.BreaksOff s) := inferInstanceAs (Decidable (_ ∧ _))

/-- An item that is not shown shows nothing, or it is broken off. -/
theorem passing_of_not_shown {i : Item} {s : Storage} (h : ¬(i.Shows ∧ ¬i.BreaksOff s)) :
    ¬i.Shows ∨ i.BreaksOff s := by
  rcases Decidable.em i.Shows with hshows | hnothing
  · exact .inr (Decidable.of_not_not fun hkept => h ⟨hshows, hkept⟩)
  · exact .inl hnothing

/-- A batch of touches tells of pointers only. -/
def Pointed (i : Item) : Prop :=
  ∀ records, i.content = .touch records → ∀ r ∈ records, ∃ event, r.content = .pointer event

end Item

/-! ## What a processed item leaves behind -/

namespace Station

variable {s : Station Output} {item : Item}

/-- What is processed without being remembered tells nothing of the screen: a snapshot that is broken
off leaves the end of the view before it, one that shows nothing leaves nothing, and a batch of
touches leaves pointers. -/
theorem process_passing (hlasting : s.output.storage.Lasting) (hpointed : item.Pointed)
    (hpassing : ¬item.Shows ∨ item.BreaksOff s.output.storage) :
    ∃ bs, Adds bs s.output.history s.output (process item s).1.output ∧
      (∀ b ∈ bs, ∀ r ∈ b.records, r.Passing) ∧
      (item.Shows → bs = [item.farewell item.data.previous]) := by
  cases hcontent : item.content with
  | touch records =>
    have hnothing : ¬item.Shows := fun hshows => by
      obtain ⟨snapshot, hsnapshot⟩ := Item.snapshot_of_wireframes hshows
      cases hcontent.symm.trans hsnapshot
    have hadds := process_touch_adds s hcontent
    rw [hlasting.keeps] at hadds
    refine ⟨_, hadds, fun b hb r hr => ?_, fun h => absurd h hnothing⟩
    cases List.mem_singleton.mp hb
    exact .inr (hpointed records hcontent r hr)
  | snapshot snapshot =>
    rcases Decidable.em item.Shows with hshows | hnothing
    · obtain ⟨-, hends, hfalters⟩ := hpassing.resolve_left (not_not_intro hshows)
      obtain ⟨plan, hplan, hfarewell, -⟩ :=
        s.output.history.plan?_cases s.output.gallery hcontent hshows
      rw [if_pos hends] at hfarewell
      rcases process_snapshot_adds s hcontent hplan with ⟨b, hb, -, hadds⟩ | ⟨hsure, -⟩
      · rw [hlasting.keeps, ← Option.some.inj (hfarewell.symm.trans hb)] at hadds
        refine ⟨_, hadds, fun b hb r hr => ?_, fun _ => rfl⟩
        cases List.mem_singleton.mp hb
        cases List.mem_singleton.mp hr
        exact .inl rfl
      · rw [hfarewell] at hsure
        exact absurd hfalters (hsure.resolve_left (Option.some_ne_none _))
    · have hsame := process_of_nil (s := s) hcontent (Classical.not_not.mp hnothing)
      rw [hsame]
      exact ⟨[], .refl _, fun b hb => (List.not_mem_nil hb).elim, fun h => absurd h hnothing⟩

/-- A snapshot that shows something and is not broken off is remembered. Either it is no news, and
nothing is written, or the last batch written for it reports it. -/
theorem process_remembered (hlasting : s.output.storage.Lasting) (hshows : item.Shows)
    (hkept : ¬item.BreaksOff s.output.storage) :
    (s.output.history.Knows s.output.gallery item ∧ ∃ history : ScreenHistory,
      history.Remembers item s.output.history.lastFull ∧
        Adds [] history s.output (process item s).1.output) ∨
    (¬s.output.history.Knows s.output.gallery item ∧ ∃ history : ScreenHistory,
      history.Remembers item (some item.data.timestamp) ∧ ∃ bs b, item.Reports b ∧
        Adds (bs ++ [b]) history s.output (process item s).1.output) := by
  obtain ⟨snapshot, hsnapshot⟩ := Item.snapshot_of_wireframes hshows
  obtain ⟨plan, hplan, hfarewell, hreport⟩ :=
    s.output.history.plan?_cases s.output.gallery hsnapshot hshows
  have hsure : plan.farewell = none ∨ ¬s.output.storage.Falters := by
    rcases Decidable.em item.Ends with hends | hstays
    · exact .inr fun hfalters => hkept ⟨hshows, hends, hfalters⟩
    · exact .inl (hfarewell.trans (if_neg hstays))
  rcases process_snapshot_adds s hsnapshot hplan with ⟨b, hb, hfalters, -⟩ | ⟨-, bs, -, hall, hadds⟩
  · rcases hsure with hnone | hsure
    · cases hnone.symm.trans hb
    · exact absurd hfalters hsure
  · rw [hall hlasting] at hadds
    rcases hreport with ⟨hknows, hnone, hremembers⟩ | ⟨hnews, hremembers, b, hb, hreport⟩
    · have hstays : ¬item.Ends := fun hends => hends.1 hknows.1
      rw [hfarewell, hnone, if_neg hstays] at hadds
      exact .inl ⟨hknows, plan.history, hremembers, hadds⟩
    · rw [hreport] at hadds
      exact .inr ⟨hnews, plan.history, hremembers, _, b, hb, hadds⟩

end Station

/-! ## Sequences of items -/

/-- What a processor has been through. -/
structure Exhibition where
  /-- The station at present. -/
  station : Station Output
  /-- The items handed to the processor, in order. -/
  handed : List Item := []
  /-- The snapshots among them that showed something and were not broken off. -/
  shown : List Item := []

namespace Exhibition

/-- The batches written so far, with the slots of their pictures. -/
def batches (x : Exhibition) : List (Batch Slot) :=
  x.station.output.storage.written.toList.map Written.batch

/-- When and how all wireframes were written last, with the slots of their pictures. -/
def full? (x : Exhibition) : Option (Int × List (Wireframe Slot)) := lastFull? x.batches

/-- What a player shows: when and how all wireframes were written last, as they were then. -/
def player? (x : Exhibition) : Option (Int × List (Wireframe Picture)) :=
  lastFull? (x.station.output.storage.written.toList.map Written.resolved)

/-- An item is handed to the processor. -/
def hand (x : Exhibition) (item : Item) : Exhibition where
  station := (Station.process item x.station).1
  handed := x.handed ++ [item]
  shown :=
    if item.Shows ∧ ¬item.BreaksOff x.station.output.storage then x.shown ++ [item] else x.shown

/-- The pictures of the items handed over so far are the same in another gallery. -/
def Settled (x : Exhibition) (gallery : Gallery) : Prop :=
  ∀ item ∈ x.handed, ∀ w ∈ item.wireframes, ∀ slot ∈ w.picture?,
    gallery.picture? slot = x.station.output.gallery.picture? slot

/-- A processor goes on. -/
inductive Step : Exhibition → Exhibition → Prop
  /-- It gets an item. -/
  | hand (x : Exhibition) (item : Item) (pointed : item.Pointed) : Step x (x.hand item)
  /-- Something else happens: whatever it does to the rest, it leaves alone what was written and what
  is remembered, and does not change pictures of items that were handed over. -/
  | meanwhile (x : Exhibition) (s : Station Output)
      (history : s.output.history = x.station.output.history)
      (written : s.output.storage.written = x.station.output.storage.written)
      (lasting : s.output.storage.Lasting) (settled : x.Settled s.output.gallery) :
      Step x { x with station := s }

/-- A processor that has not got any item yet. -/
inductive Starts : Exhibition → Prop
  /-- Nothing is remembered, and nothing was written. -/
  | fresh (s : Station Output) (history : s.output.history = {})
      (written : s.output.storage.written = #[]) (lasting : s.output.storage.Lasting) :
      Starts { station := s }

/-- What can become of a processor that keeps all it writes. -/
def Reachable (x : Exhibition) : Prop := ∃ x₀, Starts x₀ ∧ Relation.ReflTransGen Step x₀ x

/-- **What is remembered stands for what was written.** -/
structure Faithful (x : Exhibition) : Prop where
  /-- Every write is kept. -/
  lasting : x.station.output.storage.Lasting
  /-- The screen of the last snapshot shown is remembered. -/
  screen : x.station.output.history.screen = x.shown.getLast?.bind Item.screen?
  /-- So is when all wireframes were written last. -/
  lastFull : x.station.output.history.lastFull = x.full?.map Prod.fst
  /-- Wireframes that are remembered are those of an item that was handed over. -/
  remembered : ∀ w ∈ x.station.output.history.wireframes, ∃ item ∈ x.handed, w ∈ item.wireframes
  /-- So are the wireframes written last. -/
  recorded : ∀ full ∈ x.full?, ∀ w ∈ full.2, ∃ item ∈ x.handed, w ∈ item.wireframes
  /-- Whatever those that are remembered are like, those written last are like. -/
  like : ∀ full ∈ x.full?, ∀ ws,
    (x.station.output.gallery.painted x.station.output.history.wireframes == ws)
      = (x.station.output.gallery.painted full.2 == ws)
  /-- A player shows them with the pictures that are there now. -/
  player : x.player? = x.full?.map fun full => (full.1, x.station.output.gallery.painted full.2)

namespace Settled

variable {x : Exhibition} {gallery : Gallery} {ws : List (Wireframe Slot)}

/-- Wireframes of items that were handed over look the same in the other gallery. -/
theorem painted (h : x.Settled gallery) (hws : ∀ w ∈ ws, ∃ item ∈ x.handed, w ∈ item.wireframes) :
    gallery.painted ws = x.station.output.gallery.painted ws :=
  List.map_congr_left fun w hw => Wireframe.map_congr fun slot hslot =>
    let ⟨item, hitem, hin⟩ := hws w hw
    h item hitem w hin slot hslot

end Settled

namespace Faithful

variable {x : Exhibition} {item : Item}

/-- Wireframes of items that were handed over are so when one more is. -/
theorem handed_hand (item : Item) {w : Wireframe Slot} (h : ∃ i ∈ x.handed, w ∈ i.wireframes) :
    ∃ i ∈ (x.hand item).handed, w ∈ i.wireframes :=
  let ⟨i, hi, hw⟩ := h
  ⟨i, List.mem_append_left _ hi, hw⟩

/-- Batches that come after those that were written, with their pictures as they are. -/
theorem added (h : x.Faithful) (item : Item) {bs : List (Batch Slot)} {history : ScreenHistory}
    (hadds : Adds bs history x.station.output (x.hand item).station.output) :
    (x.hand item).batches = x.batches ++ bs ∧
      (x.hand item).full? = (lastFull? bs).or x.full? ∧
      (x.hand item).player? = (x.hand item).full?.map fun full =>
        (full.1, (x.hand item).station.output.gallery.painted full.2) := by
  have hbatches : (x.hand item).batches = x.batches ++ bs := by
    unfold batches
    rw [hadds.written, List.map_append, List.map_map]
    congr 1
    exact List.map_id _
  have hfull : (x.hand item).full? = (lastFull? bs).or x.full? := by
    unfold full?
    rw [hbatches, lastFull?_append]
  refine ⟨hbatches, hfull, ?_⟩
  unfold player?
  rw [hadds.written, hadds.gallery, hfull, List.map_append, List.map_map, lastFull?_append]
  change (lastFull? (bs.map (·.map x.station.output.gallery.picture?))).or x.player? = _
  rw [lastFull?_map, h.player]
  cases lastFull? bs <;> rfl

/-- An item that is processed without being remembered changes nothing. -/
theorem hand_passing (h : x.Faithful) (hpointed : item.Pointed)
    (hpassing : ¬item.Shows ∨ item.BreaksOff x.station.output.storage) :
    (x.hand item).Faithful ∧
      (x.hand item).station.output.history = x.station.output.history ∧
      (x.hand item).full? = x.full? ∧ (x.hand item).shown = x.shown ∧
      (item.Shows → (x.hand item).batches = x.batches ++ [item.farewell item.data.previous]) := by
  obtain ⟨bs, hadds, hsilent, hfarewell⟩ := Station.process_passing h.lasting hpointed hpassing
  obtain ⟨hbatches, hfull, hplayer⟩ := h.added item hadds
  rw [lastFull?_eq_none fun b hb r hr => (hsilent b hb r hr).full?, Option.none_or] at hfull
  have hshown : (x.hand item).shown = x.shown :=
    if_neg fun hboth => hboth.2 (hpassing.resolve_left (not_not_intro hboth.1))
  have hhistory : (x.hand item).station.output.history = x.station.output.history :=
    hadds.remembers
  have hgallery : (x.hand item).station.output.gallery = x.station.output.gallery := hadds.gallery
  refine ⟨⟨hadds.lasting h.lasting, ?_, ?_, ?_, ?_, ?_, hplayer⟩, hhistory, hfull, hshown,
    fun hshows => hfarewell hshows ▸ hbatches⟩
  · rw [hhistory, hshown]
    exact h.screen
  · rw [hhistory, hfull]
    exact h.lastFull
  · rw [hhistory]
    exact fun w hw => handed_hand item (h.remembered w hw)
  · rw [hfull]
    exact fun full hin w hw => handed_hand item (h.recorded full hin w hw)
  · rw [hfull, hhistory, hgallery]
    exact h.like

/-- A snapshot that is shown is remembered. If it is no news, nothing is written, and what was written
last is like it; otherwise it is what was written last. -/
theorem hand_shown (h : x.Faithful) (hshows : item.Shows)
    (hkept : ¬item.BreaksOff x.station.output.storage) :
    (x.hand item).Faithful ∧
      (x.hand item).station.output.gallery = x.station.output.gallery ∧
      ((x.station.output.history.Knows x.station.output.gallery item ∧
          (x.hand item).batches = x.batches) ∨
        (¬x.station.output.history.Knows x.station.output.gallery item ∧
          (x.hand item).full? = some (item.data.timestamp, item.wireframes) ∧
          ∃ bs b, item.Reports b ∧ (x.hand item).batches = x.batches ++ (bs ++ [b]))) := by
  have hshown : (x.hand item).shown = x.shown ++ [item] := if_pos ⟨hshows, hkept⟩
  have hscreen : (x.hand item).shown.getLast?.bind Item.screen? = item.screen? := by
    rw [hshown, List.getLast?_concat]
    rfl
  have hself : ∀ w ∈ item.wireframes, ∃ i ∈ (x.hand item).handed, w ∈ i.wireframes :=
    fun w hw => ⟨item, List.mem_append_right _ (List.mem_singleton_self _), hw⟩
  rcases Station.process_remembered h.lasting hshows hkept with
    ⟨hknows, history, hremembers, hadds⟩ | ⟨hnews, history, hremembers, bs, b, hb, hadds⟩
  · obtain ⟨hbatches, hfull, hplayer⟩ := h.added item hadds
    have hhistory : (x.hand item).station.output.history = history := hadds.remembers
    have hgallery : (x.hand item).station.output.gallery = x.station.output.gallery :=
      hadds.gallery
    rw [List.append_nil] at hbatches
    change (x.hand item).full? = x.full? at hfull
    refine ⟨⟨hadds.lasting h.lasting, ?_, ?_, ?_, ?_, ?_, hplayer⟩, hgallery,
      .inl ⟨hknows, hbatches⟩⟩
    · rw [hhistory, hremembers.screen, hscreen]
    · rw [hhistory, hremembers.lastFull, h.lastFull, hfull]
    · rw [hhistory, hremembers.wireframes]
      exact hself
    · rw [hfull]
      exact fun full hin w hw => handed_hand item (h.recorded full hin w hw)
    · -- what is remembered from now on is like what was remembered before
      rw [hfull, hhistory, hgallery, hremembers.wireframes]
      intro full hin ws
      rw [← h.like full hin ws]
      exact (beq_congr_left hknows.2.2.2 ws).symm
  · obtain ⟨hbatches, hfull, hplayer⟩ := h.added item hadds
    have hhistory : (x.hand item).station.output.history = history := hadds.remembers
    have hnow : (x.hand item).full? = some (item.data.timestamp, item.wireframes) := by
      rw [hfull, lastFull?_append, hb.lastFull?]
      rfl
    refine ⟨⟨hadds.lasting h.lasting, ?_, ?_, ?_, ?_, ?_, hplayer⟩, hadds.gallery,
      .inr ⟨hnews, hnow, bs, b, hb, hbatches⟩⟩
    · rw [hhistory, hremembers.screen, hscreen]
    · rw [hhistory, hremembers.lastFull, hnow]
      rfl
    · rw [hhistory, hremembers.wireframes]
      exact hself
    · rw [hnow]
      intro full hin
      cases Option.mem_some.mp hin
      exact hself
    · rw [hnow, hhistory, hremembers.wireframes]
      intro full hin ws
      cases Option.mem_some.mp hin
      rfl

/-- Every step keeps what is remembered faithful. -/
theorem step (h : x.Faithful) {y : Exhibition} (hstep : Step x y) : y.Faithful := by
  cases hstep with
  | hand item pointed =>
    by_cases hshown : item.Shows ∧ ¬item.BreaksOff x.station.output.storage
    · exact (h.hand_shown hshown.1 hshown.2).1
    · exact (h.hand_passing pointed (Item.passing_of_not_shown hshown)).1
  | meanwhile s history written lasting settled =>
    let y : Exhibition := { x with station := s }
    have hfull : y.full? = x.full? := by
      unfold full? batches y
      rw [written]
    have hplayer : y.player? = x.player? := by
      unfold player? y
      rw [written]
    have hpainted : ∀ full ∈ x.full?, s.output.gallery.painted full.2
        = x.station.output.gallery.painted full.2 :=
      fun full hin => settled.painted (h.recorded full hin)
    refine ⟨lasting, ?_, ?_, ?_, ?_, ?_, ?_⟩
    · exact history ▸ h.screen
    · exact history ▸ hfull ▸ h.lastFull
    · exact history ▸ h.remembered
    · exact hfull ▸ h.recorded
    · intro full hin ws
      change (s.output.gallery.painted s.output.history.wireframes == ws)
        = (s.output.gallery.painted full.2 == ws)
      rw [hfull] at hin
      rw [history, settled.painted h.remembered, hpainted full hin]
      exact h.like full hin ws
    · change y.player? = y.full?.map fun full => (full.1, s.output.gallery.painted full.2)
      rw [hplayer, hfull, h.player]
      refine Option.map_congr fun full hin => ?_
      rw [hpainted full hin]

/-- A processor that has not got any item is faithful. -/
theorem of_starts (h : Starts x) : x.Faithful := by
  cases h with
  | fresh s history written lasting =>
    have hnone : ∀ full, full ∉ ({ station := s } : Exhibition).full? := by
      intro full hin
      unfold full? batches at hin
      rw [written] at hin
      cases hin
    have hfull : ({ station := s } : Exhibition).full? = none :=
      Option.eq_none_iff_forall_not_mem.mpr hnone
    refine ⟨lasting, ?_, ?_, ?_, fun full hin => absurd hin (hnone full),
      fun full hin => absurd hin (hnone full), ?_⟩
    · exact congrArg ScreenHistory.screen history
    · rw [hfull]
      exact congrArg ScreenHistory.lastFull history
    · intro w hw
      rw [show ({ station := s } : Exhibition).station.output.history.wireframes = [] from
        congrArg ScreenHistory.wireframes history] at hw
      cases hw
    · rw [hfull]
      unfold player?
      rw [written]
      rfl

/-- What is remembered is faithful throughout. -/
theorem of_reachable (h : x.Reachable) : x.Faithful := by
  obtain ⟨x₀, hstarts, hsteps⟩ := h
  induction hsteps with
  | refl => exact .of_starts hstarts
  | tail _ hstep ih => exact ih.step hstep

/-- A snapshot is no news exactly if it is taken in the view of the item before it and of the screen
shown last, and what was written last is like it and not old. -/
theorem knows_iff (h : x.Faithful) :
    x.station.output.history.Knows x.station.output.gallery item ↔
      item.data.previous = item.data.current ∧
        x.shown.getLast?.bind Item.screen? = item.screen? ∧
        ∃ full ∈ x.full?, elapsed full.1 item.data.timestamp < fullSnapshotInterval ∧
          ScreenHistory.sameWireframes x.station.output.gallery full.2 item.wireframes = true := by
  unfold ScreenHistory.Knows
  rw [h.screen, h.lastFull]
  refine and_congr_right fun _ => and_congr_right fun _ => ⟨?_, ?_⟩
  · rintro ⟨⟨last, hlast, hrecent⟩, hlike⟩
    obtain ⟨full, hin, rfl⟩ := Option.map_eq_some_iff.mp hlast
    exact ⟨full, hin, hrecent, (h.like full hin _).symm.trans hlike⟩
  · rintro ⟨full, hin, hrecent, hlike⟩
    exact ⟨⟨full.1, Option.map_eq_some_iff.mpr ⟨full, hin, rfl⟩, hrecent⟩,
      (h.like full hin _).trans hlike⟩

end Faithful

/-! ## What a player shows after each snapshot -/

/-- All wireframes of an item are among the records that are written when it is handed over, in its
own view. -/
def Writes (x : Exhibition) (item : Item) : Prop :=
  ∃ bs, (x.hand item).batches = x.batches ++ bs ∧
    ∃ b ∈ bs, b.context = item.data.current ∧ item.fullRecord ∈ b.records

/-- All wireframes were written less than the interval before an item, by a time of 64 bits, and they are
like its own. -/
def Recalls (x : Exhibition) (item : Item) : Prop :=
  ∃ full ∈ x.full?, elapsed full.1 item.data.timestamp < fullSnapshotInterval ∧
    ScreenHistory.sameWireframes x.station.output.gallery full.2 item.wireframes = true

/-- **A skipped snapshot is on the player's screen.** After any items, let a snapshot that shows
something be handed over.

* Unless it is broken off, it writes all its wireframes, or those written last are like its own and
  less than the interval older, by a time of 64 bits.
* Nothing is written for it exactly if it belongs to the view of the item before it, is of the screen
  of the snapshot shown before it, and what was written last is like it and not old.
* If it is broken off, the end of the view before it is all that is written.

What shows nothing, what is broken off and touches change nothing of what this is decided by. A
player shows what was written last with the pictures that are there. -/
theorem skipped_snapshot_is_on_screen {x : Exhibition} (h : x.Reachable) {item : Item}
    (hpointed : item.Pointed) :
    (item.Shows → ¬item.BreaksOff x.station.output.storage →
      x.Writes item ∨ (x.hand item).Recalls item) ∧
    (item.Shows → ((x.hand item).batches = x.batches ↔
      item.data.previous = item.data.current ∧
        x.shown.getLast?.bind Item.screen? = item.screen? ∧ x.Recalls item)) ∧
    (item.BreaksOff x.station.output.storage →
      (x.hand item).batches = x.batches ++ [item.farewell item.data.previous]) ∧
    (¬item.Shows ∨ item.BreaksOff x.station.output.storage →
      (x.hand item).station.output.history = x.station.output.history ∧
        (x.hand item).full? = x.full? ∧ (x.hand item).shown = x.shown) ∧
    (x.hand item).player? = (x.hand item).full?.map fun full =>
      (full.1, (x.hand item).station.output.gallery.painted full.2) := by
  have hfaithful := Faithful.of_reachable h
  refine ⟨fun hshows hkept => ?shown, fun hshows => ?skipped, fun hbroken => ?broken,
    fun hpassing => ?passing, (hfaithful.step (.hand x item hpointed)).player⟩
  case shown =>
    obtain ⟨-, hgallery, hcases⟩ := hfaithful.hand_shown hshows hkept
    rcases hcases with ⟨hknows, hbatches⟩ | ⟨-, -, bs, b, ⟨hview, rs, -, hrecords⟩, hbatches⟩
    · refine .inr ?_
      obtain ⟨-, -, full, hin, hrecent, hlike⟩ := hfaithful.knows_iff.mp hknows
      have hsame : (x.hand item).full? = x.full? := congrArg lastFull? hbatches
      exact ⟨full, hsame ▸ hin, hrecent, hgallery ▸ hlike⟩
    · refine .inl ⟨_, hbatches, b, List.mem_append_right _ (List.mem_singleton_self _), hview, ?_⟩
      rw [hrecords]
      exact List.mem_append_right _ (List.mem_singleton_self _)
  case skipped =>
    by_cases hbroken : item.BreaksOff x.station.output.storage
    · have hbatches := (hfaithful.hand_passing hpointed (.inr hbroken)).2.2.2.2 hshows
      refine ⟨fun hsame => ?_, fun hskipped => absurd hskipped.1 hbroken.2.1.1⟩
      rw [hbatches, List.append_right_eq_self] at hsame
      cases hsame
    · refine Iff.trans ?_ hfaithful.knows_iff
      rcases (hfaithful.hand_shown hshows hbroken).2.2 with ⟨hknows, hbatches⟩ |
        ⟨hnews, -, bs, b, -, hbatches⟩
      · exact ⟨fun _ => hknows, fun _ => hbatches⟩
      · refine ⟨fun hsame => ?_, fun hknows => absurd hknows hnews⟩
        rw [hbatches, List.append_right_eq_self] at hsame
        cases List.append_ne_nil_of_right_ne_nil _ (List.cons_ne_nil _ _) hsame
  case broken => exact (hfaithful.hand_passing hpointed (.inr hbroken)).2.2.2.2 hbroken.1
  case passing =>
    obtain ⟨-, hhistory, hfull, hshown, -⟩ := hfaithful.hand_passing hpointed hpassing
    exact ⟨hhistory, hfull, hshown⟩

/-- A processor of a station where nothing has happened. -/
def blank : Exhibition where
  station := { queue := { maxItemDelay := 200, capacity := 128 }, output := {} }

/-- A snapshot of one view that is painted with nothing. -/
def oneShape (time : Int) (previous current : ViewContext) (id : Int) : Item where
  data := ⟨time, previous, current⟩
  content := .snapshot
    { screen := {}, nodes := some [⟨[{ id := id, bounds := {}, content := .shape }], []⟩] }

/-- Nothing has happened to it. -/
theorem reachable_blank : blank.Reachable :=
  ⟨blank, .fresh _ rfl rfl (fun _ h => nomatch h), .refl⟩

/-- It may be handed one more item. -/
theorem Reachable.hand {x : Exhibition} (h : x.Reachable) {item : Item} (hpointed : item.Pointed) :
    (x.hand item).Reachable :=
  let ⟨x₀, hstarts, hsteps⟩ := h
  ⟨x₀, hstarts, hsteps.tail (.hand x item hpointed)⟩

/-- A processor that was handed a snapshot of one view. -/
def opened : Exhibition := blank.hand (oneShape 0 {} ⟨"a", "s", "v"⟩ 1)

/-- This can come about. -/
theorem reachable_opened : opened.Reachable := reachable_blank.hand nofun

/-- The same screen a little later is skipped. -/
theorem skipped_snapshot_is_on_screen_still :
    opened.Reachable ∧ (oneShape 100 ⟨"a", "s", "v"⟩ ⟨"a", "s", "v"⟩ 1).Pointed ∧
      (opened.hand (oneShape 100 ⟨"a", "s", "v"⟩ ⟨"a", "s", "v"⟩ 1)).batches = opened.batches ∧
      (opened.hand (oneShape 100 ⟨"a", "s", "v"⟩ ⟨"a", "s", "v"⟩ 1)).Recalls
        (oneShape 100 ⟨"a", "s", "v"⟩ ⟨"a", "s", "v"⟩ 1) := by
  have hpointed : (oneShape 100 ⟨"a", "s", "v"⟩ ⟨"a", "s", "v"⟩ 1).Pointed := nofun
  obtain ⟨hshown, hskipped, -⟩ := skipped_snapshot_is_on_screen reachable_opened hpointed
  have hrecalls : opened.Recalls (oneShape 100 ⟨"a", "s", "v"⟩ ⟨"a", "s", "v"⟩ 1) :=
    ⟨_, rfl, by decide, by decide⟩
  have hbatches := (hskipped (by decide)).mpr ⟨rfl, rfl, hrecalls⟩
  refine ⟨reachable_opened, hpointed, hbatches, (hshown (by decide) (by decide)).resolve_left ?_⟩
  rintro ⟨bs, hwritten, b, hb, -⟩
  rw [hbatches, List.self_eq_append_right] at hwritten
  rw [hwritten] at hb
  cases hb

/-- The first snapshot was written at the time -1. -/
def openedEarly : Exhibition := blank.hand (oneShape (-1) {} ⟨"a", "s", "v"⟩ 1)

/-- The same screen at the last of all times. -/
def lateShape : Item := oneShape Int64.maxValue.toInt ⟨"a", "s", "v"⟩ ⟨"a", "s", "v"⟩ 1

/-- **A snapshot can be lost with a farewell, and one can be skipped ages later.** If the message about
the end of the view before fails, the snapshot is not written, and what was written last is not like it.
And where the time since all wireframes were written does not fit, nothing is written for a snapshot
though it is the interval later and more. -/
theorem snapshot_lost_with_farewell :
    (¬∀ (x : Exhibition) (item : Item), x.Reachable → item.Pointed → item.Shows →
      x.Writes item ∨ (x.hand item).Recalls item) ∧
    ¬∀ (x : Exhibition) (item : Item), x.Reachable → item.Pointed → item.Shows →
      (x.hand item).batches = x.batches →
        ∃ full ∈ x.full?, item.data.timestamp - full.1 < fullSnapshotInterval := by
  refine ⟨fun hclaim => ?lost, fun hclaim => ?late⟩
  case lost =>
    let failing : Station Output :=
      { opened.station with
        output := { opened.station.output with
          storage := { opened.station.output.storage with script := [{ fault := .notify }] } } }
    let x : Exhibition := { opened with station := failing }
    let item : Item := oneShape 100 ⟨"a", "s", "v"⟩ ⟨"a", "s", "w"⟩ 2
    have hreachable : x.Reachable := by
      obtain ⟨x₀, hstarts, hsteps⟩ := reachable_opened
      refine ⟨x₀, hstarts, hsteps.tail (.meanwhile opened failing rfl rfl ?_ fun _ _ _ _ _ _ => rfl)⟩
      intro turn hturn
      cases List.mem_singleton.mp hturn
      decide
    have hpointed : item.Pointed := nofun
    obtain ⟨hfaithful, -, hfull, -, hbatches⟩ :=
      (Faithful.of_reachable hreachable).hand_passing hpointed (.inr (by decide))
    rcases hclaim x item hreachable hpointed (by decide) with ⟨bs, hwritten, b, hb, -, hrecord⟩ |
      ⟨full, hin, -, hlike⟩
    · rw [hbatches (by decide), List.append_cancel_left_eq] at hwritten
      rw [← hwritten] at hb
      cases List.mem_singleton.mp hb
      cases List.mem_singleton.mp hrecord
    · rw [hfull] at hin
      cases Option.mem_some.mp hin
      exact absurd hlike (by decide)
  case late =>
    have hpointed : lateShape.Pointed := nofun
    have hreachable : openedEarly.Reachable := reachable_blank.hand nofun
    have hfaithful := Faithful.of_reachable hreachable
    have hrecalls : openedEarly.Recalls lateShape := ⟨_, rfl, by decide, by decide⟩
    have hshows : lateShape.Shows := by decide
    have hkept : ¬lateShape.BreaksOff openedEarly.station.output.storage := by decide
    have hbatches : (openedEarly.hand lateShape).batches = openedEarly.batches := by
      rcases (hfaithful.hand_shown hshows hkept).2.2 with ⟨-, hsame⟩ | ⟨hnews, -⟩
      · exact hsame
      · exact absurd (hfaithful.knows_iff.mpr ⟨rfl, rfl, hrecalls⟩) hnews
    obtain ⟨full, hin, hrecent⟩ :=
      hclaim openedEarly lateShape hreachable hpointed hshows hbatches
    cases Option.mem_some.mp hin
    exact absurd hrecent (by decide)

end Exhibition

end SessionReplay
