import Mathlib.Data.List.Nodup
import SessionReplay.Proofs.Recording.Releases
import SessionReplay.Proofs.Station.Silence

/-!
# Pictures that end in another order

Copies end, pixels are encoded, and items get to know of it in any order. What each of these does to the
station commutes with what the others do (`effect_effect`): pictures go to slots of their own, counters
only go down, and of several requests for a drain the first one leaves the command, whichever that is. So
a course in which such events change places leads to the same station but for its log
(`endings_in_any_order`), and what was written is the same.
-/

namespace SessionReplay

/-! ## What commutes -/

/-- Changes at different places can be exchanged. -/
theorem modify_modify {α : Type} (xs : Array α) {i j : Nat} (h : i ≠ j) (f g : α → α) :
    (xs.modify i f).modify j g = (xs.modify j g).modify i f := by
  apply Array.ext_getElem?
  intro n
  simp only [Array.getElem?_modify]
  by_cases hi : i = n <;> by_cases hj : j = n <;> simp [hi, hj]
  omega

namespace Gallery

/-- A slot that is filled keeps the picture that it has. -/
theorem fill_eq (g : Gallery) (slot : Slot) (p : EncodedPicture) :
    (g.fill slot p).1 = { g with
      picture? := fun t => if t = slot then some ((g.picture? slot).getD p) else g.picture? t } := by
  obtain ⟨next, picture?⟩ := g
  unfold fill
  dsimp only
  split
  next old hold =>
    have hsame : (fun t => if t = slot then some ((picture? slot).getD p) else picture? t) = picture? := by
      funext t
      split
      next ht => rw [ht, hold, Option.getD_some]
      next => rfl
    rw [hsame]
  next hnone => rw [hnone, Option.getD_none]

/-- Pictures for different slots do not get in each other's way. -/
theorem fill_fill (g : Gallery) {slot other : Slot} (h : slot ≠ other) (p q : EncodedPicture) :
    ((g.fill slot p).1.fill other q).1 = ((g.fill other q).1.fill slot p).1 := by
  have hslot : ∀ g : Gallery, (g.fill other q).1.picture? slot = g.picture? slot :=
    fun _ => picture?_fill h.symm q
  have hother : ∀ g : Gallery, (g.fill slot p).1.picture? other = g.picture? other :=
    fun _ => picture?_fill h p
  rw [fill_eq (g.fill slot p).1, fill_eq (g.fill other q).1, hslot, hother, fill_eq, fill_eq]
  congr 1
  funext t
  dsimp only
  by_cases ht : t = slot
  · subst ht
    rw [if_neg h, if_pos rfl, if_pos rfl]
  · rw [if_neg ht, if_neg ht]

end Gallery

namespace Station

/-- A picture is put into its slot, if there is one. -/
def hang (s : Station Output) (slot : Slot) (p : EncodedPicture) : Station Output :=
  s.mapGallery fun g => (g.fill slot p).1

/-- Pictures for different slots do not get in each other's way. -/
theorem hang_hang (s : Station Output) {slot other : Slot} (h : slot ≠ other)
    (p q : EncodedPicture) : (s.hang slot p).hang other q = (s.hang other q).hang slot p := by
  unfold hang mapGallery
  simp only [Gallery.fill_fill _ h]

/-- What encoding pixels for a slot does to the station, apart from the log. -/
def hangResult (s : Station Output) (slot : Slot) : Encoding → Station Output
  | .encoded picture => s.hang slot picture
  | .refused _ => s
  | .broken => s

/-- Neither do the results of encodings for different slots. -/
theorem hangResult_hangResult (s : Station Output) {slot other : Slot} (h : slot ≠ other)
    (r r' : Encoding) :
    (s.hangResult slot r).hangResult other r' = (s.hangResult other r').hangResult slot r := by
  cases r <;> cases r' <;> first | rfl | exact s.hang_hang h _ _

section Jobs

variable {σ : Type} (s : Station σ)

/-- Requests a drain if there is a reason. -/
def requestIf (reason : Bool) (s : Station σ) : Station σ := if reason then s.requestDrain else s

/-- A request for a drain can be made before or after an item is changed. -/
theorem requestDrain_modifyItem (id : ItemId) (f : Item → Item) :
    (s.modifyItem id f).requestDrain = s.requestDrain.modifyItem id f := by
  have hempty : (s.modifyItem id f).queue.isEmpty = s.queue.isEmpty := rfl
  have hrequested : (s.modifyItem id f).drainRequested = s.drainRequested := rfl
  unfold requestDrain send
  rw [hempty, hrequested]
  cases s.queue.isEmpty <;> cases s.drainRequested <;> simp only [Bool.or_false, Bool.or_true,
    if_true, Bool.false_eq_true, if_false]
  cases htakes : s.worker.takesCommands <;> simp [modifyItem, note, htakes]

/-- So can one that is made for a reason only. -/
theorem requestIf_modifyItem (reason : Bool) (id : ItemId) (f : Item → Item) :
    requestIf reason (s.modifyItem id f) = (requestIf reason s).modifyItem id f := by
  cases reason with
  | false => rfl
  | true => exact s.requestDrain_modifyItem id f

/-- A request leaves the queue alone. -/
@[simp] theorem queue_requestIf (reason : Bool) : (requestIf reason s).queue = s.queue := by
  cases reason with
  | false => rfl
  | true => exact s.queue_requestDrain

/-- Of two requests the first one counts, and they are as good as each other. -/
theorem silent_requestIf_requestIf (reason other : Bool) :
    (requestIf other (requestIf reason s)).silent = (requestIf reason (requestIf other s)).silent := by
  cases reason <;> cases other <;> rfl

/-- Whether the last picture of an item is done that is still being made. -/
def lastJob (id : ItemId) : Bool := (s.modifyItem id Item.finishJob).pendingJobs id = 0

/-- A picture that is done is a request, if it was the last one, and a change of the item. -/
theorem finishJob_eq (id : ItemId) :
    s.finishJob id = (requestIf (s.lastJob id) s).modifyItem id Item.finishJob := by
  rw [← requestIf_modifyItem]
  unfold finishJob lastJob requestIf
  simp only [decide_eq_true_eq]

/-- Whether it is the last picture depends on the items only. -/
theorem lastJob_eq {t : Station σ} {id : ItemId} (h : t.queue.item? id = s.queue.item? id) :
    t.lastJob id = s.lastJob id := by
  have hitem : ∀ u : Station σ, (u.modifyItem id Item.finishJob).pendingJobs id
      = ((u.queue.item? id).map fun item => item.finishJob.pendingJobs).getD 0 := by
    intro u
    unfold pendingJobs
    change (((u.queue.modify id Item.finishJob).item? id).map Item.pendingJobs).getD 0 = _
    rw [Queue.item?_modify_self, Option.map_map]
    rfl
  unfold lastJob
  rw [hitem, hitem, h]

/-- **It does not matter which of two pictures is done first.** -/
theorem silent_finishJob_finishJob (id other : ItemId) :
    ((s.finishJob id).finishJob other).silent = ((s.finishJob other).finishJob id).silent := by
  by_cases h : id = other
  · rw [h]
  have hother : (s.finishJob id).lastJob other = s.lastJob other := by
    apply lastJob_eq
    rw [finishJob_eq]
    change ((requestIf (s.lastJob id) s).queue.modify id Item.finishJob).item? other = _
    rw [queue_requestIf, Queue.item?_modify_of_ne _ h]
  have hid : (s.finishJob other).lastJob id = s.lastJob id := by
    apply lastJob_eq
    rw [finishJob_eq]
    change ((requestIf (s.lastJob other) s).queue.modify other Item.finishJob).item? id = _
    rw [queue_requestIf, Queue.item?_modify_of_ne _ (Ne.symm h)]
  have hmodify : ∀ t : Station σ, (t.modifyItem id Item.finishJob).modifyItem other Item.finishJob
      = (t.modifyItem other Item.finishJob).modifyItem id Item.finishJob := by
    intro t
    unfold modifyItem Queue.modify
    simp only [modify_modify _ h]
  rw [(s.finishJob id).finishJob_eq, (s.finishJob other).finishJob_eq, hother, hid, s.finishJob_eq,
    s.finishJob_eq, requestIf_modifyItem, requestIf_modifyItem, hmodify]
  exact ((deaf_modifyItem id _).comp (deaf_modifyItem other _)).eq
    (s.silent_requestIf_requestIf _ _)

end Jobs

/-- Neither does it matter whether pixels are encoded before. -/
theorem finishJob_hangResult (s : Station Output) (slot : Slot) (r : Encoding) (id : ItemId) :
    (s.hangResult slot r).finishJob id = (s.finishJob id).hangResult slot r := by
  cases r with
  | encoded picture => exact s.finishJob_mapGallery _ id
  | _ => rfl

/-- The log and the answers play no part in what encoding does. -/
theorem silent_hangResult (s : Station Output) (slot : Slot) (r : Encoding) :
    (s.hangResult slot r).silent = s.silent.hangResult slot r := by
  cases r <;> rfl

/-- What the worker does on its own does not depend on the log and the answers. -/
theorem silent_moved? {busy b b' : Option Int} {s t s' t' : Station Output} (h : t.silent = s.silent)
    (hs : s.moved? busy = some (b, s')) (ht : t.moved? busy = some (b', t')) :
    b' = b ∧ t'.silent = s'.silent := by
  have hall : ∀ u : Station Output, (u.moved? busy).map (Prod.map id silent)
      = (u.silent.moved? busy).map (Prod.map id silent) := by
    intro u
    have hworker : u.silent.worker = u.worker := rfl
    have hmail : u.silent.mailbox = u.mailbox := rfl
    have hqueue : u.silent.queue = u.queue := rfl
    unfold moved?
    cases busy with
    | none =>
      dsimp only
      rw [hworker, hmail]
      split <;> simp only [Option.map_some, Option.map_none, Prod.map, silent_note,
        silent_dropReplies] <;> rfl
    | some now =>
      dsimp only
      rw [hqueue]
      split
      · rfl
      · split <;> rfl
  have hsame : (t.moved? busy).map (Prod.map id silent) = (s.moved? busy).map (Prod.map id silent) := by
    rw [hall t, h, ← hall s]
  rw [hs, ht] at hsame
  simpa using hsame

end Station

/-! ## Endings -/

/-- The recording without its station and without the copies that are underway. -/
def Recording.bare (r : Recording) : Recording :=
  { r with
    station := { queue := { maxItemDelay := 0, capacity := 0 }, output := {} }
    held := []
    encoding := [] }

namespace Chronicle

open Station

namespace Event

/-- A copy ends, pixels are encoded, or an item gets to know of a copy that is done. -/
def Ending : Event → Prop
  | .answer _ _ => True
  | .encode _ _ => True
  | .release _ => True
  | _ => False

/-- The copy that ends. -/
@[simp] def answered? : Event → Option Copy
  | .answer copy _ => some copy
  | _ => none

/-- The copy that ends with pixels. -/
@[simp] def copied? : Event → Option (Copy × Bitmap)
  | .answer copy (.copied bitmap) => some (copy, bitmap)
  | _ => none

/-- The copy whose pixels are encoded. -/
@[simp] def encoded? : Event → Option (Copy × Bitmap)
  | .encode copy bitmap => some (copy, bitmap)
  | _ => none

/-- The copy that is done. -/
@[simp] def done? : Event → Option Copy
  | .answer copy (.failed _) => some copy
  | .encode copy bitmap => if bitmap.Overlong then none else some copy
  | _ => none

/-- What an ending does to the station, apart from the log. -/
def effect (limit : Nat) (s : Station Output) : Event → Station Output
  | .encode copy bitmap => s.hangResult copy.slot (bitmap.encode limit)
  | .release copy => (s.finishJob copy.item).silent
  | _ => s

/-- **Endings commute.** Only pictures for one slot would not, and there are no two such. -/
theorem effect_effect {limit : Nat} {e d : Event}
    (hslots : ∀ x ∈ e.encoded?, ∀ y ∈ d.encoded?, x.1.slot = y.1.slot → x = y) (s : Station Output) :
    effect limit (effect limit s e) d = effect limit (effect limit s d) e := by
  have hmixed : ∀ (copy : Copy) (bitmap : Bitmap) (other : Copy),
      effect limit (effect limit s (.encode copy bitmap)) (.release other)
        = effect limit (effect limit s (.release other)) (.encode copy bitmap) := by
    intro copy bitmap other
    change ((s.hangResult copy.slot _).finishJob other.item).silent
      = (s.finishJob other.item).silent.hangResult copy.slot _
    rw [finishJob_hangResult, silent_hangResult]
  cases e with
  | encode copy bitmap =>
    cases d with
    | encode other bitmap' =>
      by_cases hslot : copy.slot = other.slot
      · obtain ⟨rfl, rfl⟩ := Prod.mk.inj (hslots _ rfl _ rfl hslot)
        rfl
      · exact s.hangResult_hangResult hslot _ _
    | release other => exact hmixed copy bitmap other
    | _ => rfl
  | release copy =>
    cases d with
    | encode other bitmap => exact (hmixed other bitmap copy).symm
    | release other =>
      change ((s.finishJob copy.item).silent.finishJob other.item).silent
        = ((s.finishJob other.item).silent.finishJob copy.item).silent
      rw [← deaf_finishJob other.item, ← deaf_finishJob copy.item]
      exact s.silent_finishJob_finishJob copy.item other.item
    | _ => rfl
  | _ => rfl

end Event

/-- What several endings do: copies are answered that had not ended, pixels are encoded that were copied
before or meanwhile, and items get to know of copies that were done before or meanwhile. -/
structure Ends (limit : Nat) (es : List Event) (c k : Chronicle) : Prop where
  /-- What they do to the station. -/
  station : k.station.silent = es.foldl (Event.effect limit) c.station.silent
  /-- The surroundings stay. -/
  bare : k.recording.bare = c.recording.bare
  /-- So do the snapshots that are being made. -/
  walks : k.walks = c.walks
  /-- So does the drain that is going on. -/
  draining : k.draining = c.draining
  /-- The copies that have not ended. -/
  held : (es.filterMap Event.answered? ++ k.recording.held).Perm c.recording.held
  /-- The pixels that have not been encoded. -/
  encoding : (es.filterMap Event.encoded? ++ k.recording.encoding).Perm
    (c.recording.encoding ++ es.filterMap Event.copied?)
  /-- The copies that items do not know of. -/
  releasing : (es.filterMap Event.released? ++ k.releasing).Perm
    (c.releasing ++ es.filterMap Event.done?)

/-- What is taken and what is put, one after the other. -/
theorem perm_exchange {α : Type} {taken taken' put put' before between after : List α}
    (h : (taken ++ between).Perm (before ++ put)) (h' : (taken' ++ after).Perm (between ++ put')) :
    (taken ++ taken' ++ after).Perm (before ++ (put ++ put')) := by
  have hmiddle : (taken ++ taken' ++ after).Perm (taken ++ between ++ put') := by
    simpa using h'.append_left taken
  simpa using hmiddle.trans (h.append_right put')

namespace Ends

variable {limit : Nat} {es fs : List Event} {e : Event} {c k l : Chronicle}

/-- Without endings nothing ends. -/
theorem refl (limit : Nat) (c : Chronicle) : Ends limit [] c c :=
  ⟨rfl, rfl, rfl, rfl, by simp, by simp, by simp⟩

/-- Endings come one after the other. -/
theorem trans (h : Ends limit es c k) (h' : Ends limit fs k l) : Ends limit (es ++ fs) c l where
  station := by rw [h'.station, h.station, List.foldl_append]
  bare := h'.bare.trans h.bare
  walks := h'.walks.trans h.walks
  draining := h'.draining.trans h.draining
  held := by
    have hheld : (es.filterMap Event.answered? ++ fs.filterMap Event.answered?
        ++ l.recording.held).Perm (c.recording.held ++ ([] ++ [])) :=
      perm_exchange (by simpa using h.held) (by simpa using h'.held)
    simpa using hheld
  encoding := by
    rw [List.filterMap_append, List.filterMap_append]
    exact perm_exchange h.encoding h'.encoding
  releasing := by
    rw [List.filterMap_append, List.filterMap_append]
    exact perm_exchange h.releasing h'.releasing

/-- Each ending does so. -/
theorem of_happens (ending : e.Ending) (he : Happens e c k) :
    Ends c.recording.settings.imageByteLimit [e] c k := by
  have hsame : ∀ {α : Type} (as : List α), as.Perm (as ++ []) := by simp
  cases e with
  | answer copy result =>
    obtain ⟨index, hheld, rfl⟩ := he
    have hperm : (copy :: c.recording.held.eraseIdx index).Perm c.recording.held :=
      perm_cons_eraseIdx hheld
    cases result with
    | failed code => exact ⟨rfl, rfl, rfl, rfl, hperm, hsame _, .refl _⟩
    | copied bitmap => exact ⟨rfl, rfl, rfl, rfl, hperm, .refl _, hsame _⟩
  | encode copy bitmap =>
    obtain ⟨index, hcopied, rfl⟩ := he
    have hperm : ((copy, bitmap) :: c.recording.encoding.eraseIdx index).Perm
        (c.recording.encoding ++ []) := (perm_cons_eraseIdx hcopied).trans (hsame _)
    have hstation : [Event.encode copy bitmap].foldl
        (Event.effect c.recording.settings.imageByteLimit) c.station.silent
        = (c.station.hangResult copy.slot
          (bitmap.encode c.recording.settings.imageByteLimit)).silent :=
      (c.station.silent_hangResult _ _).symm
    have hdone : [Event.encode copy bitmap].filterMap Event.done?
        = if bitmap.Overlong then [] else [copy] := by
      by_cases hlong : bitmap.Overlong <;> simp [hlong]
    have hlong : bitmap.encode c.recording.settings.imageByteLimit = .broken ↔ bitmap.Overlong :=
      Bitmap.encode_eq_broken_iff
    unfold Chronicle.encoding
    dsimp only
    cases hencode : bitmap.encode c.recording.settings.imageByteLimit with
    | broken =>
      rw [if_pos (hlong.mp hencode)] at hdone
      exact ⟨by rw [hstation, hencode]; rfl, rfl, rfl, rfl, .refl _, hperm, by rw [hdone]; exact hsame _⟩
    | _ =>
      rw [if_neg fun h => nomatch hencode.symm.trans (hlong.mpr h)] at hdone
      exact ⟨by rw [hstation, hencode]; rfl, rfl, rfl, rfl, .refl _, hperm, by rw [hdone]; exact .refl _⟩
  | release copy =>
    obtain ⟨before, after, hreleasing, rfl⟩ := he
    have hperm : (copy :: (before ++ after)).Perm (c.releasing ++ []) := by
      rw [hreleasing, List.append_nil]
      exact List.perm_middle.symm
    exact ⟨deaf_finishJob copy.item c.station, rfl, rfl, rfl, .refl _, hsame _, hperm⟩
  | _ => exact ending.elim

/-- Several endings do so one after the other. -/
theorem of_course (ending : ∀ e ∈ es, e.Ending) (hcourse : Course c es k) :
    Ends c.recording.settings.imageByteLimit es c k := by
  induction es generalizing c with
  | nil =>
    obtain rfl : k = c := hcourse
    exact .refl _ _
  | cons e es ih =>
    obtain ⟨next, hnext, hrest⟩ := hcourse
    have hfirst := of_happens (ending e List.mem_cons_self) hnext
    have hlimit : next.recording.bare.settings = c.recording.bare.settings :=
      congrArg Recording.settings hfirst.bare
    change next.recording.settings = c.recording.settings at hlimit
    have hlater := ih (fun e he => ending e (List.mem_cons_of_mem _ he)) hrest
    rw [hlimit] at hlater
    exact hfirst.trans hlater

/-- Copies with pixels are among those that end. -/
theorem copied_sublist (es : List Event) :
    ((es.filterMap Event.copied?).map Prod.fst).Sublist (es.filterMap Event.answered?) := by
  induction es with
  | nil => exact .slnil
  | cons e es ih =>
    cases e with
    | answer copy result =>
      cases result with
      | failed code => exact ih.cons copy
      | copied bitmap => exact ih.cons_cons copy
    | _ => exact ih

/-- The pixels that are encoded belong to slots of their own. -/
theorem nodup_encoded (h : Ends limit es c k) (hsound : c.Sound) (hdistinct : c.Distinct) :
    ((es.filterMap Event.encoded?).map fun x => x.1.slot).Nodup := by
  let answered := es.filterMap Event.answered?
  let copied := es.filterMap Event.copied?
  let slots (copies : List Copy) := copies.map Copy.slot
  have hrequested : (slots c.requested).Nodup := by
    have hnodup := hdistinct.nodup
    rw [planned, List.map_append] at hnodup
    exact (List.nodup_append.mp hnodup).1
  have hunfinished : (slots c.unfinished).Nodup := by
    have hnodup := (hsound.balanced.map Copy.slot).nodup_iff.mp hrequested
    rw [List.map_append] at hnodup
    exact (List.nodup_append.mp hnodup).1
  have hunderway : (slots (c.recording.encoding.map Prod.fst ++ answered)).Nodup := by
    have hsub : (c.recording.held ++ c.recording.encoding.map Prod.fst).Sublist c.unfinished := by
      unfold unfinished
      rw [List.append_assoc _ c.releasing]
      exact List.sublist_append_left _ _
    have hperm : (answered ++ k.recording.held ++ c.recording.encoding.map Prod.fst).Perm
        (c.recording.encoding.map Prod.fst ++ answered ++ k.recording.held) := by
      rw [List.append_assoc (c.recording.encoding.map Prod.fst)]
      exact List.perm_append_comm
    have hnodup := hunfinished.sublist (hsub.map Copy.slot)
    have hall := ((h.held.append_right _).symm.trans hperm).map Copy.slot
    exact (hall.nodup_iff.mp hnodup).sublist ((List.sublist_append_left _ _).map Copy.slot)
  have hcopied : (copied.map Prod.fst).Sublist answered := copied_sublist es
  have hencoded : (slots ((c.recording.encoding ++ copied).map Prod.fst)).Nodup := by
    rw [List.map_append]
    exact hunderway.sublist (((List.Sublist.refl _).append hcopied).map Copy.slot)
  have hall := (h.encoding.map Prod.fst).map Copy.slot
  have hnodup := hall.nodup_iff.mpr hencoded
  rw [List.map_append, List.map_append, List.map_map] at hnodup
  exact (List.nodup_append.mp hnodup).1

/-- Endings in another order do the same to the station. -/
theorem station_of_perm (h : Ends limit es c k) (hsound : c.Sound) (hdistinct : c.Distinct)
    (hperm : es.Perm fs) :
    k.station.silent = fs.foldl (Event.effect limit) c.station.silent := by
  rw [h.station]
  refine hperm.foldl_eq' (fun e he d hd s => ?_) _
  refine Event.effect_effect (fun x hx y hy hslot => ?_) s
  have hmem : ∀ {e : Event} {x : Copy × Bitmap}, e ∈ es → x ∈ e.encoded? →
      x ∈ es.filterMap Event.encoded? := fun he hx => List.mem_filterMap.mpr ⟨_, he, hx⟩
  exact List.inj_on_of_nodup_map (h.nodup_encoded hsound hdistinct) (hmem he hx) (hmem hd hy) hslot

end Ends

/-! ## Chronicles that differ in the order of what ended -/

/-- Two chronicles differ in nothing but the log, the answers to flushes, the order in which copies are
underway, and their books. -/
structure Alike (c k : Chronicle) : Prop where
  /-- The stations. -/
  station : k.station.silent = c.station.silent
  /-- The surroundings. -/
  bare : k.recording.bare = c.recording.bare
  /-- The snapshots that are being made. -/
  walks : k.walks = c.walks
  /-- The drain that is going on. -/
  draining : k.draining = c.draining
  /-- The copies that have not ended. -/
  held : k.recording.held.Perm c.recording.held
  /-- The pixels that have not been encoded. -/
  encoding : k.recording.encoding.Perm c.recording.encoding
  /-- The copies that items do not know of. -/
  releasing : k.releasing.Perm c.releasing

namespace Alike

variable {c k c' k' : Chronicle} {e : Event} {es fs : List Event}

/-- A chronicle is like itself. -/
theorem refl (c : Chronicle) : Alike c c := ⟨rfl, rfl, rfl, rfl, .refl _, .refl _, .refl _⟩

/-- Whatever of the recording is not about the station or about copies is the same. -/
theorem same (h : Alike c k) : k.recording.settings = c.recording.settings ∧
    k.recording.answers = c.recording.answers := by
  have hsettings := congrArg Recording.settings h.bare
  have hanswers := congrArg Recording.answers h.bare
  exact ⟨hsettings, hanswers⟩

/-- What takes and puts the same leaves the same. -/
theorem perm_of_exchange {α : Type} {taken taken' put put' before before' after after' : List α}
    (h : (taken ++ after).Perm (before ++ put)) (h' : (taken' ++ after').Perm (before' ++ put'))
    (htaken : taken'.Perm taken) (hput : put'.Perm put) (hbefore : before'.Perm before) :
    after'.Perm after := by
  rw [← List.perm_append_left_iff taken]
  exact (htaken.symm.append_right after').trans (h'.trans ((hbefore.append hput).trans h.symm))

/-- **Endings in another order leave chronicles alike.** -/
theorem ends (h : Alike c k) {limit : Nat} (hc : Ends limit es c c') (hk : Ends limit fs k k')
    (hperm : es.Perm fs) (hsound : c.Sound) (hdistinct : c.Distinct) : Alike c' k' where
  station := by rw [hk.station, h.station, hc.station_of_perm hsound hdistinct hperm]
  bare := by rw [hk.bare, h.bare, hc.bare]
  walks := by rw [hk.walks, h.walks, hc.walks]
  draining := by rw [hk.draining, h.draining, hc.draining]
  held := by
    have hc' : (es.filterMap Event.answered? ++ c'.recording.held).Perm (c.recording.held ++ []) := by
      simpa using hc.held
    have hk' : (fs.filterMap Event.answered? ++ k'.recording.held).Perm (k.recording.held ++ []) := by
      simpa using hk.held
    exact perm_of_exchange hc' hk' (hperm.symm.filterMap _) (.refl _) h.held
  encoding := perm_of_exchange hc.encoding hk.encoding (hperm.symm.filterMap _)
    (hperm.symm.filterMap _) h.encoding
  releasing := perm_of_exchange hc.releasing hk.releasing (hperm.symm.filterMap _)
    (hperm.symm.filterMap _) h.releasing

/-- What is done to both stations keeps chronicles alike. -/
theorem withStation (h : Alike c k) {s t : Station Output} (hst : t.silent = s.silent) :
    Alike (c.withStation s) (k.withStation t) :=
  ⟨hst, h.bare, h.walks, h.draining, h.held, h.encoding, h.releasing⟩

/-- A deed that is one step is an act, or it is about the surroundings. -/
theorem doing_cases (d : Deed) (single : Single d) :
    (∃ a, ∀ c : Chronicle, c.doing d = c.withStation (c.station.act a)) ∨
      ∃ other, d = .surround other := by
  cases d with
  | snapshot w => exact absurd rfl (single.1 w)
  | complete completion => exact absurd rfl (single.2 completion)
  | touch records => exact .inl ⟨.recordTouches records, fun c => rfl⟩
  | activate view => exact .inl ⟨.activate view, fun c => rfl⟩
  | setClock millis => exact .inl ⟨.setClock millis, fun c => rfl⟩
  | startWorker => exact .inl ⟨.startWorker, fun c => rfl⟩
  | flush => exact .inl ⟨.sendFlush, fun c => rfl⟩
  | shutdown =>
    refine .inl ⟨.sendShutdown, fun c => ?_⟩
    unfold doing Recording.perform Recording.shutdown act Chronicle.withStation Chronicle.station
    dsimp only
    cases c.recording.station.sendShutdown <;> rfl
  | host script => exact .inl ⟨.host script, fun c => rfl⟩
  | note event => exact .inl ⟨.note event, fun c => rfl⟩
  | surround other => exact .inr ⟨other, rfl⟩

/-- So does a snapshot that begins in both. -/
theorem beginning (h : Alike c k) (id : ItemId) (sketches : List (Node CopySource))
    {s t : Station Output} (hst : t.silent = s.silent) :
    Alike (c.beginning id sketches s) (k.beginning id sketches t) := by
  let extended (u : Station Output) : Station Output :=
    { u with
      output :=
        { u.output with
          gallery := u.output.gallery.extend
            ((Node.numberAll u.output.gallery.next sketches).2 - u.output.gallery.next) } }
  have hextended : Deaf extended := fun _ => rfl
  have houtput : t.silent.output = s.silent.output := congrArg Station.output hst
  change t.output = s.output at houtput
  refine ⟨hextended.eq hst, h.bare, ?_, h.draining, h.held, h.encoding, h.releasing⟩
  unfold Chronicle.beginning
  dsimp only
  rw [h.walks, houtput]

/-- Two copies that end in the same way keep chronicles alike. -/
theorem ending (h : Alike c k) (copy : Copy) (result : CopyResult) :
    Alike (c.ending copy result) (k.ending copy result) := by
  cases result with
  | failed code =>
    exact ⟨h.station, h.bare, h.walks, h.draining, h.held, h.encoding, h.releasing.append_right _⟩
  | copied bitmap =>
    exact ⟨h.station, h.bare, h.walks, h.draining, h.held, h.encoding.append_right _, h.releasing⟩

/-- A copy that is asked for in both keeps chronicles alike. -/
theorem asking (h : Alike c k) (copy : Copy) (walks : List Walk) :
    Alike (c.asking copy walks) (k.asking copy walks) := by
  have hstarting : Alike (c.starting copy walks) (k.starting copy walks) :=
    ⟨(deaf_modifyItem copy.item Item.startJob).eq h.station, h.bare, rfl, h.draining, h.held,
      h.encoding, h.releasing⟩
  unfold Chronicle.asking
  rw [h.same.2]
  split
  · exact hstarting.ending copy _
  · exact ⟨hstarting.station, hstarting.bare, rfl, hstarting.draining, h.held.append_right _,
      hstarting.encoding, hstarting.releasing⟩

/-- **What happens to both keeps chronicles alike.** -/
theorem happens (h : Alike c k) (hsound : c.Sound) (hdistinct : c.Distinct) (hc : Happens e c c')
    (hk : Happens e k k') : Alike c' k' := by
  have hending : e.Ending → Alike c' k' := by
    intro hending
    have hends := Ends.of_happens hending hk
    rw [h.same.1] at hends
    exact h.ends (Ends.of_happens hending hc) hends (.refl _) hsound hdistinct
  cases e with
  | deed d =>
    obtain ⟨single, rfl⟩ := hc
    obtain ⟨-, rfl⟩ := hk
    rcases doing_cases d single with ⟨a, hact⟩ | ⟨other, rfl⟩
    · rw [hact, hact]
      exact h.withStation ((deaf_act a).eq h.station)
    · refine ⟨h.station, ?_, h.walks, h.draining, h.held, h.encoding, h.releasing⟩
      unfold doing Recording.perform Recording.bare
      simp only [h.same.1]
  | snapshot screen sketches =>
    obtain ⟨hid, hadded⟩ := c.station.silent_addItem (.snapshot { screen := screen })
    obtain ⟨hid', hadded'⟩ := k.station.silent_addItem (.snapshot { screen := screen })
    rw [h.station] at hid' hadded'
    have hsame := hid'.symm.trans hid
    have hleft := hadded'.trans hadded.symm
    rcases hc with ⟨s, hs, rfl⟩ | ⟨id, s, hs, rfl⟩ <;> rcases hk with ⟨t, ht, rfl⟩ | ⟨id', t, ht, rfl⟩ <;>
      change c.station.addItem (.snapshot { screen := screen }) = _ at hs <;>
      change k.station.addItem (.snapshot { screen := screen }) = _ at ht <;>
      rw [hs, ht] at hsame hleft
    · exact h.withStation hleft
    · cases hsame
    · cases hsame
    · obtain rfl : id' = id := Option.some.inj hsame
      exact h.beginning id' sketches hleft
  | ask place copy =>
    obtain ⟨before, walk, after, rest, hwalks, hplace, hcopies, rfl⟩ := hc
    obtain ⟨before', walk', after', rest', hwalks', hplace', hcopies', rfl⟩ := hk
    rw [h.walks, hwalks] at hwalks'
    obtain ⟨rfl, htail⟩ := List.append_inj hwalks' (hplace.trans hplace'.symm)
    obtain ⟨rfl, rfl⟩ := List.cons.inj htail
    obtain ⟨-, rfl⟩ := List.cons.inj (hcopies.symm.trans hcopies')
    exact h.asking copy _
  | answer copy result => exact hending trivial
  | encode copy bitmap => exact hending trivial
  | release copy => exact hending trivial
  | attach place =>
    obtain ⟨before, walk, after, hwalks, hplace, -, rfl⟩ := hc
    obtain ⟨before', walk', after', hwalks', hplace', -, rfl⟩ := hk
    rw [h.walks, hwalks] at hwalks'
    obtain ⟨rfl, htail⟩ := List.append_inj hwalks' (hplace.trans hplace'.symm)
    obtain ⟨rfl, rfl⟩ := List.cons.inj htail
    exact ⟨(deaf_modifyItem walk.item (Item.attachNodes walk.nodes)).eq h.station, h.bare, rfl,
      h.draining, h.held, h.encoding, h.releasing⟩
  | request =>
    obtain rfl : c' = _ := hc
    obtain rfl : k' = _ := hk
    exact h.withStation (deaf_requestDrain.eq h.station)
  | work =>
    obtain ⟨busy, s, hs, rfl⟩ := hc
    obtain ⟨busy', t, ht, rfl⟩ := hk
    rw [h.draining] at ht
    obtain ⟨rfl, hst⟩ := silent_moved? h.station hs ht
    exact ⟨hst, h.bare, h.walks, rfl, h.held, h.encoding, h.releasing⟩
  | reply =>
    obtain ⟨-, ticket, answer, rfl⟩ := hc
    obtain ⟨-, ticket', answer', rfl⟩ := hk
    exact h.withStation h.station
  | deliver =>
    obtain ⟨now, id, item, busy, head, -, rfl⟩ := hc
    obtain ⟨now', id', item', busy', head', -, rfl⟩ := hk
    have hqueue : k.station.silent.queue = c.station.silent.queue := congrArg Station.queue h.station
    change k.station.queue = c.station.queue at hqueue
    rw [hqueue, head] at head'
    obtain ⟨rfl, rfl⟩ := Prod.mk.inj (Option.some.inj head')
    exact ⟨((deaf_afterHandling item).comp deaf_takeHead).eq h.station, h.bare, h.walks, h.draining,
      h.held, h.encoding, h.releasing⟩

end Alike

/-! ## Courses that differ in the order of what ended -/

/-- The second events are the first ones, but endings with nothing else between them may have changed
places. -/
inductive Reordering : List Event → List Event → Prop
  /-- Nothing has happened. -/
  | none : Reordering [] []
  /-- The same happens in both. -/
  | same {es fs : List Event} (before : Reordering es fs) (e : Event) :
    Reordering (es ++ [e]) (fs ++ [e])
  /-- The same endings happen in both, in some order. -/
  | endings {es fs : List Event} (before : Reordering es fs) {ends ends' : List Event}
      (ending : ∀ e ∈ ends, e.Ending) (perm : ends.Perm ends') : Reordering (es ++ ends) (fs ++ ends')

/-- A course is one of its own reorderings. -/
theorem Reordering.refl (es : List Event) : Reordering es es := by
  induction es using List.reverseRecOn with
  | nil => exact .none
  | append_singleton es e ih => exact ih.same e

/-- **Such courses leave chronicles alike.** -/
theorem Alike.of_reordering {settings : Settings} {es fs : List Event} {c k : Chronicle}
    (h : Reordering es fs) (hc : Course (start settings) es c) (hk : Course (start settings) fs k) :
    Alike c k := by
  have hgood : ∀ {es c}, Course (start settings) es c → c.Sound ∧ c.Distinct := fun hcourse =>
    ⟨.of_reaches (reaches_iff_course.mpr ⟨_, hcourse⟩), .of_course hcourse⟩
  induction h generalizing c k with
  | none =>
    obtain rfl : c = start settings := hc
    obtain rfl : k = start settings := hk
    exact .refl _
  | same before e ih =>
    obtain ⟨c', hc', hlast⟩ := course_append.mp hc
    obtain ⟨k', hk', hlast'⟩ := course_append.mp hk
    exact (ih hc' hk').happens (hgood hc').1 (hgood hc').2 (course_singleton.mp hlast)
      (course_singleton.mp hlast')
  | endings before ending perm ih =>
    obtain ⟨c', hc', hends⟩ := course_append.mp hc
    obtain ⟨k', hk', hends'⟩ := course_append.mp hk
    have hbefore := ih hc' hk'
    have hall := Ends.of_course (fun e he => ending e (perm.symm.subset he)) hends'
    rw [hbefore.same.1] at hall
    exact hbefore.ends (.of_course ending hends) hall perm (hgood hc').1 (hgood hc').2

/-! ## Copies that end completely -/

/-- Encoding the pixels does not break off, if there are any. -/
def Returns : CopyResult → Prop
  | .failed _ => True
  | .copied bitmap => ¬bitmap.Overlong

/-- All that happens to a copy from its end on. -/
def completing (copy : Copy) : CopyResult → List Event
  | .failed code => [.answer copy (.failed code), .release copy]
  | .copied bitmap => [.answer copy (.copied bitmap), .encode copy bitmap, .release copy]

/-- All that happens to several copies, one after the other. -/
def completions (ends : List (Copy × CopyResult)) : List Event :=
  ends.flatMap fun x => completing x.1 x.2

/-- Completions are endings. -/
theorem ending_of_completions {ends : List (Copy × CopyResult)} {e : Event}
    (he : e ∈ completions ends) : e.Ending := by
  obtain ⟨⟨copy, result⟩, -, he⟩ := List.mem_flatMap.mp he
  cases result <;> simp only [completing, List.mem_cons, List.not_mem_nil, or_false] at he
  · rcases he with rfl | rfl | rfl <;> trivial
  · rcases he with rfl | rfl <;> trivial

section Completing

variable {c : Chronicle}

/-- A copy that has not ended can end in any way, and be done. -/
theorem course_completing {copy : Copy} {result : CopyResult} (hheld : copy ∈ c.recording.held)
    (hreturns : Returns result) :
    ∃ k, Course c (completing copy result) k ∧ (copy :: k.recording.held).Perm c.recording.held := by
  obtain ⟨index, hindex⟩ := List.mem_iff_getElem?.mp hheld
  have hperm : (copy :: c.recording.held.eraseIdx index).Perm c.recording.held :=
    perm_cons_eraseIdx hindex
  cases result with
  | failed code =>
    exact ⟨_, ⟨_, ⟨index, hindex, rfl⟩, _, ⟨c.releasing, [], rfl, rfl⟩, rfl⟩, hperm⟩
  | copied bitmap =>
    let answered := c.answering index copy (.copied bitmap)
    let last := c.recording.encoding.length
    have hcopied : answered.recording.encoding[last]? = some (copy, bitmap) :=
      List.getElem?_concat_length
    have hdone : ∃ after, (answered.encoding last copy bitmap).releasing = c.releasing ++ copy :: after ∧
        (answered.encoding last copy bitmap).recording.held = c.recording.held.eraseIdx index := by
      have hlong : bitmap.encode answered.recording.settings.imageByteLimit ≠ .broken :=
        fun hbroken => hreturns (Bitmap.encode_eq_broken_iff.mp hbroken)
      unfold Chronicle.encoding
      dsimp only
      split
      · exact ⟨[], rfl, rfl⟩
      · exact ⟨[], rfl, rfl⟩
      next hbroken => exact absurd hbroken hlong
    obtain ⟨after, hreleasing, hrest⟩ := hdone
    refine ⟨_, ⟨answered, ⟨index, hindex, rfl⟩, _, ⟨last, hcopied, rfl⟩,
      _, ⟨c.releasing, after, hreleasing, rfl⟩, rfl⟩, ?_⟩
    change (copy :: (answered.encoding last copy bitmap).recording.held).Perm _
    rw [hrest]
    exact hperm

/-- Copies that have not ended can end one after the other, in any order. -/
theorem course_completions {ends : List (Copy × CopyResult)}
    (hheld : (ends.map Prod.fst).Subperm c.recording.held) (hreturns : ∀ x ∈ ends, Returns x.2) :
    ∃ k, Course c (completions ends) k := by
  induction ends generalizing c with
  | nil => exact ⟨c, rfl⟩
  | cons x ends ih =>
    have hmem : x.1 ∈ c.recording.held := hheld.subset (by simp)
    obtain ⟨next, hnext, hperm⟩ := course_completing hmem (hreturns x List.mem_cons_self)
    have hrest : (ends.map Prod.fst).Subperm next.recording.held := by
      rw [← List.subperm_cons x.1]
      exact hheld.trans hperm.symm.subperm
    obtain ⟨k, hk⟩ := ih hrest fun y hy => hreturns y (List.mem_cons_of_mem _ hy)
    exact ⟨k, course_append.mpr ⟨next, hnext, hk⟩⟩

end Completing

/-- **The order in which pictures end does not matter.** Copies that have not ended, each of which will
end with a given result, can end in any two orders with nothing else in between, and the station is the
same afterwards but for the log: the counters of the items, the slots of the gallery, the queue, the
mailbox and the note that a drain was requested. Two courses that differ in the order of endings, also
where those of several copies are mixed, lead to the same station but for the log and the answers to
flushes, and the same was written in both. -/
theorem endings_in_any_order (settings : Settings) :
    (∀ {es : List Event} {c : Chronicle}, Course (start settings) es c →
      ∀ {ends ends' : List (Copy × CopyResult)}, (ends.map Prod.fst).Subperm c.recording.held →
        (∀ x ∈ ends, Returns x.2) → ends.Perm ends' →
        ∃ k k', Course c (completions ends) k ∧ Course c (completions ends') k' ∧
          k'.station.silent = k.station.silent) ∧
    ∀ {es fs : List Event} {c k : Chronicle}, Course (start settings) es c →
      Course (start settings) fs k → Reordering es fs →
      k.station.silent = c.station.silent ∧
        k.station.output.storage.written = c.station.output.storage.written := by
  constructor
  · intro es c hcourse ends ends' hheld hreturns hperm
    have hheld' : (ends'.map Prod.fst).Subperm c.recording.held :=
      (hperm.symm.map Prod.fst).subperm.trans hheld
    obtain ⟨k, hk⟩ := course_completions hheld hreturns
    obtain ⟨k', hk'⟩ := course_completions hheld' fun x hx => hreturns x (hperm.symm.subset hx)
    have hreordering : Reordering (es ++ completions ends) (es ++ completions ends') :=
      .endings (.refl es) (fun _ he => ending_of_completions he) (hperm.flatMap_right _)
    have halike := Alike.of_reordering hreordering (course_append.mpr ⟨c, hcourse, hk⟩)
      (course_append.mpr ⟨c, hcourse, hk'⟩)
    exact ⟨k, k', hk, hk', halike.station⟩
  · intro es fs c k hc hk hreordering
    have halike := Alike.of_reordering hreordering hc hk
    have hwritten := congrArg (fun s : Station Output => s.output.storage.written) halike.station
    exact ⟨halike.station, hwritten⟩

/-- A snapshot of two pictures: one copy fails and the other one ends with no pixels, in either order. -/
theorem endings_in_any_order_two :
    let first : Copy := ⟨default, 0, 0⟩
    let second : Copy := ⟨default, 1, 0⟩
    let image : Wireframe CopySource := { id := 0, bounds := {}, content := .image default }
    let before : List Event :=
      [.deed (.activate (some ⟨"a", "s", "v"⟩)), .snapshot {} [⟨[image, image], []⟩],
        .ask 0 first, .ask 0 second, .attach 0]
    let ends : List (Copy × CopyResult) := [(first, .failed 3), (second, .copied ⟨0, 0, ⟨#[]⟩⟩)]
    ∃ c k k', Course (start {}) before c ∧ Course c (completions ends) k ∧
      Course c (completions ends.reverse) k' ∧ k'.station.silent = k.station.silent ∧
      ∀ l, Course (start {}) (before ++ completions ends.reverse) l →
        l.station.silent = k.station.silent := by
  intro first second image before ends
  have hbefore : ∃ c, Course (start {}) before c ∧ c.recording.held = [first, second] :=
    ⟨_, ⟨_, ⟨⟨nofun, nofun⟩, rfl⟩, _, .inr ⟨0, _, rfl, rfl⟩,
      _, ⟨[], _, [], [second], rfl, rfl, rfl, rfl⟩, _, ⟨[], _, [], [], rfl, rfl, rfl, rfl⟩,
      _, ⟨[], _, [], rfl, rfl, rfl, rfl⟩, rfl⟩, rfl⟩
  obtain ⟨c, hcourse, hheld⟩ := hbefore
  have hperm : ends.Perm ends.reverse := (List.reverse_perm ends).symm
  have hreturns : ∀ x ∈ ends, Returns x.2 := by simp [ends, Returns, Bitmap.Overlong]
  have hsub : (ends.map Prod.fst).Subperm c.recording.held := by
    rw [hheld]
    exact .refl _
  obtain ⟨hcompletions, hreordered⟩ := endings_in_any_order {}
  obtain ⟨k, k', hk, hk', hsame⟩ := hcompletions hcourse hsub hreturns hperm
  refine ⟨c, k, k', hcourse, hk, hk', hsame, fun l hl => ?_⟩
  exact (hreordered (course_append.mpr ⟨c, hcourse, hk⟩) hl
    (.endings (.refl before) (fun _ he => ending_of_completions he) (hperm.flatMap_right _))).1

end Chronicle

end SessionReplay
