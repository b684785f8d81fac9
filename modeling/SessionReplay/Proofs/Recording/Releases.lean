import SessionReplay.Proofs.Picture.Refusals
import SessionReplay.Proofs.Recording.Course

/-!
# Pictures that are done

An item counts the copies that were asked for it, and it is told of each of them when it is done. That
comes last, after the copy has failed or its pixels were encoded, so a copy whose encoding breaks off is
counted for ever. `Bitmap.Overlong` says for which pixels this is so: those with more bytes than their
size asks for. All other copies are released exactly once, and the counter of an item is the number of
its copies that have not been (`released_unless_overlong`).
-/

namespace SessionReplay

namespace Chronicle

open Station

/-! ## What a course says about copies -/

namespace Event

/-- The copy that is asked for. -/
@[simp] def asked? : Event → Option Copy
  | .ask _ copy => some copy
  | _ => none

/-- The copy that an item gets to know is done. -/
@[simp] def released? : Event → Option Copy
  | .release copy => some copy
  | _ => none

/-- The copy whose encoding breaks off. -/
@[simp] def brokenOff? : Event → Option Copy
  | .encode copy bitmap => if bitmap.Overlong then some copy else none
  | _ => none

end Event

/-- The copies that were asked for, in order. -/
def asked (es : List Event) : List Copy := es.filterMap Event.asked?

/-- The copies that items were told of, in order. -/
def released (es : List Event) : List Copy := es.filterMap Event.released?

/-- The copies whose encoding broke off, in order. -/
def brokenOff (es : List Event) : List Copy := es.filterMap Event.brokenOff?

/-- The copies that have not ended, whose pixels are being encoded, or that are about to be released. -/
def underway (c : Chronicle) : List Copy :=
  c.recording.held ++ c.recording.encoding.map Prod.fst ++ c.releasing

variable {c k : Chronicle} {e : Event} {es : List Event}

/-- What is kept of an event about copies. -/
theorem Happens.history (he : Happens e c k) :
    k.requested = c.requested ++ e.asked?.toList ∧ k.finished = c.finished ++ e.released?.toList ∧
      k.broken = c.broken ++ e.brokenOff?.toList := by
  have hending : ∀ (c : Chronicle) (copy : Copy) (result : CopyResult),
      (c.ending copy result).requested = c.requested ∧
        (c.ending copy result).finished = c.finished ∧
        (c.ending copy result).broken = c.broken := by
    intro c copy result
    cases result <;> exact ⟨rfl, rfl, rfl⟩
  cases e with
  | deed d =>
    obtain ⟨-, rfl⟩ := he
    simp [doing]
  | snapshot screen sketches =>
    rcases he with ⟨s, -, rfl⟩ | ⟨id, s, -, rfl⟩ <;>
      simp [withStation, beginning]
  | ask place copy =>
    obtain ⟨before, walk, after, rest, -, -, -, rfl⟩ := he
    unfold asking
    split
    next result _ =>
      obtain ⟨hrequested, hfinished, hbroken⟩ :=
        hending (c.starting copy (before ++ { walk with copies := rest } :: after)) copy result
      rw [hrequested, hfinished, hbroken]
      simp [starting]
    next => simp [starting, withHeld]
  | answer copy result =>
    obtain ⟨index, -, rfl⟩ := he
    obtain ⟨hrequested, hfinished, hbroken⟩ :=
      hending (c.withHeld (c.recording.held.eraseIdx index)) copy result
    unfold answering
    rw [hrequested, hfinished, hbroken]
    simp [withHeld]
  | encode copy bitmap =>
    obtain ⟨index, -, rfl⟩ := he
    unfold Chronicle.encoding
    dsimp only
    split
    next picture hencode =>
      have hfits : ¬bitmap.Overlong := by
        rw [← Bitmap.encode_eq_broken_iff, hencode]
        simp
      simp [hfits]
    next error hencode =>
      have hfits : ¬bitmap.Overlong := by
        rw [← Bitmap.encode_eq_broken_iff, hencode]
        simp
      simp [hfits]
    next hencode =>
      have hlong : bitmap.Overlong := Bitmap.encode_eq_broken_iff.mp hencode
      simp [hlong]
  | release copy =>
    obtain ⟨before, after, -, rfl⟩ := he
    simp [freeing]
  | attach place =>
    obtain ⟨before, walk, after, -, -, -, rfl⟩ := he
    simp [attaching, withStation]
  | request =>
    obtain rfl : k = _ := he
    simp [withStation]
  | work =>
    obtain ⟨busy, s, -, rfl⟩ := he
    simp [withStation]
  | reply =>
    obtain ⟨-, ticket, answer, rfl⟩ := he
    simp [withStation]
  | deliver =>
    obtain ⟨now, id, item, -, -, -, rfl⟩ := he
    simp [delivering, withStation]

/-- The books about copies say what the course says. -/
theorem history_of_course {settings : Settings} (hcourse : Course (start settings) es c) :
    c.requested = asked es ∧ c.finished = released es ∧ c.broken = brokenOff es := by
  refine course_induction
    (P := fun es k => k.requested = asked es ∧ k.finished = released es ∧ k.broken = brokenOff es)
    ⟨rfl, rfl, rfl⟩ ?_ hcourse
  intro es e k l _ h he
  obtain ⟨hrequested, hfinished, hbroken⟩ := he.history
  have hlast : ∀ f : Event → Option Copy,
      (es ++ [e]).filterMap f = es.filterMap f ++ (f e).toList := by
    intro f
    rw [List.filterMap_append]
    cases hf : f e <;> simp [hf]
  unfold asked released brokenOff at h ⊢
  rw [hlast, hlast, hlast, hrequested, hfinished, hbroken, h.1, h.2.1, h.2.2]
  exact ⟨rfl, rfl, rfl⟩

/-! ## The counters of the items -/

/-- Every item counts the copies that it was not told of. -/
def Counted (c : Chronicle) : Prop := ∀ id, c.station.pendingJobs id = c.owed id

namespace Counted

/-- Only the counters and the copies that are not done matter. -/
theorem congr (h : c.Counted) (hqueue : c.station.queue.Joined k.station.queue)
    (hunfinished : k.unfinished.Perm c.unfinished) : k.Counted := by
  intro id
  rw [pendingJobs_of_joined hqueue, h id]
  exact (hunfinished.countP_eq _).symm

/-- What does nothing to the accounts leaves the counts right. -/
theorem idle (h : c.Counted) (hidle : Idle c k) : k.Counted :=
  h.congr hidle.queue (hidle.unfinished ▸ .refl _)

/-- A new item counts nothing, and there are no copies for it yet. -/
theorem accept (h : c.Counted) {screen : ScreenInfo} (sketches : List (Node CopySource))
    {id : ItemId} {s : Station Output} (accepted : c.station.addSnapshot screen = (some id, s)) :
    (c.beginning id sketches s).Counted := by
  intro i
  have hsame : s.pendingJobs i = c.station.pendingJobs i := by
    rcases c.station.addItem_cases (.snapshot { screen := screen }) with
      ⟨view, -, hadd⟩ | ⟨-, event, hadd⟩
    · cases hadd.symm.trans accepted
      unfold Station.pendingJobs
      by_cases hi : i = c.station.queue.nextId
      · subst hi
        have hnew : (c.station.accept view (.snapshot { screen := screen })).queue.item?
            c.station.queue.nextId = some (c.station.newItem view (.snapshot { screen := screen })) :=
          c.station.queue.item?_add_self _
        have hold : c.station.queue.item? c.station.queue.nextId = none :=
          Array.getElem?_eq_none (Nat.le_refl _)
        rw [hnew, hold]
        rfl
      · have hother : (c.station.accept view (.snapshot { screen := screen })).queue.item? i
            = c.station.queue.item? i := Array.getElem?_push.trans (if_neg hi)
        rw [hother]
    · cases hadd.symm.trans accepted
  change s.pendingJobs i = c.owed i
  rw [hsame, h i]

/-- A copy that is asked for is counted. -/
theorem ask (h : c.Counted) (hsound : c.Sound) {before after : List Walk} {walk : Walk} {copy : Copy}
    {rest : List Copy} (walks : c.walks = before ++ walk :: after)
    (copies : walk.copies = copy :: rest) :
    (c.asking copy (before ++ { walk with copies := rest } :: after)).Counted := by
  obtain ⟨hunfinished, hqueue, -⟩ :=
    c.asking_frame copy (before ++ { walk with copies := rest } :: after)
  have hwalk : walk ∈ c.walks := by simp [walks]
  obtain ⟨item, hfound, hawaits⟩ := hsound.awaits walk hwalk
  obtain ⟨snapshot, hsnapshot⟩ := Item.snapshot_of_awaitsNodes hawaits
  rw [← (hsound.walking walk hwalk copy (by simp [copies])).1] at hfound
  intro i
  rw [owed_of_cons hunfinished]
  by_cases hi : copy.item = i
  · subst hi
    rw [if_pos rfl, pendingJobs_modify_self hqueue hfound, Item.pendingJobs_startJob hsnapshot,
      ← pendingJobs_of_item? hfound, h]
  · rw [if_neg hi, pendingJobs_modify_of_ne hqueue hi]
    exact h i

/-- A copy that an item was told of is no longer counted. -/
theorem release (h : c.Counted) {before after : List Copy} {copy : Copy}
    (releasing : c.releasing = before ++ copy :: after) :
    (c.freeing copy (before ++ after)).Counted := by
  obtain ⟨hunfinished, hqueue, -⟩ := c.freeing_frame releasing
  intro i
  have howed := owed_of_cons hunfinished i
  have hcounted := h i
  by_cases hi : copy.item = i
  · subst hi
    rw [if_pos rfl] at howed
    rw [pendingJobs_finishJob hqueue]
    omega
  · rw [if_neg hi] at howed
    rw [pendingJobs_modify_of_ne hqueue hi]
    omega

/-- Nodes that are attached are not counted. -/
theorem attach (h : c.Counted) (walk : Walk) (walks : List Walk) :
    (c.attaching walk walks).Counted := by
  have hqueue : (c.attaching walk walks).station.queue
      = c.station.queue.modify walk.item (Item.attachNodes walk.nodes) := rfl
  intro i
  change _ = c.owed i
  rw [← h i]
  by_cases hi : walk.item = i
  · subst hi
    cases hfound : c.station.queue.item? walk.item with
    | none =>
      unfold Station.pendingJobs
      rw [hqueue, Queue.item?_modify_self, hfound]
      rfl
    | some item =>
      rw [pendingJobs_modify_self hqueue hfound, Item.pendingJobs_attachNodes,
        pendingJobs_of_item? hfound]
  · exact pendingJobs_modify_of_ne hqueue hi

/-- Every event keeps the counters right. -/
theorem happens (h : c.Counted) (hsound : c.Sound) (he : Happens e c k) : k.Counted := by
  cases e with
  | deed d =>
    obtain ⟨single, rfl⟩ := he
    exact h.idle (c.idle_doing single)
  | snapshot screen sketches =>
    rcases he with ⟨s, refused, rfl⟩ | ⟨id, s, accepted, rfl⟩
    · exact h.idle (idle_refuse refused)
    · exact h.accept sketches accepted
  | ask place copy =>
    obtain ⟨before, walk, after, rest, walks, -, copies, rfl⟩ := he
    exact h.ask hsound walks copies
  | answer copy result =>
    obtain ⟨index, held, rfl⟩ := he
    obtain ⟨hunfinished, hqueue, -⟩ := c.answering_frame result held
    exact h.congr (.of_items (congrArg Queue.items hqueue)) hunfinished
  | encode copy bitmap =>
    obtain ⟨index, copied, rfl⟩ := he
    obtain ⟨-, hunfinished, hqueue, -⟩ := c.encoding_frame copied
    exact h.congr (.of_items (congrArg Queue.items hqueue)) hunfinished
  | release copy =>
    obtain ⟨before, after, releasing, rfl⟩ := he
    exact h.release releasing
  | attach place =>
    obtain ⟨before, walk, after, -, -, -, rfl⟩ := he
    exact h.attach walk _
  | request =>
    obtain rfl : k = _ := he
    exact h.idle c.idle_request
  | work =>
    obtain ⟨busy, s, hmoved, rfl⟩ := he
    exact h.idle (idle_move (move_iff.mpr (.inl hmoved)))
  | reply =>
    obtain ⟨-, ticket, answer, rfl⟩ := he
    exact h.congr (.of_items rfl) (.refl _)
  | deliver =>
    obtain ⟨now, id, item, -, -, -, rfl⟩ := he
    exact h.idle (c.idle_delivering id item)

/-- The counters are right after any course. -/
theorem of_course {settings : Settings} (hcourse : Course (start settings) es c) : c.Counted := by
  refine course_induction (P := fun _ k => k.Counted) (fun _ => rfl) ?_ hcourse
  intro es e k l hbefore h he
  exact h.happens (.of_reaches (reaches_iff_course.mpr ⟨es, hbefore⟩)) he

end Counted

/-! ## Releases -/

/-- **Every copy is released exactly once, unless its encoding breaks off.** The copies that were asked
for are told apart by their slots, and each of them is underway, or its encoding broke off, or its item
was told that it is done. An item counts its copies that are underway and those whose encoding broke
off; the latter have more bytes than their size asks for. Whatever is left to do for a copy that is
underway can be done. -/
theorem released_unless_overlong {settings : Settings} (hcourse : Course (start settings) es c) :
    ((asked es).map Copy.slot).Nodup ∧
    (asked es).Perm (c.underway ++ brokenOff es ++ released es) ∧
    (∀ id, c.station.pendingJobs id
      = c.underway.countP (·.item = id) + (brokenOff es).countP (·.item = id)) ∧
    (∀ copy, copy ∈ brokenOff es ↔ ∃ bitmap, .encode copy bitmap ∈ es ∧ bitmap.Overlong) ∧
    ∀ copy ∈ c.underway, (∀ result, ∃ k, Happens (.answer copy result) c k) ∨
      (∃ bitmap k, Happens (.encode copy bitmap) c k) ∨ ∃ k, Happens (.release copy) c k := by
  obtain ⟨hrequested, hfinished, hbroken⟩ := history_of_course hcourse
  have hsound : c.Sound := .of_reaches (reaches_iff_course.mpr ⟨es, hcourse⟩)
  have hunfinished : c.unfinished = c.underway ++ brokenOff es := by
    rw [← hbroken]
    rfl
  refine ⟨?distinct, ?balanced, ?counted, ?broken, ?progress⟩
  case distinct =>
    have hnodup := (Distinct.of_course hcourse).nodup
    rw [planned, List.map_append, hrequested] at hnodup
    exact (List.nodup_append.mp hnodup).1
  case balanced =>
    rw [← hrequested, ← hfinished, ← hunfinished]
    exact hsound.balanced
  case counted =>
    intro id
    rw [Counted.of_course hcourse id, owed, hunfinished, List.countP_append]
  case broken =>
    intro copy
    unfold brokenOff
    rw [List.mem_filterMap]
    constructor
    · rintro ⟨e, he, hsome⟩
      cases e with
      | encode other bitmap =>
        simp only [Event.brokenOff?, Option.ite_none_right_eq_some, Option.some.injEq] at hsome
        obtain ⟨hlong, rfl⟩ := hsome
        exact ⟨bitmap, he, hlong⟩
      | _ => cases hsome
    · rintro ⟨bitmap, he, hlong⟩
      exact ⟨_, he, by simp [hlong]⟩
  case progress =>
    intro copy hcopy
    unfold underway at hcopy
    rcases List.mem_append.mp hcopy with hcopy | hcopy
    · rcases List.mem_append.mp hcopy with hcopy | hcopy
      · left
        intro result
        obtain ⟨index, hheld⟩ := List.mem_iff_getElem?.mp hcopy
        exact ⟨_, index, hheld, rfl⟩
      · right; left
        obtain ⟨⟨_, bitmap⟩, hpair, rfl⟩ := List.mem_map.mp hcopy
        obtain ⟨index, hcopied⟩ := List.mem_iff_getElem?.mp hpair
        exact ⟨bitmap, _, index, hcopied, rfl⟩
    · right; right
      obtain ⟨before, after, hreleasing⟩ := List.append_of_mem hcopy
      exact ⟨_, before, after, hreleasing, rfl⟩

/-- A snapshot of one picture has begun, its copy was asked for, and its nodes are attached. -/
def onePicture : List Event :=
  [.deed (.activate (some ⟨"a", "s", "v"⟩)),
    .snapshot {} [⟨[{ id := 0, bounds := {}, content := .image default }], []⟩],
    .ask 0 ⟨default, 0, 0⟩, .attach 0]

/-- A copy that fails is released, and then its item counts nothing. -/
theorem released_unless_overlong_failed : ∃ c,
    Course (start {})
      (onePicture ++ [.answer ⟨default, 0, 0⟩ (.failed 3), .release ⟨default, 0, 0⟩]) c ∧
    c.underway = [] ∧ c.station.pendingJobs 0 = 0 := by
  have hcourse : ∃ c, Course (start {})
      (onePicture ++ [.answer ⟨default, 0, 0⟩ (.failed 3), .release ⟨default, 0, 0⟩]) c ∧
      c.underway = [] :=
    ⟨_, ⟨_, ⟨⟨nofun, nofun⟩, rfl⟩, _, .inr ⟨0, _, rfl, rfl⟩,
      _, ⟨[], _, [], [], rfl, rfl, rfl, rfl⟩, _, ⟨[], _, [], rfl, rfl, rfl, rfl⟩,
      _, ⟨0, rfl, rfl⟩, _, ⟨[], [], rfl, rfl⟩, rfl⟩, rfl⟩
  obtain ⟨c, hcourse, hnone⟩ := hcourse
  refine ⟨c, hcourse, hnone, ?_⟩
  obtain ⟨-, -, hcounts, -⟩ := released_unless_overlong hcourse
  rw [hcounts 0, hnone]
  rfl

/-- A bitmap of one pixel with a byte too much. -/
def onePixelAndMore : Bitmap := ⟨1, 1, ⟨#[0, 128, 255, 255, 255]⟩⟩

/-- A copy ends with a byte too much. Its encoding breaks off, and then nothing is underway, but the item
counts a picture for ever. -/
theorem overlong_copy_is_never_released : ∃ c,
    Course (start {}) (onePicture ++ [.answer ⟨default, 0, 0⟩ (.copied onePixelAndMore),
      .encode ⟨default, 0, 0⟩ onePixelAndMore]) c ∧
    c.underway = [] ∧ c.station.pendingJobs 0 = 1 ∧
    ∀ es k, Course c es k → k.station.pendingJobs 0 ≠ 0 := by
  have hcourse : ∃ c, Course (start {}) (onePicture ++ [.answer ⟨default, 0, 0⟩ (.copied onePixelAndMore),
      .encode ⟨default, 0, 0⟩ onePixelAndMore]) c ∧ c.underway = [] ∧ c.station.pendingJobs 0 = 1 :=
    ⟨_, ⟨_, ⟨⟨nofun, nofun⟩, rfl⟩, _, .inr ⟨0, _, rfl, rfl⟩,
      _, ⟨[], _, [], [], rfl, rfl, rfl, rfl⟩, _, ⟨[], _, [], rfl, rfl, rfl, rfl⟩,
      _, ⟨0, rfl, rfl⟩, _, ⟨0, rfl, rfl⟩, rfl⟩, rfl, rfl⟩
  obtain ⟨c, hcourse, hnone, hcounts⟩ := hcourse
  refine ⟨c, hcourse, hnone, hcounts, ?_⟩
  intro es k hlater hzero
  have hall := course_append.mpr ⟨c, hcourse, hlater⟩
  obtain ⟨-, -, hbroken⟩ := history_of_course hall
  have hmem : (⟨default, 0, 0⟩ : Copy) ∈ k.unfinished := by
    unfold unfinished
    rw [hbroken]
    exact List.mem_append_right _ List.mem_cons_self
  rw [Counted.of_course hall 0, owed, List.countP_eq_zero] at hzero
  exact hzero _ hmem (by simp)

end Chronicle

end SessionReplay
