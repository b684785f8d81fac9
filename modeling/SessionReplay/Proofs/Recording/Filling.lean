import SessionReplay.Proofs.Screen.Numbering
import SessionReplay.Proofs.Station.Calls

/-!
# How an item is filled

The walk over the windows of a snapshot orders its pictures on the way, and copies and encodings end
meanwhile. None of these takes a place in the gallery, or notices that there are places which nobody has
filled (`Recording.Placeless`). So an item is filled just as if its places were handed out before the walk,
and the copies were asked for after it, one after the other (`Recording.fillSnapshot_eq`).
-/

namespace SessionReplay

/-! ## Empty places -/

namespace Gallery

/-- Places are handed out one after the other or at once. -/
theorem extend_extend (g : Gallery) (m n : Nat) : (g.extend m).extend n = g.extend (n + m) := by
  unfold extend
  rw [Nat.add_assoc, Nat.add_comm m n]

/-- Filling a slot takes no place. -/
theorem next_fill (g : Gallery) (slot : Slot) (p : EncodedPicture) : (g.fill slot p).1.next = g.next := by
  unfold fill
  split <;> rfl

/-- Neither does it notice the places that are empty. -/
theorem fill_extend (g : Gallery) (count : Nat) (slot : Slot) (p : EncodedPicture) :
    ((g.extend count).fill slot p).1 = (g.fill slot p).1.extend count := by
  unfold fill extend
  dsimp only
  split <;> rfl

end Gallery

namespace Station

/-- The station with its gallery changed. -/
def mapGallery (s : Station Output) (f : Gallery → Gallery) : Station Output :=
  { s with output := { s.output with gallery := f s.output.gallery } }

/-- A request for a drain does not look at the gallery. -/
theorem requestDrain_mapGallery (s : Station Output) (f : Gallery → Gallery) :
    (s.mapGallery f).requestDrain = s.requestDrain.mapGallery f := by
  have hempty : (s.mapGallery f).queue.isEmpty = s.queue.isEmpty := rfl
  have hrequested : (s.mapGallery f).drainRequested = s.drainRequested := rfl
  unfold requestDrain send
  rw [hempty, hrequested]
  cases s.queue.isEmpty <;> cases s.drainRequested <;> simp only [Bool.or_false, Bool.or_true,
    if_true, Bool.false_eq_true, if_false]
  cases htakes : s.worker.takesCommands <;> simp [mapGallery, note, htakes]

/-- Nor does an item that gets to know that a picture is done. -/
theorem finishJob_mapGallery (s : Station Output) (f : Gallery → Gallery) (id : ItemId) :
    (s.mapGallery f).finishJob id = (s.finishJob id).mapGallery f := by
  have hmodify : (s.mapGallery f).modifyItem id Item.finishJob
      = (s.modifyItem id Item.finishJob).mapGallery f := rfl
  have hjobs : ((s.modifyItem id Item.finishJob).mapGallery f).pendingJobs id
      = (s.modifyItem id Item.finishJob).pendingJobs id := rfl
  unfold finishJob
  dsimp only
  rw [hmodify, hjobs, requestDrain_mapGallery]
  split <;> rfl

/-- The gallery stays as it is when an item gets to know that a picture is done. -/
theorem output_finishJob {σ : Type} (s : Station σ) (id : ItemId) : (s.finishJob id).output = s.output := by
  rcases s.finishJob_cases id with h | ⟨-, h⟩
  · rw [h, output_requestDrain]
    rfl
  · rw [h]
    rfl

end Station

namespace Recording

/-! ## What takes no place -/

/-- Something takes no place in the gallery, and does the same if some places were handed out before. -/
structure Placeless (f : Recording → Recording) : Prop where
  /-- The next place stays the same. -/
  next : ∀ r, (f r).gallery.next = r.gallery.next
  /-- Places can be handed out before or afterwards. -/
  extend : ∀ r count, f (r.mapGallery (·.extend count)) = (f r).mapGallery (·.extend count)

namespace Placeless

/-- What takes no place is done one after the other. -/
theorem comp {f g : Recording → Recording} (hg : Placeless g) (hf : Placeless f) :
    Placeless fun r => g (f r) := by
  refine ⟨fun r => (hg.next _).trans (hf.next r), fun r count => ?_⟩
  rw [hf.extend, hg.extend]

/-- The same over a list. -/
theorem foldl {α : Type} {f : Recording → α → Recording} (hf : ∀ a, Placeless fun r => f r a)
    (as : List α) : Placeless fun r => as.foldl f r := by
  induction as with
  | nil => exact ⟨fun _ => rfl, fun _ _ => rfl⟩
  | cons a as ih => exact ih.comp (hf a)

/-- What is done may be decided by something that places have nothing to do with. -/
theorem decided {δ : Type} {f : Recording → Recording} (reason : Recording → δ)
    (hreason : ∀ r count, reason (r.mapGallery (·.extend count)) = reason r)
    (hf : ∀ d, ∃ g, Placeless g ∧ ∀ r, reason r = d → f r = g r) : Placeless f := by
  refine ⟨fun r => ?_, fun r count => ?_⟩
  · obtain ⟨g, hg, heq⟩ := hf (reason r)
    rw [heq r rfl]
    exact hg.next r
  · obtain ⟨g, hg, heq⟩ := hf (reason r)
    rw [heq r rfl, heq _ (hreason r count)]
    exact hg.extend r count

/-- An item gets to know that a picture is done. -/
theorem finishJob (item : ItemId) : Placeless fun r => r.mapStation (·.finishJob item) := by
  refine ⟨fun r => ?_, fun r count => ?_⟩
  · unfold gallery mapStation
    dsimp only
    rw [Station.output_finishJob]
  · have hstation := r.station.finishJob_mapGallery (·.extend count) item
    unfold mapGallery mapStation
    exact congrArg (fun s => { r with station := s }) hstation

/-- A copy ends. -/
theorem endCopy (c : Copy) (result : CopyResult) : Placeless fun r => r.endCopy c result := by
  cases result with
  | failed code =>
    have hnote : Placeless fun r => r.note (.copyFailed c.source.view code) :=
      ⟨fun _ => rfl, fun _ _ => rfl⟩
    exact (finishJob c.item).comp hnote
  | copied bitmap => exact ⟨fun _ => rfl, fun _ _ => rfl⟩

/-- A copy is asked for. -/
theorem ask (c : Copy) : Placeless fun r => r.ask c := by
  refine decided (fun r => r.answers.lookup c.source.view) (fun _ _ => rfl) fun answer => ?_
  cases answer with
  | some result =>
    refine ⟨_, endCopy c result, fun r hanswer => ?_⟩
    unfold Recording.ask
    rw [hanswer]
  | none =>
    refine ⟨fun r => { r with held := r.held ++ [c] }, ⟨fun _ => rfl, fun _ _ => rfl⟩, fun r hanswer => ?_⟩
    unfold Recording.ask
    rw [hanswer]

/-- A picture is put into its slot. -/
theorem fill (slot : Slot) (p : EncodedPicture) :
    Placeless fun r => r.mapGallery fun g => (g.fill slot p).1 := by
  refine ⟨fun r => r.gallery.next_fill slot p, fun r count => ?_⟩
  have hgallery := r.gallery.fill_extend count slot p
  unfold mapGallery mapStation
  dsimp only
  exact congrArg (fun g =>
    { r with station := { r.station with output := { r.station.output with gallery := g } } }) hgallery

/-- Pixels are encoded. -/
theorem encode (c : Copy) (bitmap : Bitmap) : Placeless fun r => r.encode c bitmap := by
  refine decided (fun r => bitmap.encode r.settings.imageByteLimit) (fun _ _ => rfl) fun outcome => ?_
  cases outcome with
  | encoded picture =>
    refine ⟨_, (finishJob c.item).comp (fill c.slot picture), fun r houtcome => ?_⟩
    unfold Recording.encode
    rw [houtcome]
  | refused error =>
    have hnote : Placeless fun r => r.note (.pictureRefused error c.source.view) :=
      ⟨fun _ => rfl, fun _ _ => rfl⟩
    refine ⟨_, (finishJob c.item).comp hnote, fun r houtcome => ?_⟩
    unfold Recording.encode
    rw [houtcome]
  | broken =>
    refine ⟨fun r => r, ⟨fun _ => rfl, fun _ _ => rfl⟩, fun r houtcome => ?_⟩
    unfold Recording.encode
    rw [houtcome]

/-- A copy that has not ended ends. -/
theorem answerCopy (index : Nat) (result : CopyResult) :
    Placeless fun r => (r.answerCopy index result).2 := by
  refine decided (fun r => r.held[index]?) (fun _ _ => rfl) fun found => ?_
  cases found with
  | none =>
    refine ⟨fun r => r, ⟨fun _ => rfl, fun _ _ => rfl⟩, fun r hfound => ?_⟩
    unfold Recording.answerCopy
    rw [hfound]
  | some c =>
    have herased : Placeless fun r => { r with held := r.held.eraseIdx index } :=
      ⟨fun _ => rfl, fun _ _ => rfl⟩
    refine ⟨_, (endCopy c result).comp herased, fun r hfound => ?_⟩
    unfold Recording.answerCopy
    rw [hfound]

/-- The copied pixels at an index are encoded. -/
theorem encodeAt (index : Nat) : Placeless fun r => r.encodeAt index := by
  refine decided (fun r => r.encoding[index]?) (fun _ _ => rfl) fun found => ?_
  cases found with
  | none =>
    refine ⟨fun r => r, ⟨fun _ => rfl, fun _ _ => rfl⟩, fun r hfound => ?_⟩
    unfold Recording.encodeAt
    rw [hfound]
  | some job =>
    have herased : Placeless fun r => { r with encoding := r.encoding.eraseIdx index } :=
      ⟨fun _ => rfl, fun _ _ => rfl⟩
    refine ⟨_, (encode job.1 job.2).comp herased, fun r hfound => ?_⟩
    unfold Recording.encodeAt
    rw [hfound]

/-- Something ends on its own. -/
theorem complete (e : Completion) : Placeless fun r => r.complete e := by
  cases e with
  | copy index result => exact answerCopy index result
  | encoding index => exact encodeAt index

/-- A copy is asked for while other things end on their own. -/
theorem capture (c : Copy) : Placeless fun r => r.capture c := by
  have hsame : ∀ (r : Recording) (count : Nat),
      ((r.mapGallery (·.extend count)).ask c).interludes = (r.ask c).interludes := by
    intro r count
    rw [(ask c).extend]
    rfl
  refine decided (fun r => (r.ask c).interludes) hsame fun interludes => ?_
  cases interludes with
  | nil =>
    refine ⟨_, ask c, fun r hinterludes => ?_⟩
    unfold Recording.capture
    dsimp only
    rw [hinterludes]
  | cons ended later =>
    have hlater : Placeless fun r => { r with interludes := later } := ⟨fun _ => rfl, fun _ _ => rfl⟩
    refine ⟨_, ((foldl complete ended).comp hlater).comp (ask c), fun r hinterludes => ?_⟩
    unfold Recording.capture
    dsimp only
    rw [hinterludes]

/-- An item is told of a copy, and it is asked for while other things end on their own. -/
theorem requestNext (c : Copy) : Placeless fun r => r.requestNext c :=
  (capture c).comp (f := fun r => r.mapStation (·.startJob c.item)) ⟨fun _ => rfl, fun _ _ => rfl⟩

end Placeless

/-! ## Orders -/

/-- The pictures of an item get consecutive places. -/
theorem studio_numbered (item : ItemId) : (studio item).Numbered fun r => r.gallery.next where
  place _ := ⟨rfl, rfl⟩
  startJob _ := rfl
  capture source slot r := (Placeless.capture ⟨source, slot, item⟩).next r

/-- **Pictures are ordered** as if all places were handed out at first. -/
theorem orderAll_studio (item : ItemId) (ps : List CopySource) (r : Recording) :
    ((studio item).orderAll ps r).2
      = (ps.mapIdx fun i source => (⟨source, r.gallery.next + i, item⟩ : Copy)).foldl requestNext
          (r.mapGallery (·.extend ps.length)) := by
  induction ps generalizing r with
  | nil => rfl
  | cons p ps ih =>
    let copy : Copy := ⟨p, r.gallery.next, item⟩
    let placed := r.mapGallery (·.extend 1)
    have hstep : ((studio item).orderAll (p :: ps) r).2
        = ((studio item).orderAll ps (placed.requestNext copy)).2 := rfl
    have hnext : (placed.requestNext copy).gallery.next = r.gallery.next + 1 :=
      (Placeless.requestNext copy).next placed
    have hextend : (placed.requestNext copy).mapGallery (·.extend ps.length)
        = (r.mapGallery (·.extend (p :: ps).length)).requestNext copy := by
      rw [← (Placeless.requestNext copy).extend]
      unfold placed mapGallery mapStation
      dsimp only
      rw [Gallery.extend_extend]
      rfl
    have hslots : (fun i source => (⟨source, r.gallery.next + 1 + i, item⟩ : Copy))
        = fun i source => ⟨source, r.gallery.next + (i + 1), item⟩ := by
      funext i source
      rw [Nat.add_assoc, Nat.add_comm 1]
    rw [hstep, ih, hnext, hextend, hslots, List.mapIdx_cons, List.foldl_cons]
    rfl

/-- **An item is filled** as if the windows were walked first, then all places handed out, and then the
copies asked for. -/
theorem fillSnapshot_eq (r : Recording) (item : ItemId) (screen : ScreenInfo) (windows : List Window) :
    let sketches := View.walkAll r.mappers screen (windows.filterMap Window.view)
    let next := r.gallery.next
    let numbered := Node.numberAll next sketches
    r.fillSnapshot item screen windows
      = ((copies sketches next item).foldl requestNext
          (r.mapGallery (·.extend (numbered.2 - next)))).mapStation
            fun s => (s.attachNodes item numbered.1).2.requestDrain := by
  intro sketches next numbered
  have hwalked : View.produceAll r.mappers screen (studio item) (windows.filterMap Window.view) r
      = (studio item).furnishNodes sketches r := View.produceAll_eq _ _ _ _ r
  have hnodes : ((studio item).furnishNodes sketches r).1 = numbered.1 :=
    congrArg Prod.fst ((studio_numbered item).furnishNodes sketches r)
  have hordered : ((studio item).furnishNodes sketches r).2
      = ((studio item).orderAll (Wireframe.pictures (Node.flattenAll sketches)) r).2 :=
    congrArg Prod.snd ((studio item).furnishNodes_furnishes sketches r).ordered
  have hstop : numbered.2 - next = (Wireframe.pictures (Node.flattenAll sketches)).length := by
    unfold numbered
    rw [(Node.pictures_numberAll next sketches).2, Nat.add_sub_cancel_left]
  unfold fillSnapshot
  rw [hwalked]
  dsimp only
  rw [hnodes, hordered, hstop, orderAll_studio]
  rfl

end Recording

end SessionReplay
