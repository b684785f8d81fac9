import SessionReplay.Proofs.Picture.Limits
import SessionReplay.Proofs.Screen.Sizes
import SessionReplay.Proofs.Recording.Finality
import SessionReplay.Proofs.Recording.Timeline
import SessionReplay.Proofs.Record.Decoding

/-!
# The images that are written

The limits on pictures are kept far from where pictures are written. How large a picture is on the
screen is checked by the mapper that describes its view, how long its text is when its pixels are
encoded, and what is written is whatever stands in the picture's slot of the gallery when the worker
is handed the snapshot. Still every image that is written keeps the limits
(`written_images_keep_limits`):

* no step of a chronicle fills a slot with anything but a picture that was encoded within the limit,
  or changes a slot that is filled (`Step.pictures`, `picture?_of_reaches`);
* what is written for an item shows its wireframes and the pictures of the gallery as it is then
  (`Item.Writes.images`);
* the item stays in the books as it was when it was written, so it does not matter when one gets to
  know how it was drawn (`images_of_reaches`).

Touches are written as they are. If a host could report a full snapshot among its touches, nothing
would be known of the images in it, so touches have to tell of pointers.
-/

namespace SessionReplay

/-! ## Written images -/

/-- The written form of an image is within the limits of some settings: it has sides from one up to
the limit, and its text is empty and marked as such, or it is that of a picture file that is not too
large. -/
structure Json.KeepsLimits (settings : Settings) (j : Json) : Prop where
  /-- From left to right. -/
  width : 1 ≤ j.getInt "width" ∧ j.getInt "width" ≤ settings.imageSideLimit
  /-- From top to bottom. -/
  height : 1 ≤ j.getInt "height" ∧ j.getInt "height" ≤ settings.imageSideLimit
  /-- What it shows. -/
  payload : (j.get "base64" = .string "" ∧ j.get "mimeType" = .string "" ∧
      j.get "isEmpty" = .bool true) ∨
    ∃ text bytes, j.get "base64" = .string text ∧ j.get "mimeType" = .string "image/webp" ∧
      j.get "isEmpty" = .bool false ∧ Base64.decode? text = some bytes ∧
      bytes.length ≤ settings.imageByteLimit

/-- The written forms of the images among some wireframes. -/
def Wireframe.images (ws : List (Wireframe Picture)) : List Json :=
  (ws.map Wireframe.toJson).filter fun j => j.getString "type" == "image"

/-- The written forms of the images of a record. -/
def Record.images (r : Record Picture) : List Json :=
  match r.content with
  | .fullSnapshot ws => Wireframe.images ws
  | _ => []

/-- The written forms of all images in what was written. -/
def Recording.images (r : Recording) : List Json := r.records.flatMap Record.images

/-- Only what shows a picture is written as an image. -/
theorem Wireframe.exists_picture {w : Wireframe Picture}
    (h : w.toJson.getString "type" = "image") : ∃ picture, w.content = .image picture := by
  have hkind : w.toJson.getString "type" = w.content.kind := by
    simp [toJson, Json.getString, Json.get]
  rw [hkind] at h
  cases hcontent : w.content with
  | image picture => exact ⟨picture, rfl⟩
  | shape =>
    simp [hcontent, WireframeContent.kind] at h
  | text shown style position =>
    simp [hcontent, WireframeContent.kind] at h

/-- **A picture within the limits is written within the limits.** -/
theorem Wireframe.keepsLimits {settings : Settings} {w : Wireframe Picture} {picture : Picture}
    (hcontent : w.content = .image picture) (hsize : w.bounds.Within settings.imageSideLimit)
    (hfits : ∀ p, picture = some p → p.Fits settings.imageByteLimit) :
    w.toJson.KeepsLimits settings := by
  have hwidth : w.toJson.getInt "width" = w.bounds.width := by
    simp [toJson, Json.getInt, Json.get, List.lookup_cons]
  have hheight : w.toJson.getInt "height" = w.bounds.height := by
    simp [toJson, Json.getInt, Json.get, List.lookup_cons]
  have hfields : ∀ key ∈ ["base64", "mimeType", "isEmpty"],
      w.toJson.get key = ((pictureFields picture).lookup key).getD .null := by
    intro key hkey
    simp only [List.mem_cons, List.not_mem_nil, or_false] at hkey
    rcases hkey with rfl | rfl | rfl <;>
      simp [toJson, hcontent, WireframeContent.fields, Json.get, List.lookup_cons,
        List.lookup_append]
  refine ⟨hwidth ▸ hsize.width, hheight ▸ hsize.height, ?_⟩
  rw [hfields "base64" (by simp), hfields "mimeType" (by simp), hfields "isEmpty" (by simp)]
  cases picture with
  | none => exact .inl ⟨rfl, rfl, rfl⟩
  | some p =>
    obtain ⟨hfile, bytes, hbytes, hlength⟩ := hfits p rfl
    exact .inr ⟨p.base64, bytes, rfl, congrArg Json.string hfile, rfl, hbytes, hlength⟩

/-! ## The gallery -/

namespace Gallery

variable {g : Gallery} {slot other : Slot} {p q : EncodedPicture} {limit : Nat}

/-- All pictures that are there are not too large. -/
def Fits (limit : Nat) (g : Gallery) : Prop := ∀ slot p, g.picture? slot = some p → p.Fits limit

/-- A slot that has its picture keeps it, whatever slot is filled. -/
theorem picture?_fill_of_some (h : g.picture? other = some q) :
    (g.fill slot p).1.picture? other = some q := by
  by_cases hslot : slot = other
  · subst hslot
    unfold fill
    rw [h]
    exact h
  · rw [picture?_fill hslot]
    exact h

/-- A picture that is there was there before, or was put there. -/
theorem of_picture?_fill (h : (g.fill slot p).1.picture? other = some q) :
    g.picture? other = some q ∨ q = p := by
  by_cases hslot : slot = other
  · subst hslot
    unfold fill at h
    split at h
    next => exact .inl h
    next => exact .inr (Option.some.inj ((if_pos rfl).symm.trans h)).symm
  · rw [picture?_fill hslot] at h
    exact .inl h

end Gallery

/-! ## What is written for an item -/

/-- The images of a record within the limits, if those of its wireframes are of such a size and the
pictures that are there fit. -/
theorem Record.images_keepLimits {settings : Settings} {g : Gallery} {ws : List (Wireframe Slot)}
    (hsizes : ∀ w ∈ ws, w.Modest settings.imageSideLimit) (hfits : g.Fits settings.imageByteLimit)
    (time : Int) :
    ∀ j ∈ (Record.map g.picture? ⟨time, .fullSnapshot ws⟩).images, j.KeepsLimits settings := by
  intro j hj
  obtain ⟨hmem, htype⟩ := List.mem_filter.mp hj
  obtain ⟨shown, hshown, rfl⟩ := List.mem_map.mp hmem
  obtain ⟨w, hw, rfl⟩ := List.mem_map.mp hshown
  obtain ⟨picture, hpicture⟩ := Wireframe.exists_picture (eq_of_beq htype)
  obtain ⟨id, bounds, style, border, content⟩ := w
  cases content with
  | image slot =>
    cases hpicture
    exact Wireframe.keepsLimits rfl (hsizes _ hw rfl) fun p hp => hfits slot p hp
  | shape => cases hpicture
  | text shown textStyle position => cases hpicture

/-- **What is written for an item has images within the limits only.** -/
theorem Item.Writes.images {settings : Settings} {g : Gallery} {i : Item} {bs : List (Batch Slot)}
    (h : i.Writes bs) (hsizes : ∀ w ∈ i.wireframes, w.Modest settings.imageSideLimit)
    (htouches : ∀ records ∈ i.touches?, OfPointers records)
    (hfits : g.Fits settings.imageByteLimit) :
    ∀ b ∈ bs, ∀ r ∈ b.records, ∀ j ∈ (r.map g.picture?).images, j.KeepsLimits settings := by
  have hfull : ∀ j ∈ (i.fullRecord.map g.picture?).images, j.KeepsLimits settings :=
    Record.images_keepLimits hsizes hfits i.data.timestamp
  intro b hb r hr j hj
  cases h with
  | touch records _ content all =>
    have hpointers : OfPointers records := htouches records (by simp [touches?, content])
    rw [all b hb] at hr
    have htype := hpointers r hr
    obtain ⟨time, content⟩ := r
    cases content with
    | pointer event => cases hj
    | _ => cases htype
  | snapshot s farewells reports content ends tells =>
    rcases List.mem_append.mp hb with hb | hb
    · rcases ends with rfl | ⟨-, rfl⟩
      · cases hb
      · rw [List.mem_singleton.mp hb] at hr
        rw [List.mem_singleton.mp hr] at hj
        cases hj
    · rcases tells with rfl | ⟨report, ⟨-, rs, hrs, hrecords⟩, rfl⟩
      · cases hb
      · rw [List.mem_singleton.mp hb, hrecords] at hr
        rcases List.mem_append.mp hr with hr | hr
        · rcases hrs with rfl | ⟨screen, rfl⟩
          · cases hr
          · simp only [ScreenHistory.announcement, List.mem_cons, List.not_mem_nil, or_false] at hr
            rcases hr with rfl | rfl <;> cases hj
        · rw [List.mem_singleton.mp hr] at hj
          exact hfull j hj

/-! ## Recordings that draw by some mappers -/

/-- What has the same nodes shows the same windows. -/
theorem Item.Pictures.congr {mappers : MapperTable} {i i' : Item} {windows : List Window}
    (h : i.Pictures mappers windows) (hnodes : i'.nodes = i.nodes) :
    i'.Pictures mappers windows := by
  obtain ⟨screen, next, heq⟩ := h
  exact ⟨screen, next, hnodes.trans heq⟩

/-- The pictures that an item shows are of a size that the mappers show. -/
theorem Item.Pictures.modest {limit : Int} {mappers : MapperTable} {i : Item}
    {windows : List Window} (h : i.Pictures mappers windows)
    (hmappers : ∀ className, (mappers.mapper className).Modest limit) :
    ∀ w ∈ i.wireframes, w.Modest limit := by
  obtain ⟨screen, next, hnodes⟩ := h
  unfold wireframes
  rw [hnodes]
  exact Node.numberAll_modest (View.walkAll_modest hmappers screen _) next

namespace Queue

/-- What an item shows is what some mappers make of some windows. Items are never taken off the
books, so this is about all that were ever accepted. -/
def Pictured (mappers : MapperTable) (q : Queue) : Prop :=
  ∀ id item, q.item? id = some item → ∃ windows, item.Pictures mappers windows

/-- Where touches joined the queue at most, its items show what they showed. -/
theorem Pictured.joined {mappers : MapperTable} {q q' : Queue} (h : q.Pictured mappers)
    (hjoined : q.Joined q') : q'.Pictured mappers := by
  intro id item hitem
  rcases hjoined.joins hitem with hold | ⟨records, hcontent⟩
  · exact h id item hold
  · refine ⟨[], {}, 0, ?_⟩
    unfold Item.nodes
    rw [hcontent]
    rfl

/-- The touches that an item is were accepted. -/
theorem mem_touches {q : Queue} {id : ItemId} {item : Item} (h : q.item? id = some item)
    {records : List (Record Slot)} (htouches : records ∈ item.touches?) : records ∈ q.touches := by
  have hmem : item ∈ q.items.toList := by
    obtain ⟨hlt, rfl⟩ := Array.getElem?_eq_some_iff.mp h
    exact Array.mem_toList_iff.mpr (Array.getElem_mem hlt)
  exact List.mem_filterMap.mpr ⟨item.brief, List.mem_map_of_mem hmem, htouches⟩

end Queue

/-- The items of a recording are as its mappers and pointers make them. -/
structure Recording.Drawn (mappers : MapperTable) (r : Recording) : Prop where
  /-- Snapshots show what the mappers make of some windows. -/
  pictured : r.station.queue.Pictured mappers
  /-- Touches tell of pointers. -/
  touched : ∀ records ∈ r.touches, OfPointers records

namespace Chronicle

open Station

variable {c k : Chronicle} {settings : Settings}

/-! ## Pictures over a run -/

/-- A deed that is one step leaves the settings alone. -/
theorem settings_doing (c : Chronicle) {d : Deed} (single : Single d) :
    (c.doing d).recording.settings = c.recording.settings := by
  cases d with
  | snapshot w => exact absurd rfl (single.1 w)
  | complete completion => exact absurd rfl (single.2 completion)
  | shutdown =>
    change (c.recording.shutdown).2.settings = _
    unfold Recording.shutdown
    split <;> rfl
  | _ => rfl

/-- **What a step does to the pictures.** Slots are handed out at most, or one is filled with a
picture that was encoded within the limit. -/
theorem Step.pictures (h : Step c k) :
    k.recording.settings = c.recording.settings ∧
      ((∀ slot, k.station.output.gallery.picture? slot
          = c.station.output.gallery.picture? slot) ∨
        ∃ (slot : Slot) (bitmap : Bitmap) (picture : EncodedPicture),
          bitmap.encode c.recording.settings.imageByteLimit = .encoded picture ∧
          k.station.output.gallery = (c.station.output.gallery.fill slot picture).1) := by
  have hidle : Idle c k → ∀ slot, k.station.output.gallery.picture? slot
      = c.station.output.gallery.picture? slot :=
    fun hidle slot => congrArg (·.picture? slot) hidle.gallery
  have hsame : k.station.output = c.station.output →
      ∀ slot, k.station.output.gallery.picture? slot = c.station.output.gallery.picture? slot :=
    fun houtput slot => congrArg (·.gallery.picture? slot) houtput
  cases h with
  | deed d single => exact ⟨c.settings_doing single, .inl (hidle (c.idle_doing single))⟩
  | refuse screen s refused => exact ⟨rfl, .inl (hidle (idle_refuse refused))⟩
  | accept screen sketches id s accepted =>
    obtain ⟨houtput, -⟩ := addSnapshot_frame accepted
    refine ⟨rfl, .inl fun slot => (Gallery.picture?_extend _ _ slot).trans ?_⟩
    exact congrArg (·.gallery.picture? slot) houtput
  | ask before after walk copy rest walks copies =>
    obtain ⟨-, -, houtput, -⟩ :=
      c.asking_frame copy (before ++ { walk with copies := rest } :: after)
    refine ⟨?_, .inl (hsame houtput)⟩
    unfold asking
    split
    next result _ => cases result <;> rfl
    next => rfl
  | answer index copy result held =>
    obtain ⟨-, -, houtput, -⟩ := c.answering_frame result held
    refine ⟨?_, .inl (hsame houtput)⟩
    cases result <;> rfl
  | encode index copy bitmap copied =>
    unfold Chronicle.encoding
    dsimp only
    split
    next picture hencoded => exact ⟨rfl, .inr ⟨copy.slot, bitmap, picture, hencoded, rfl⟩⟩
    next => exact ⟨rfl, .inl fun _ => rfl⟩
    next => exact ⟨rfl, .inl fun _ => rfl⟩
  | release before after copy releasing =>
    exact ⟨rfl, .inl (hsame (c.freeing_frame releasing).2.2)⟩
  | attach before after walk walks copies => exact ⟨rfl, .inl fun _ => rfl⟩
  | request => exact ⟨rfl, .inl (hidle (idle_request c))⟩
  | move busy s moves => exact ⟨rfl, .inl (hidle (idle_move moves))⟩
  | deliver now id item busy head ready => exact ⟨rfl, .inl (hidle (c.idle_delivering id item))⟩

/-- **A slot that is filled never changes.** -/
theorem picture?_of_reaches (hrun : Reaches c k) {slot : Slot} {picture : EncodedPicture}
    (h : c.station.output.gallery.picture? slot = some picture) :
    k.station.output.gallery.picture? slot = some picture := by
  induction hrun with
  | refl => exact h
  | tail _ hstep ih =>
    rcases hstep.pictures.2 with hsame | ⟨other, bitmap, new, -, hfilled⟩
    · exact (hsame slot).trans ih
    · rw [hfilled]
      exact Gallery.picture?_fill_of_some ih

/-- The pictures that are there were encoded within the limit. -/
theorem fits_of_reaches (hrun : Reaches (start settings) c) :
    c.recording.settings = settings ∧ c.station.output.gallery.Fits settings.imageByteLimit := by
  induction hrun with
  | refl =>
    have hempty : ∀ slot, (start settings).station.output.gallery.picture? slot = none :=
      fun _ => rfl
    exact ⟨rfl, fun slot p hp => nomatch (hempty slot).symm.trans hp⟩
  | tail _ hstep ih =>
    obtain ⟨hsettings, hfits⟩ := ih
    obtain ⟨hkept, hpictures⟩ := hstep.pictures
    refine ⟨hkept.trans hsettings, fun slot p hp => ?_⟩
    rcases hpictures with hsame | ⟨other, bitmap, new, hencoded, hfilled⟩
    · exact hfits slot p (hsame slot ▸ hp)
    · rw [hfilled] at hp
      rcases Gallery.of_picture?_fill hp with hold | rfl
      · exact hfits slot p hold
      · exact Bitmap.fits_of_encode (hsettings ▸ hencoded)

/-- Nothing is done for a complete item any more. Walks and copies are about snapshots only. -/
theorem Sound.sealed_of_isReady (h : c.Sound) {id : ItemId} {item : Item}
    (hitem : c.station.queue.item? id = some item) (hready : item.isReady = true) :
    c.Sealed id := by
  cases hcontent : item.content with
  | snapshot snapshot => exact (h.sealed hitem hcontent hready).1
  | touch records =>
    have hother : ∀ {i : ItemId} {other : Item} {snapshot : Snapshot},
        c.station.queue.item? i = some other → other.content = .snapshot snapshot → i ≠ id := by
      rintro i other snapshot hfound hsnapshot rfl
      cases hitem.symm.trans hfound
      cases hcontent.symm.trans hsnapshot
    refine ⟨fun walk hwalk => ?_, fun copy hcopy => ?_, item, hitem⟩
    · obtain ⟨other, hfound, hawaits⟩ := h.awaits walk hwalk
      obtain ⟨snapshot, hsnapshot⟩ := Item.snapshot_of_awaitsNodes hawaits
      exact hother hfound hsnapshot
    · have hasked := h.balanced.symm.subset (List.mem_append_left _ hcopy)
      obtain ⟨other, snapshot, hfound, hsnapshot⟩ := h.asked copy hasked
      exact hother hfound hsnapshot

/-- **What was written has images within the limits only**, if all items that were accepted by some
later time were drawn by mappers that keep them. -/
theorem images_of_reaches {mappers : MapperTable}
    (hmappers : ∀ className, (mappers.mapper className).Modest settings.imageSideLimit)
    (hrun : Reaches (start settings) c) :
    ∀ k, Reaches c k → k.recording.Drawn mappers →
      ∀ j ∈ c.recording.images, j.KeepsLimits settings := by
  induction hrun with
  | refl => exact fun k _ _ j hj => (List.not_mem_nil hj).elim
  | @tail c d hbefore hstep ih =>
    intro k hlater hdrawn
    have hold := ih k (hlater.head hstep) hdrawn
    have hsame : d.station.output.storage.written = c.station.output.storage.written →
        ∀ j ∈ d.recording.images, j.KeepsLimits settings := by
      intro hwritten
      have himages : d.recording.images = c.recording.images := by
        unfold Recording.images Recording.records Storage.records
        exact congrArg (fun written : Array Written =>
          (written.toList.flatMap fun w => w.resolved.records).flatMap Record.images) hwritten
      rw [himages]
      exact hold
    rcases hstep.effect with ⟨-, hquiet⟩ | ⟨-, -, -, houtput⟩ | ⟨now, id, item, head, ready, rfl⟩
    · exact hsame hquiet.written
    · exact hsame (congrArg (·.storage.written) houtput)
    · obtain ⟨bs, history, -, hadds, hwrites, -⟩ := c.delivering_cases id item
      have hsound := Sound.of_reaches hbefore
      have hitem := (Queue.head?_eq_some_iff.mp head).2
      have hthere : k.station.queue.item? id = some item := by
        have hsealed := hsound.sealed_of_isReady hitem (Item.isReady_of_verdict ready)
        exact (hsealed.run hsound (hlater.head hstep)).2.item.trans hitem
      obtain ⟨windows, hpictures⟩ := hdrawn.pictured id item hthere
      have hnew := hwrites.images (hpictures.modest hmappers)
        (fun records hrecords => hdrawn.touched records (Queue.mem_touches hthere hrecords))
        (fits_of_reaches hbefore).2
      intro j hj
      obtain ⟨r, hr, hj⟩ := List.mem_flatMap.mp hj
      change r ∈ (c.delivering id item).station.output.storage.records at hr
      rw [hadds.records] at hr
      rcases List.mem_append.mp hr with hr | hr
      · exact hold j (List.mem_flatMap.mpr ⟨r, hr, hj⟩)
      · obtain ⟨r', hr', rfl⟩ := List.mem_map.mp hr
        obtain ⟨b, hb, hr'⟩ := List.mem_flatMap.mp hr'
        exact hnew b hb r' hr' j hj

end Chronicle

/-! ## Runs of a recording -/

/-- A deed of an application that reports touches of pointers only and leaves the mappers as they
are. -/
def Deed.Keeps (mappers : MapperTable) : Deed → Prop
  | .surround other => other.mappers = mappers
  | d => d.OfPointers

/-- Such an application reports touches of pointers only. -/
theorem Deed.Keeps.ofPointers {mappers : MapperTable} {d : Deed} (h : d.Keeps mappers) :
    d.OfPointers := by
  cases d <;> first | exact h | trivial

namespace Station

/-- Touches that were accepted tell of pointers, and so do those that the host is going to report.
-/
structure Pointed (s : Station Output) : Prop where
  /-- Those that were accepted. -/
  accepted : ∀ records ∈ s.queue.touches, OfPointers records
  /-- Those that the host is going to report. -/
  foreseen : s.output.storage.Foresees OfPointers

namespace Pointed

variable {s t : Station Output}

/-- Nothing changes where the items and the output stay. -/
theorem congr (h : s.Pointed) (hqueue : t.queue.items = s.queue.items)
    (houtput : t.output = s.output) : t.Pointed := by
  refine ⟨?_, houtput ▸ h.foreseen⟩
  have htouches : t.queue.touches = s.queue.touches := by
    unfold Queue.touches Queue.briefs
    rw [hqueue]
  exact htouches ▸ h.accepted

/-- Further touches may be accepted if they tell of pointers. -/
theorem joins (h : s.Pointed) (hjoins : Joins OfPointers s t)
    (hforeseen : t.output.storage.Foresees OfPointers) : t.Pointed :=
  ⟨hjoins.accepted h.accepted, hforeseen⟩

/-- A deed that is about touches of pointers, if it is about touches, accepts no others. -/
theorem perform {r : Recording} (h : r.station.Pointed) {d : Deed} (hd : d.OfPointers) :
    (r.perform d).station.Pointed := by
  refine acts_induction (P := Pointed) ?_ h (r.perform_involves d fun _ ha => ha)
  intro a s ha hs
  obtain ⟨htouch, hhost, -⟩ := ha.eq
  have hforeseen : (s.act a).output.storage.Foresees OfPointers := by
    refine hs.foreseen.act fun script heq => ?_
    cases hhost script heq
    exact hd
  by_cases hclock : ∃ millis, a = .setClock millis
  · obtain ⟨millis, rfl⟩ := hclock
    exact ⟨hs.accepted, hs.foreseen⟩
  · have hpointers : ∀ records, a = .recordTouches records → OfPointers records := by
      intro records heq
      cases htouch records heq
      exact hd
    exact hs.joins (.act s (fun millis heq => hclock ⟨millis, heq⟩) hpointers) hforeseen

/-- While the worker does one thing, only touches of pointers are accepted. -/
theorem work (h : s.Pointed) (hstep : s.step? engine = some t) : t.Pointed := by
  refine work_induction (P := Pointed) ?_ ?_ h hstep
  · intro u v hu _ hqueue _ houtput _
    exact hu.congr (congrArg Queue.items hqueue) houtput
  · intro u v hturn hu
    have htaken : u.takeHead.Pointed := hu.congr rfl rfl
    cases hturn with
    | stale id item head verdict => exact htaken.congr rfl rfl
    | invalid id item head verdict => exact htaken.congr rfl rfl
    | ready id item head verdict =>
      obtain ⟨bs, history, hadds, -⟩ := process_writes u.takeHead item
      have hprocessed := htaken.joins (Joins.process htaken.foreseen item)
        fun turn hmem => htaken.foreseen turn (hadds.script.mem hmem)
      unfold afterHandling
      split <;> exact hprocessed.congr rfl rfl

end Pointed

end Station

namespace Recording

variable {r : Recording} {mappers : MapperTable}

/-- A deed that leaves the mappers as they are draws by them. -/
theorem pictured_perform (hmappers : r.mappers = mappers) (h : r.station.queue.Pictured mappers)
    (d : Deed) : (r.perform d).station.queue.Pictured mappers := by
  intro id item hitem
  by_cases hsnapshot : ∃ w, d = .snapshot w
  · obtain ⟨w, rfl⟩ := hsnapshot
    rcases r.takeSnapshot_filled w hitem with ⟨old, hold, hnodes⟩ | ⟨watcher, -, hpictures⟩
    · obtain ⟨windows, hpictures⟩ := h id old hold
      exact ⟨windows, hpictures.congr hnodes⟩
    · exact ⟨_, hmappers ▸ hpictures⟩
  · rcases r.perform_keeps fun w heq => hsnapshot ⟨w, heq⟩ with ⟨c, -, hsame⟩ | hjoined
    · obtain ⟨old, hold, hnodes⟩ := hsame.before hitem
      obtain ⟨windows, hpictures⟩ := h id old hold
      exact ⟨windows, hpictures.congr (by rw [item.nodes_eq, old.nodes_eq, hnodes])⟩
    · exact h.joined hjoined id item hitem

/-- A deed keeps the mappers if it is allowed to be done. -/
theorem mappers_perform (hmappers : r.mappers = mappers) {d : Deed} (hd : d.Keeps mappers) :
    (r.perform d).mappers = mappers := by
  by_cases hbackground : d.Background
  · exact (r.perform_unmoved hbackground).mappers.trans hmappers
  · cases d with
    | snapshot w => exact (r.takeSnapshot_unmoved w).mappers.trans hmappers
    | surround other => exact hd
    | _ => exact absurd trivial hbackground

/-- **A recording draws by its mappers** as long as they stay. -/
theorem drawn_of_reaches {first : Recording} (hmappers : first.mappers = mappers)
    (hdrawn : first.Drawn mappers) (hforeseen : first.station.output.storage.Foresees OfPointers)
    (hrun : Reaches (Deed.Keeps mappers) first r) :
    r.mappers = mappers ∧ r.Drawn mappers ∧ r.station.Pointed := by
  induction hrun with
  | refl => exact ⟨hmappers, hdrawn, hdrawn.touched, hforeseen⟩
  | tail _ hlast ih =>
    obtain ⟨hmappers, hdrawn, hpointed⟩ := ih
    cases hlast with
    | deed d allowed =>
      have hperformed := hpointed.perform allowed.ofPointers
      exact ⟨mappers_perform hmappers allowed,
        ⟨pictured_perform hmappers hdrawn.pictured d, hperformed.accepted⟩, hperformed⟩
    | work s works =>
      have hworked := hpointed.work works
      exact ⟨hmappers,
        ⟨hdrawn.pictured.joined (Station.work_joined works), hworked.accepted⟩, hworked⟩

/-- A recording that was started is a new one with its worker started. -/
theorem eq_of_start {settings : Settings} {first : Recording} (h : start settings = .ok first) :
    first = (new settings).startWorker.note .recordingStarted := by
  unfold start Settings.validate at h
  split at h
  · cases h
  · cases h
    rfl

/-- **All images that are written keep the limits.** In every run of a recording that was started
with settings that pass the checks, as long as touches tell of pointers and the mappers stay, every
image in a full snapshot that was written has sides from one up to the limit, and either has no
picture and says so, or has one whose text stands for a picture file that is not too large; and a
slot of the gallery that is filled never changes. Nothing is assumed of the views, of the copies of
their pixels, or of when and in which order these end.

The same holds when the worker goes on in the middle of a snapshot attempt, that is for all
chronicles, as long as the items that were accepted are as the mappers and pointers make them. -/
theorem written_images_keep_limits {settings : Settings} {first : Recording}
    (hstart : start settings = .ok first) :
    (∀ r, Reaches (Deed.Keeps first.mappers) first r →
      (∀ j ∈ r.images, j.KeepsLimits settings) ∧
      ∀ t, Reaches (Deed.Keeps first.mappers) r t → ∀ slot picture,
        r.gallery.picture? slot = some picture → t.gallery.picture? slot = some picture) ∧
    ∀ c, Chronicle.Reaches { recording := first } c →
      (c.recording.Drawn first.mappers → ∀ j ∈ c.recording.images, j.KeepsLimits settings) ∧
      ∀ k, Chronicle.Reaches c k → ∀ slot picture,
        c.recording.gallery.picture? slot = some picture →
          k.recording.gallery.picture? slot = some picture := by
  obtain rfl := eq_of_start hstart
  let first := (new settings).startWorker.note .recordingStarted
  have hmappers : ∀ className, (first.mappers.mapper className).Modest settings.imageSideLimit :=
    MapperTable.builtin_modest
  have hstarted : Chronicle.Reaches (.start settings) { recording := first } :=
    (Relation.ReflTransGen.single (.deed (.start settings) .startWorker ⟨nofun, nofun⟩)).tail
      (.deed _ (.note .recordingStarted) ⟨nofun, nofun⟩)
  have hchronicle : ∀ c, Chronicle.Reaches { recording := first } c →
      c.recording.Drawn first.mappers → ∀ j ∈ c.recording.images, j.KeepsLimits settings :=
    fun c hc => Chronicle.images_of_reaches hmappers (hstarted.trans hc) c .refl
  refine ⟨fun r hrun => ⟨?_, fun t hlater slot picture hfilled => ?_⟩, fun c hc =>
    ⟨hchronicle c hc, fun k hk slot picture => Chronicle.picture?_of_reaches hk⟩⟩
  · obtain ⟨c, hc, rfl⟩ := Chronicle.reaches_recording hrun
    have hnone : ∀ id, first.station.queue.item? id = none := fun _ => rfl
    have hscript : first.station.output.storage.script = [] := rfl
    have hblank : first.Drawn first.mappers :=
      ⟨fun id _ h => (nomatch (hnone id).symm.trans h), fun _ h => (List.not_mem_nil h).elim⟩
    have hforeseen : first.station.output.storage.Foresees OfPointers := by
      unfold Storage.Foresees
      rw [hscript]
      exact nofun
    exact hchronicle c hc (drawn_of_reaches rfl hblank hforeseen hrun).2.1
  · obtain ⟨k, hk, rfl⟩ := Chronicle.reaches_recording hlater
    exact Chronicle.picture?_of_reaches hk hfilled

/-- A recording that was started. -/
def begun : Recording := (new {}).startWorker.note .recordingStarted

/-- The window that is watched shows a picture, and a copy of its pixels ends at once, with one pixel. -/
def onePicture : Recording :=
  let view : View :=
    { id := 7, className := "android.widget.ImageView", drawable := true
      bounds := { width := 10, height := 20 } }
  { oneWindow with
    windows := #[some { id := 1, view := some view }]
    answers := [(7, .copied ⟨1, 1, ⟨#[0, 128, 255, 255]⟩⟩)] }

/-- A snapshot of the picture waits for the worker, and its pixel has been encoded. -/
def pictureEncoded : Recording :=
  (((begun.perform (.activate (some ⟨"a", "s", "v"⟩))).perform (.surround onePicture)).perform
    (.snapshot 0)).perform (.complete (.encoding 0))

/-- This can come about. -/
theorem reaches_pictureEncoded : Reaches (Deed.Keeps begun.mappers) begun pictureEncoded :=
  (((Relation.ReflTransGen.single (.deed begun (.activate (some ⟨"a", "s", "v"⟩)) trivial)).tail
    (.deed _ (.surround onePicture) rfl)).tail (.deed _ (.snapshot 0) trivial)).tail
    (.deed _ (.complete (.encoding 0)) trivial)

/-- The worker does two things. -/
theorem reaches_two_turns {ok : Deed → Prop} {first r : Recording} {t : Station Output}
    (hrun : Reaches ok first r)
    (hworks : (r.station.step? Station.engine).bind (·.step? Station.engine) = some t) :
    Reaches ok first { r with station := t } := by
  obtain ⟨s, hfirst, hsecond⟩ := Option.bind_eq_some_iff.mp hworks
  exact (hrun.tail (.work r s hfirst)).tail (.work { r with station := s } t hsecond)

/-- The snapshot is written with an image whose text is that of a picture file. -/
theorem written_images_keep_limits_encoded :
    ∃ first r, start {} = .ok first ∧ Reaches (Deed.Keeps first.mappers) first r ∧
      r.images.map (fun j => (j.getInt "height", j.getString "mimeType")) = [(20, "image/webp")] ∧
      ∀ j ∈ r.images, j.KeepsLimits {} := by
  have hstart : start {} = .ok begun := rfl
  have hworks : ((pictureEncoded.station.step? Station.engine).bind (·.step? Station.engine)).map
      (fun t => (Recording.images { pictureEncoded with station := t }).map
        fun j => (j.getInt "height", j.getString "mimeType")) = some [(20, "image/webp")] := by
    decide +kernel
  obtain ⟨t, ht, himages⟩ := Option.map_eq_some_iff.mp hworks
  have hrun := reaches_two_turns reaches_pictureEncoded ht
  exact ⟨begun, _, hstart, hrun, himages, ((written_images_keep_limits hstart).1 _ hrun).1⟩

end Recording

end SessionReplay
