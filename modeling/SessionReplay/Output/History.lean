import SessionReplay.Queue.Item

/-!
# What a snapshot adds to the recording

A snapshot is written as records only as far as the player does not know it already. If the view has
changed, the earlier view ends. If the view or the screen has changed, the size of the screen and
the focus are written. All wireframes are written if the view or the screen has changed, if they
have not been written for a while, or if they differ from those of the snapshot before.
-/

namespace SessionReplay

/-- After how many milliseconds all wireframes are written again. -/
def fullSnapshotInterval : Int := 3000

/-- What is remembered of the snapshots so far. -/
structure ScreenHistory where
  /-- The wireframes of the last snapshot. -/
  wireframes : List (Wireframe Slot) := []
  /-- When all wireframes were written last. -/
  lastFull : Option Int := none
  /-- The screen of the last snapshot. -/
  screen : Option (Bounds × Orientation) := none

/-- What is to be done about a snapshot. -/
structure SnapshotPlan where
  /-- The end of the earlier view. -/
  farewell : Option (Batch Slot)
  /-- Whether the wireframes need not be written. -/
  unchanged : Bool
  /-- What is remembered from then on. -/
  history : ScreenHistory
  /-- The records of the snapshot itself. -/
  report : Option (Batch Slot)

namespace ScreenHistory

/-- Whether two lists of wireframes show the same, given the pictures that are there. -/
def sameWireframes (gallery : Gallery) (a b : List (Wireframe Slot)) : Bool :=
  a.map (·.map gallery.picture?) == b.map (·.map gallery.picture?)

/-- Whether all wireframes have not been written for a while, by a time of 64 bits. -/
def fullDue (h : ScreenHistory) (now : Int) : Bool :=
  match h.lastFull with
  | none => true
  | some last => fullSnapshotInterval ≤ elapsed last now

/-- The records that announce a view or a screen. -/
def announcement (now : Int) (screen : ScreenInfo) : List (Record Slot) :=
  let size := screen.bounds.normalize screen.density
  [⟨now, .screenSize size.width size.height none⟩, ⟨now, .focus true⟩]

/-- What is to be done about a snapshot with some wireframes; a snapshot without any is passed
over. -/
def plan? (h : ScreenHistory) (gallery : Gallery) (data : ContextData) (screen : ScreenInfo)
    (wireframes : List (Wireframe Slot)) : Option SnapshotPlan :=
  if wireframes.isEmpty then none
  else
    let now := data.timestamp
    let seen := (screen.bounds, screen.orientation)
    let viewChanged := data.previous != data.current
    let announced := viewChanged || h.screen != some seen
    let full := announced || h.fullDue now || !sameWireframes gallery h.wireframes wireframes
    let records := (if announced then announcement now screen else [])
      ++ (if full then [⟨now, .fullSnapshot wireframes⟩] else [])
    some
      { farewell :=
          if viewChanged && data.previous.isValid then some ⟨data.previous, [⟨now, .viewEnd⟩]⟩
          else none
        unchanged := !full
        history :=
          { wireframes := wireframes
            lastFull := if full then some now else h.lastFull
            screen := some seen }
        report := if records.isEmpty then none else some ⟨data.current, records⟩ }

end ScreenHistory

end SessionReplay
