import SessionReplay.Recording.Basic

/-!
# Pictures of a recording

For every picture of a snapshot a copy of pixels is asked for. A copy that fails leaves the slot
empty. Copied pixels are encoded later, one after the other; a bitmap that is refused leaves its
slot empty too. In each of these cases the snapshot has one picture less to wait for. Encoding that
breaks off does not come back, and its snapshot waits until it is too old. Copies and encodings end
in any order, also while further copies are being asked for.
-/

namespace SessionReplay.Recording

/-- A copy has ended. -/
def endCopy (r : Recording) (c : Copy) : CopyResult → Recording
  | .failed code => (r.note (.copyFailed c.source.view code)).mapStation (·.finishJob c.item)
  | .copied bitmap => { r with encoding := r.encoding ++ [(c, bitmap)] }

/-- Asks for a copy, which may end at once. -/
def ask (r : Recording) (c : Copy) : Recording :=
  match r.answers.lookup c.source.view with
  | some result => r.endCopy c result
  | none => { r with held := r.held ++ [c] }

/-- Ends a copy that has not ended; whether there is one at the index is the first result. -/
def answerCopy (r : Recording) (index : Nat) (result : CopyResult) : Bool × Recording :=
  match r.held[index]? with
  | none => (false, r)
  | some c => (true, { r with held := r.held.eraseIdx index }.endCopy c result)

/-- Encodes copied pixels. -/
def encode (r : Recording) (c : Copy) (bitmap : Bitmap) : Recording :=
  match bitmap.encode r.settings.imageByteLimit with
  | .encoded picture =>
    (r.mapGallery fun g => (g.fill c.slot picture).1).mapStation (·.finishJob c.item)
  | .refused error =>
    (r.note (.pictureRefused error c.source.view)).mapStation (·.finishJob c.item)
  | .broken => r

/-- Encodes the copied pixels at an index. -/
def encodeAt (r : Recording) (index : Nat) : Recording :=
  match r.encoding[index]? with
  | none => r
  | some (c, bitmap) => { r with encoding := r.encoding.eraseIdx index }.encode c bitmap

/-- Something ends on its own. -/
def complete (r : Recording) : Completion → Recording
  | .copy index result => (r.answerCopy index result).2
  | .encoding index => r.encodeAt index

/-- Asks for a copy while other things end on their own. -/
def capture (r : Recording) (c : Copy) : Recording :=
  let r := r.ask c
  match r.interludes with
  | [] => r
  | ended :: later => ended.foldl complete { r with interludes := later }

/-- Encodes everything that has been copied. -/
def encodeAll (r : Recording) : Recording :=
  r.encoding.foldl (fun r (c, bitmap) => r.encode c bitmap) { r with encoding := [] }

/-! ## Copies for a sketch -/

/-- The copies for the pictures of some sketches, for slots from `next` on, that belong to an item. -/
def copies (sketches : List (Node CopySource)) (next : Slot) (item : ItemId) : List Copy :=
  ((Node.flattenAll sketches).filterMap Wireframe.picture?).mapIdx fun i source =>
    { source := source, slot := next + i, item := item }

/-- Tells an item of a copy and asks for it. -/
def requestCopy (r : Recording) (c : Copy) : Recording :=
  (r.mapStation (·.startJob c.item)).ask c

/-- Tells an item of a copy and asks for it while other things end on their own. -/
def requestNext (r : Recording) (c : Copy) : Recording :=
  (r.mapStation (·.startJob c.item)).capture c

end SessionReplay.Recording
