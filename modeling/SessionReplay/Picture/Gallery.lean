import SessionReplay.Picture.Encoding

/-!
# The gallery

A picture is recorded before its pixels are there. Its wireframe points to a slot of the gallery,
which is filled at most once, when the pixels have been copied and encoded. Copies of a wireframe
share the slot.
-/

namespace SessionReplay

/-- A place for a picture in the gallery. -/
abbrev Slot := Nat

/-- The slots handed out so far, which are those before `next`, with the pictures that are there. -/
structure Gallery where
  /-- The slot that will be handed out next. -/
  next : Slot := 0
  /-- The picture in a slot, if it is there. -/
  picture? : Slot → Option EncodedPicture := fun _ => none
deriving Inhabited

namespace Gallery

/-- Hands out some empty slots. -/
def extend (g : Gallery) (count : Nat) : Gallery :=
  { g with next := g.next + count }

/-- Puts a picture into an empty slot. A slot that has its picture keeps it; whether the picture was
taken is the second result. -/
def fill (g : Gallery) (s : Slot) (p : EncodedPicture) : Gallery × Bool :=
  match g.picture? s with
  | some _ => (g, false)
  | none => ({ g with picture? := fun t => if t = s then some p else g.picture? t }, true)

end Gallery

end SessionReplay
