import SessionReplay.Log.Event
import SessionReplay.Record.Json

/-!
# Storage

Batches of records are handed to a storage, which keeps them as they are at that moment, and then
the view is told that records were written for it. What the host does while a batch is written is
given by a script: a write or the message to the view can fail, and further touches can be recorded
meanwhile.
-/

namespace SessionReplay

/-- How a write goes wrong. -/
inductive WriteFault where
  /-- Not at all. -/
  | none
  /-- Nothing is kept. -/
  | write
  /-- The batch is kept, but the view is not told. -/
  | notify
deriving DecidableEq, Repr

/-- What the host does while a batch is written. -/
structure WriteTurn where
  /-- How the write goes wrong. -/
  fault : WriteFault := .none
  /-- Touches recorded meanwhile, batch by batch. -/
  touches : List (List (Record Slot)) := []

/-- A batch that was written. -/
structure Written where
  /-- The batch with the slots of its pictures. -/
  batch : Batch Slot
  /-- The batch with the pictures that were there when it was written. -/
  resolved : Batch Picture

/-- What was written, and what is going to happen. -/
structure Storage where
  /-- The batches, in the order in which they were written. -/
  written : Array Written := #[]
  /-- The views that were told, in order. -/
  notified : Array String := #[]
  /-- What the host does during the next writes; after that nothing. -/
  script : List WriteTurn := []
  /-- Whether every write is logged. -/
  logged : Bool := false

namespace Storage

/-- The bytes of a batch's written form. -/
def byteCount (b : Batch Picture) : Nat :=
  b.toJson.render.utf8ByteSize

/-- What is logged of a write that succeeds. -/
def events (s : Storage) (b : Batch Picture) : List Log.Event :=
  if s.logged then
    [.batchWritten b.context.view b.types (byteCount b) (s.written.size + 1),
      .batchSent b.context.view]
  else []

/-- Writes a batch. What the host did meanwhile and what was logged come with the storage. -/
def write (s : Storage) (gallery : Gallery) (b : Batch Slot) :
    Storage × WriteTurn × List Log.Event :=
  let turn := s.script.head?.getD {}
  let resolved := b.map gallery.picture?
  let kept : Storage :=
    { s with script := s.script.tail, written := s.written.push ⟨b, resolved⟩ }
  match turn.fault with
  | .write => ({ s with script := s.script.tail }, turn, [])
  | .notify => (kept, turn, [])
  | .none =>
    ({ kept with notified := kept.notified.push b.context.view }, turn, s.events resolved)

/-- How many batches of touches are still going to be recorded during writes. -/
def budget (s : Storage) : Nat :=
  s.script.foldr (fun turn n => turn.touches.length + n) 0

/-- Lets the next `count` writes fail, instead of those that were to fail before. -/
def failWrites (s : Storage) (count : Nat) : Storage :=
  { s with
    script := List.replicate count { fault := .write }
      ++ s.script.filter fun turn => turn.fault == .notify }

/-- Lets the messages to the views of the next `count` writes fail, instead of those that were to
fail before. -/
def failNotifications (s : Storage) (count : Nat) : Storage :=
  { s with
    script := (s.script.filter fun turn => turn.fault == .write)
      ++ List.replicate count { fault := .notify } }

end Storage

end SessionReplay
