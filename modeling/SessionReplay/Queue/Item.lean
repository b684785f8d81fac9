import SessionReplay.Context.View
import SessionReplay.Number.Elapsed
import SessionReplay.Screen.Node
import SessionReplay.Picture.Gallery
import SessionReplay.Record.Basic

/-!
# Queue items

What waits to be written: a snapshot of the screen, which is complete once its nodes are attached
and all pictures copied for it are there, or a batch of touches, which is complete from the start.
-/

namespace SessionReplay

/-- The name of an item. -/
abbrev ItemId := Nat

/-- A snapshot of the screen while it is being made. -/
structure Snapshot where
  /-- The screen at the time. -/
  screen : ScreenInfo
  /-- The nodes of the windows on the screen, once they are attached. -/
  nodes : Option (List (Node Slot)) := none
  /-- How many pictures are still being made. -/
  pendingJobs : Nat := 0

/-- What an item holds. -/
inductive ItemContent where
  /-- A snapshot. -/
  | snapshot (snapshot : Snapshot)
  /-- A batch of touches. -/
  | touch (records : List (Record Slot))

/-- An item: when and in which view it was made, and what it holds. -/
structure Item where
  /-- When and in which view it was made. -/
  data : ContextData
  /-- What it holds. -/
  content : ItemContent

/-- What became of an item at the head of the queue. -/
inductive Verdict where
  /-- It is too old to be written. -/
  | stale
  /-- It holds nothing. -/
  | invalid
  /-- It can be written. -/
  | ready
  /-- It is not complete yet. -/
  | blocked
deriving DecidableEq, Repr

namespace Item

/-- Whether the item holds something, as far as is known. -/
def isValid (i : Item) : Bool :=
  match i.content with
  | .snapshot s =>
    match s.nodes with
    | none => true
    | some nodes => !nodes.isEmpty
  | .touch records => !records.isEmpty

/-- Whether the item is complete. -/
def isReady (i : Item) : Bool :=
  match i.content with
  | .snapshot s => s.nodes.isSome && s.pendingJobs == 0
  | .touch _ => true

/-- Whether the item is older than `maxDelay`, by an age of 64 bits. -/
def isTooOld (i : Item) (now maxDelay : Int) : Bool :=
  maxDelay < elapsed i.data.timestamp now

/-- What is to be done with the item at the head of the queue. Age counts before everything else,
and an item that holds nothing need not be complete. -/
def verdict (i : Item) (now maxDelay : Int) : Verdict :=
  if i.isTooOld now maxDelay then .stale
  else if !i.isValid then .invalid
  else if i.isReady then .ready
  else .blocked

/-- The item with its snapshot, if it holds one, replaced. -/
def mapSnapshot (f : Snapshot → Snapshot) (i : Item) : Item :=
  match i.content with
  | .snapshot s => { i with content := .snapshot (f s) }
  | .touch _ => i

/-- How many pictures are still being made. -/
def pendingJobs (i : Item) : Nat :=
  match i.content with
  | .snapshot s => s.pendingJobs
  | .touch _ => 0

/-- One more picture is being made. -/
def startJob : Item → Item :=
  mapSnapshot fun s => { s with pendingJobs := s.pendingJobs + 1 }

/-- One picture less is being made; below zero there is nothing. -/
def finishJob : Item → Item :=
  mapSnapshot fun s => { s with pendingJobs := s.pendingJobs - 1 }

/-- Whether the nodes of a snapshot are still to be attached. -/
def awaitsNodes (i : Item) : Bool :=
  match i.content with
  | .snapshot s => s.nodes.isNone
  | .touch _ => false

/-- Attaches the nodes of a snapshot. Nodes that are there stay. -/
def attachNodes (nodes : List (Node Slot)) : Item → Item :=
  mapSnapshot fun s => if s.nodes.isNone then { s with nodes := some nodes } else s

/-- The nodes of a snapshot, none before they are attached. -/
def nodes (i : Item) : List (Node Slot) :=
  match i.content with
  | .snapshot s => s.nodes.getD []
  | .touch _ => []

end Item

end SessionReplay
