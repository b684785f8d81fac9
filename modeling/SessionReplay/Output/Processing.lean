import SessionReplay.Output.History
import SessionReplay.Output.Storage
import SessionReplay.Station.Worker

/-!
# Processing items

Complete items are written: touches as they are, snapshots as far as they are news. The end of the
earlier view is written before anything is remembered of the snapshot, its own records afterwards,
so a failure of the first write leaves nothing behind and a failure of the second one leaves the
snapshot remembered.
-/

namespace SessionReplay

/-- What the worker writes to, and what it has to know for it. -/
structure Output where
  /-- What is remembered of the snapshots so far. -/
  history : ScreenHistory := {}
  /-- What was written. -/
  storage : Storage := {}
  /-- The pictures. -/
  gallery : Gallery := {}

namespace Station

/-- Logs several events. -/
def noteAll {σ : Type} (s : Station σ) (events : List Log.Event) : Station σ :=
  events.foldl note s

/-- Writes a batch and lets the host record touches meanwhile. Whether writing failed is the second
result. -/
def write (s : Station Output) (b : Batch Slot) : Station Output × Bool :=
  let (storage, turn, events) := s.output.storage.write s.output.gallery b
  let s := { s with output := { s.output with storage := storage } }.noteAll events
  let s := turn.touches.foldl (fun s records => (s.recordTouches records).2) s
  (s, turn.fault != .none)

/-- Writes a batch if there is one. -/
def write? (s : Station Output) : Option (Batch Slot) → Station Output × Bool
  | none => (s, false)
  | some b => s.write b

/-- Remembers a snapshot. -/
def remember (s : Station Output) (history : ScreenHistory) : Station Output :=
  { s with output := { s.output with history := history } }

/-- Carries out what is to be done about a snapshot. Whether that failed is the second result. -/
def carryOut (s : Station Output) (now : Int) (plan : SnapshotPlan) : Station Output × Bool :=
  match s.write? plan.farewell with
  | (s, true) => (s, true)
  | (s, false) =>
    let s := if plan.unchanged then s.note (.unchangedSnapshot now) else s
    (s.remember plan.history).write? plan.report

/-- Processes an item. Whether that failed is the second result. -/
def process (item : Item) (s : Station Output) : Station Output × Bool :=
  match item.content with
  | .touch records => s.write ⟨item.data.current, records⟩
  | .snapshot snapshot =>
    let wireframes := Node.flattenAll (snapshot.nodes.getD [])
    match s.output.history.plan? s.output.gallery item.data snapshot.screen wireframes with
    | none => (s, false)
    | some plan => s.carryOut item.data.timestamp plan

/-- The worker of a recording. -/
def engine : Engine Output where
  handle := process
  budget s := s.output.storage.budget

end Station

end SessionReplay
