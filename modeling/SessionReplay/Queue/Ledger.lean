import SessionReplay.Station.Worker

/-!
# A ledger of processed items

A processor that only lists what it is handed. It can be told to fail on some kinds of items, and to
answer touches with further touches of a later time, which it offers to the queue that is being
drained.
-/

namespace SessionReplay

/-- Touches that are offered in answer to touches. -/
structure Echo where
  /-- Touches from this time on are not answered. -/
  before : Int
  /-- How much later the answer is. -/
  delay : Int

/-- The items that were handed over, and what else is done with them. -/
structure Ledger where
  /-- The items, in order. -/
  entries : Array Item := #[]
  /-- Whether snapshots fail. -/
  failsSnapshots : Bool := false
  /-- Whether touches fail. -/
  failsTouches : Bool := false
  /-- How touches are answered. -/
  echo : Option Echo := none
  /-- Everything logged so far. -/
  log : Array Log.Event := #[]

namespace Ledger

/-- Whether an item fails. -/
def fails (l : Ledger) (item : Item) : Bool :=
  match item.content with
  | .snapshot _ => l.failsSnapshots
  | .touch _ => l.failsTouches

/-- Lists an item, unless it fails; whether it did is the second result. -/
def list (l : Ledger) (item : Item) : Ledger × Bool :=
  if l.fails item then (l, true) else ({ l with entries := l.entries.push item }, false)

/-- The view that answers belong to. -/
def echoView : ViewContext := ⟨"app", "session", "again"⟩

/-- The answer to an item, if there is one. -/
def answer? (l : Ledger) (item : Item) : Option Item :=
  match item.content, l.echo with
  | .touch _, some echo =>
    if item.data.timestamp < echo.before then
      let time := item.data.timestamp + echo.delay
      some
        { data := { timestamp := time, current := echoView }
          content := .touch [⟨time, .pointer {}⟩] }
    else none
  | _, _ => none

/-- The queue with a new item, if there is one and it fits. -/
def offerNew (q : Queue) : Option Item → Queue
  | none => q
  | some item =>
    match (q.add item).offer q.nextId with
    | .ok q => q
    | .error _ => q

/-- A bound on the answers that an item and its answers get in a drain at time `now`. Later and
later answers come to an end where touches are not answered any more, earlier and earlier ones where
touches are too old. -/
def echoes (l : Ledger) (now maxItemDelay : Int) (item : Item) : Nat :=
  match l.echo with
  | some echo =>
    if 0 < echo.delay then (echo.before - item.data.timestamp).toNat
    else (item.data.timestamp + maxItemDelay - now).toNat + 1
  | none => 0

/-- Listing as a processor. -/
def processor : Processor Ledger where
  handle item q l :=
    match l.list item with
    | (l, true) => ⟨q, l, true⟩
    | (l, false) => ⟨offerNew q (l.answer? item), l, false⟩
  note event l := { l with log := l.log.push event }
  budget now q l :=
    q.waiting.foldr (fun id n => ((q.item? id).map (l.echoes now q.maxItemDelay)).getD 0 + n) 0

/-- Listing as the work of a station's worker. -/
def engine : Engine Ledger where
  handle item s :=
    let (ledger, failed) := s.output.list item
    ({ s with output := ledger }, failed)
  budget _ := 0

end Ledger

end SessionReplay
