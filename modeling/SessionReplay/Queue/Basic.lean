import SessionReplay.Queue.Item

/-!
# The queue

Items wait in the order in which they were accepted. An item is known by its id and can change while
it waits, so the queue holds ids and the items are kept beside it. A full queue refuses offers.
-/

namespace SessionReplay

/-- Items and the order in which they wait. -/
structure Queue where
  /-- How old an item may become, in milliseconds. -/
  maxItemDelay : Int
  /-- How many items may wait. -/
  capacity : Nat
  /-- Every item by its id, whether it waits or not. -/
  items : Array Item := #[]
  /-- The ids of the items that wait, the oldest first. -/
  waiting : List ItemId := []

/-- Why an offer is refused. -/
inductive OfferError where
  /-- No more than `capacity` items may wait. -/
  | full (capacity : Nat)
deriving DecidableEq, Repr

/-- Why an offer is refused, as it is shown. -/
def OfferError.message : OfferError → String
  | .full capacity => "Recorded data queue is full (" ++ toString capacity ++ " items)"

namespace Queue

/-- How many items wait. -/
def length (q : Queue) : Nat := q.waiting.length

/-- Whether no item waits. -/
def isEmpty (q : Queue) : Bool := q.waiting.isEmpty

/-- The item of an id. -/
def item? (q : Queue) (id : ItemId) : Option Item := q.items[id]?

/-- The item at the head. -/
def head? (q : Queue) : Option (ItemId × Item) :=
  q.waiting.head?.bind fun id => (q.item? id).map (id, ·)

/-- The id that the next new item gets. -/
def nextId (q : Queue) : ItemId := q.items.size

/-- The queue with a new item, which does not wait yet. -/
def add (q : Queue) (i : Item) : Queue :=
  { q with items := q.items.push i }

/-- The queue with an item changed. -/
def modify (q : Queue) (id : ItemId) (f : Item → Item) : Queue :=
  { q with items := q.items.modify id f }

/-- Whether another item may wait. -/
def hasRoom (q : Queue) : Bool :=
  q.waiting.length < q.capacity

/-- Lets an item wait behind the others. -/
def append (q : Queue) (id : ItemId) : Queue :=
  { q with waiting := q.waiting ++ [id] }

/-- Takes the head away. -/
def dropHead (q : Queue) : Queue :=
  { q with waiting := q.waiting.tail }

/-- Offers an item. -/
def offer (q : Queue) (id : ItemId) : Except OfferError Queue :=
  if q.hasRoom then .ok (q.append id) else .error (.full q.capacity)

end Queue

end SessionReplay
