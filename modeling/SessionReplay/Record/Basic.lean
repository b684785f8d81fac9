import SessionReplay.Record.Wireframe
import SessionReplay.Context.View

/-!
# Records

A recording is a sequence of records: the size of the screen, the focus, all wireframes of a screen,
touches, and the end of a view. Records are written in batches, each for one view.
-/

namespace SessionReplay

/-- What a pointer did. -/
inductive PointerAction where
  /-- It touched the screen. -/
  | down
  /-- It left the screen. -/
  | up
  /-- It moved. -/
  | move
deriving DecidableEq, Repr, Inhabited

/-- What kind of pointer it was. -/
inductive PointerKind where
  /-- A finger. -/
  | touch
  /-- A mouse. -/
  | mouse
  /-- A pen. -/
  | pen
deriving DecidableEq, Repr, Inhabited

/-- One thing that a pointer did. -/
structure PointerEvent where
  /-- What it did. -/
  action : PointerAction := .down
  /-- What kind of pointer it was. -/
  kind : PointerKind := .touch
  /-- Which pointer of its kind it was. -/
  pointer : Int := 0
  /-- Distance from the left. -/
  x : Int := 0
  /-- Distance from the top. -/
  y : Int := 0
deriving DecidableEq, Repr, Inhabited

/-- What a record tells, with pictures given as `ι`. -/
inductive RecordContent (ι : Type) where
  /-- The size of the screen, with an address if there is one. -/
  | screenSize (width height : Int) (address : Option String)
  /-- Whether the view has the focus. -/
  | focus (hasFocus : Bool)
  /-- The view has ended. -/
  | viewEnd
  /-- Everything on the screen. -/
  | fullSnapshot (wireframes : List (Wireframe ι))
  /-- A pointer did something. -/
  | pointer (event : PointerEvent)
deriving BEq, Repr

/-- A record, with pictures given as `ι`. -/
structure Record (ι : Type) where
  /-- When it happened, in milliseconds. -/
  timestamp : Int
  /-- What it tells. -/
  content : RecordContent ι
deriving BEq, Repr

/-- Records of one view, with pictures given as `ι`. -/
structure Batch (ι : Type) where
  /-- The view. -/
  context : ViewContext
  /-- The records, in order. -/
  records : List (Record ι)
deriving BEq, Repr

variable {ι κ : Type}

/-- What the record tells, with every picture replaced. -/
def RecordContent.map (f : ι → κ) : RecordContent ι → RecordContent κ
  | .screenSize width height address => .screenSize width height address
  | .focus hasFocus => .focus hasFocus
  | .viewEnd => .viewEnd
  | .fullSnapshot wireframes => .fullSnapshot (wireframes.map (·.map f))
  | .pointer event => .pointer event

/-- The number that marks a kind of record. -/
def RecordContent.type : RecordContent ι → Nat
  | .screenSize .. => 4
  | .focus _ => 6
  | .viewEnd => 7
  | .fullSnapshot _ => 10
  | .pointer _ => 11

/-- The record with every picture replaced. -/
def Record.map (f : ι → κ) (r : Record ι) : Record κ :=
  { r with content := r.content.map f }

/-- The number that marks the kind of a record. -/
def Record.type (r : Record ι) : Nat := r.content.type

/-- The batch with every picture replaced. -/
def Batch.map (f : ι → κ) (b : Batch ι) : Batch κ :=
  { b with records := b.records.map (·.map f) }

/-- The kinds of the records, in order. -/
def Batch.types (b : Batch ι) : List Nat := b.records.map Record.type

end SessionReplay
