import SessionReplay.Picture.Gallery
import SessionReplay.Screen.Node
import SessionReplay.Screen.View

/-!
# From views to nodes

Every visible view is described by wireframes, in a way that depends on its class: texts and
pictures are recorded as such, everything else by its area. A view that is not visible hides
everything in it. While a view is described its picture is ordered (`Studio.order`): there is a place
for it, somebody is told that it is being made, and a copy of the pixels is asked for, which may end
before the next view is looked at.

`View.produce` is this walk. What it comes to can also be said without it: a sketch of the nodes shows
the sources of the pictures in place of the pictures (`View.walk`), and is furnished with places for
them afterwards (`Studio.furnishNode`).
-/

namespace SessionReplay

/-- The view whose pixels a picture is to be made from. -/
structure CopySource where
  /-- Id of the view. -/
  view : Int
  /-- Place of the view, in pixels. -/
  bounds : Bounds
deriving DecidableEq, Repr, Inhabited

namespace View

variable {ι : Type}

/-- How the area of a view is painted, if it has a background. -/
def shapeStyle (v : View) (density : Single) : Option ShapeStyle :=
  v.background.map fun b =>
    { backgroundColor := some b.color.hex
      opacity := some v.alpha
      cornerRadius := some (density.normalize b.radius.truncate) }

/-- A wireframe at the place of a view. -/
def wireframe (v : View) (screen : ScreenInfo) (content : WireframeContent ι) : Wireframe ι where
  id := v.id
  bounds := v.bounds.normalize screen.density
  style := v.shapeStyle screen.density
  content := content

/-- The source for a copy of a view's pixels. -/
def copySource (v : View) : CopySource := ⟨v.id, v.bounds⟩

end View

namespace TextAttributes

/-- The text that is shown: the hint, if there is one, in place of an empty text. -/
def shown (t : TextAttributes) : String × Color :=
  match t.hint with
  | some hint => if t.text.isEmpty then (hint, t.hintColor) else (t.text, t.color)
  | none => (t.text, t.color)

/-- What is recorded of a text on a screen of some density. -/
def content {ι : Type} (t : TextAttributes) (density : Single) : WireframeContent ι :=
  .text t.shown.1
    { family := t.family
      size := density.normalize t.size.truncate
      color := t.shown.2.hex }
    (some { padding := some (t.padding.normalize density), alignment := some t.alignment })

end TextAttributes

/-! ## Pictures that are ordered -/

/-- Whom those turn to who describe views, with `σ` for what is known there. -/
structure Studio (σ : Type) where
  /-- Hands out an empty place for a picture. -/
  place : σ → Slot × σ
  /-- Is told that one more picture is being made. -/
  startJob : σ → σ
  /-- Is asked for a copy of pixels, for the picture in some place. -/
  capture : CopySource → Slot → σ → σ

/-- What a studio is told and asked. -/
inductive Request where
  /-- One more picture is being made. -/
  | job
  /-- A copy of pixels is to be made. -/
  | capture (source : CopySource)
deriving DecidableEq, Repr

namespace Studio

variable {σ : Type} (studio : Studio σ)

/-- The studio when all requests are written down. -/
def journaled : Studio (σ × List Request) where
  place s := let (slot, t) := studio.place s.1; (slot, t, s.2)
  startJob s := (studio.startJob s.1, s.2 ++ [.job])
  capture source slot s := (studio.capture source slot s.1, s.2 ++ [.capture source])

/-- Orders a picture: a place for it, a job, and a copy of the pixels. -/
def order (source : CopySource) (s : σ) : Slot × σ :=
  let (slot, s) := studio.place s
  (slot, studio.capture source slot (studio.startJob s))

/-- Orders several pictures, one after the other. -/
def orderAll : List CopySource → σ → List Slot × σ
  | [], s => ([], s)
  | source :: rest, s =>
    let (slot, s) := studio.order source s
    let (slots, s) := orderAll rest s
    (slot :: slots, s)

/-- Orders the picture of a wireframe, if it shows one. -/
def furnish (w : Wireframe CopySource) (s : σ) : Wireframe Slot × σ :=
  match w.content with
  | .shape => ({ w with content := .shape }, s)
  | .text shown style position => ({ w with content := .text shown style position }, s)
  | .image source =>
    let (slot, s) := studio.order source s
    ({ w with content := .image slot }, s)

/-- Orders the pictures of several wireframes. -/
def furnishAll : List (Wireframe CopySource) → σ → List (Wireframe Slot) × σ
  | [], s => ([], s)
  | w :: rest, s =>
    let (w, s) := studio.furnish w s
    let (rest, s) := furnishAll rest s
    (w :: rest, s)

end Studio

/-! ## Mappers -/

/-- How a view, without the views in it, is described. -/
inductive Mapper where
  /-- By its area. -/
  | area
  /-- By its text, if it has one. -/
  | text
  /-- By its picture, if it shows one whose sides are not longer than the limit. -/
  | image (sideLimit : Int)
  /-- In a way of its own, where each picture is ordered as it is shown. -/
  | custom (describe : ScreenInfo → View → List (Wireframe CopySource))

namespace Mapper

/-- Whether a view shows a picture with sides from one up to the limit. -/
def showsPicture (sideLimit : Int) (screen : ScreenInfo) (v : View) : Bool :=
  let size := v.bounds.normalize screen.density
  v.drawable && 0 < size.width && 0 < size.height
    && size.width ≤ sideLimit && size.height ≤ sideLimit

/-- Describes a view, and orders its picture. -/
def map {σ : Type} (studio : Studio σ) (screen : ScreenInfo) (v : View) (s : σ) :
    Mapper → List (Wireframe Slot) × σ
  | .area => ([v.wireframe screen .shape], s)
  | .text =>
    match v.text with
    | some t => ([v.wireframe screen (t.content screen.density)], s)
    | none => ([v.wireframe screen .shape], s)
  | .image sideLimit =>
    if showsPicture sideLimit screen v then
      let (slot, s) := studio.place s
      let w := v.wireframe screen (.image slot)
      let s := studio.startJob s
      let s := studio.capture v.copySource slot s
      ([w], s)
    else ([v.wireframe screen .shape], s)
  | .custom describe => studio.furnishAll (describe screen v) s

/-- Leaves a view out, but not the views in it. -/
def nothing : Mapper := .custom fun _ _ => []

/-- Describes a view by its area, two times over. -/
def double : Mapper :=
  .custom fun screen v => [v.wireframe screen .shape, v.wireframe screen .shape]

end Mapper

/-- The mappers for classes of views, and one for all other classes. -/
structure MapperTable where
  /-- Mappers with the classes they are for; the first entry of a class counts. -/
  byClass : List (String × Mapper) := []
  /-- The mapper for classes without an entry. -/
  fallback : Mapper := Mapper.area

/-- The classes of views that show a text. -/
def textClasses : List String :=
  ["android.widget.TextView", "android.widget.Button", "android.widget.EditText",
    "androidx.appcompat.widget.AppCompatTextView"]

/-- The classes of views that show a picture. -/
def imageClasses : List String :=
  ["android.widget.ImageView", "android.widget.ImageButton",
    "androidx.appcompat.widget.AppCompatImageView"]

namespace MapperTable

/-- The mappers for texts, pictures and everything else. -/
def builtin (sideLimit : Int) : MapperTable where
  byClass := textClasses.map (·, Mapper.text) ++ imageClasses.map (·, Mapper.image sideLimit)

/-- The table with a mapper for a class, in place of the one it had. -/
def register (t : MapperTable) (className : String) (m : Mapper) : MapperTable :=
  { t with byClass := (className, m) :: t.byClass }

/-- The mapper for a class. -/
def mapper (t : MapperTable) (className : String) : Mapper :=
  (t.byClass.lookup className).getD t.fallback

end MapperTable

/-! ## The walk -/

namespace View

section Produce

variable {σ : Type} (table : MapperTable) (screen : ScreenInfo) (studio : Studio σ)

mutual

/-- The node of a view: nothing if the view is not visible. -/
def produce : View → σ → Option (Node Slot) × σ
  | v@(.mk _ _ visible _ _ _ _ _ children), s =>
    if visible then
      let (wireframes, s) := (table.mapper v.className).map studio screen v s
      let (children, s) := produceAll children s
      (some ⟨wireframes, children⟩, s)
    else (none, s)

/-- The nodes of the visible ones among some views. -/
def produceAll : List View → σ → List (Node Slot) × σ
  | [], s => ([], s)
  | v :: rest, s =>
    let (first, s) := produce v s
    let (nodes, s) := produceAll rest s
    (first.toList ++ nodes, s)

end

end Produce

end View

/-! ## Sketches -/

/-- How a mapper describes a view, with the sources of the pictures in place of the pictures. -/
def Mapper.describe (screen : ScreenInfo) (v : View) : Mapper → List (Wireframe CopySource)
  | .area => [v.wireframe screen .shape]
  | .text =>
    match v.text with
    | some t => [v.wireframe screen (t.content screen.density)]
    | none => [v.wireframe screen .shape]
  | .image sideLimit =>
    if showsPicture sideLimit screen v then [v.wireframe screen (.image v.copySource)]
    else [v.wireframe screen .shape]
  | .custom describe => describe screen v

/-- How a view, without the views in it, is described by the mapper of its class. -/
def MapperTable.describe (t : MapperTable) (screen : ScreenInfo) (v : View) :
    List (Wireframe CopySource) :=
  (t.mapper v.className).describe screen v

namespace View

mutual

/-- The sketch of a view: nothing if the view is not visible. -/
def walk (table : MapperTable) (screen : ScreenInfo) : View → Option (Node CopySource)
  | v@(.mk _ _ visible _ _ _ _ _ children) =>
    if visible then some ⟨table.describe screen v, walkAll table screen children⟩ else none

/-- The sketches of the visible ones among some views. -/
def walkAll (table : MapperTable) (screen : ScreenInfo) : List View → List (Node CopySource)
  | [] => []
  | v :: rest =>
    match walk table screen v with
    | some n => n :: walkAll table screen rest
    | none => walkAll table screen rest

end

end View

namespace Studio

section Furnish

variable {σ : Type} (studio : Studio σ)

mutual

/-- Orders the pictures of a sketch. -/
def furnishNode : Node CopySource → σ → Node Slot × σ
  | ⟨wireframes, children⟩, s =>
    let (wireframes, s) := studio.furnishAll wireframes s
    let (children, s) := furnishNodes children s
    (⟨wireframes, children⟩, s)

/-- Orders the pictures of several sketches. -/
def furnishNodes : List (Node CopySource) → σ → List (Node Slot) × σ
  | [], s => ([], s)
  | n :: rest, s =>
    let (n, s) := furnishNode n s
    let (rest, s) := furnishNodes rest s
    (n :: rest, s)

end

end Furnish

/-- A studio that hands out consecutive places and does nothing else. -/
def counter : Studio Slot where
  place next := (next, next + 1)
  startJob := id
  capture _ _ := id

end Studio

namespace Node

/-- Numbers the pictures of a sketch in the order in which they are painted, starting at `next`; the
number after the last one comes with the node. -/
def number (next : Nat) (n : Node CopySource) : Node Slot × Nat := Studio.counter.furnishNode n next

/-- Numbers the pictures of several sketches. -/
def numberAll (next : Nat) (ns : List (Node CopySource)) : List (Node Slot) × Nat :=
  Studio.counter.furnishNodes ns next

end Node

end SessionReplay
