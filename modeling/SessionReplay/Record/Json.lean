import SessionReplay.Record.Basic
import SessionReplay.Number.Shortest
import SessionReplay.Json.Printer

/-!
# The written form of records

Records are written as JSON. The order of the fields is fixed, a style or position that is missing
has no field, and a picture that is missing is written as empty texts.
-/

namespace SessionReplay

/-- A number; one that is not finite is `null`. -/
def Single.toJson (x : Single) : Json :=
  match x.text? with
  | some literal => .number literal
  | none => .null

/-- A field that is there only if its value is. -/
def Json.field? {α : Type} (name : String) (f : α → Json) : Option α → List (String × Json)
  | some a => [(name, f a)]
  | none => []

namespace ShapeStyle

/-- The written form of a style. -/
def toJson (s : ShapeStyle) : Json :=
  .object (Json.field? "backgroundColor" .string s.backgroundColor
    ++ Json.field? "opacity" Single.toJson s.opacity
    ++ Json.field? "cornerRadius" .int s.cornerRadius)

end ShapeStyle

/-- The written form of a border. -/
def ShapeBorder.toJson (b : ShapeBorder) : Json :=
  .object [("color", .string b.color), ("width", .int b.width)]

/-- The written form of a text style. -/
def TextStyle.toJson (s : TextStyle) : Json :=
  .object [("family", .string s.family), ("size", .int s.size), ("color", .string s.color)]

/-- The written form of the lengths at four sides. -/
def Sides.toJson (s : Sides) : Json :=
  .object [("top", .int s.top), ("bottom", .int s.bottom), ("left", .int s.left),
    ("right", .int s.right)]

/-- The written name of an alignment. -/
def HorizontalAlignment.name : HorizontalAlignment → String
  | .left => "left"
  | .right => "right"
  | .center => "center"

/-- The written name of an alignment. -/
def VerticalAlignment.name : VerticalAlignment → String
  | .top => "top"
  | .bottom => "bottom"
  | .center => "center"

/-- The written form of an alignment. -/
def Alignment.toJson (a : Alignment) : Json :=
  .object [("horizontal", .string a.horizontal.name), ("vertical", .string a.vertical.name)]

/-- The written form of a text position. -/
def TextPosition.toJson (p : TextPosition) : Json :=
  .object (Json.field? "padding" Sides.toJson p.padding
    ++ Json.field? "alignment" Alignment.toJson p.alignment)

/-- The fields of a picture. -/
def pictureFields : Picture → List (String × Json)
  | some p => [("base64", .string p.base64), ("mimeType", .string p.mimeType),
      ("isEmpty", .bool false)]
  | none => [("base64", .string ""), ("mimeType", .string ""), ("isEmpty", .bool true)]

namespace WireframeContent

/-- The name of a kind of wireframe. -/
def kind {ι : Type} : WireframeContent ι → String
  | .shape => "shape"
  | .text .. => "text"
  | .image _ => "image"

/-- The fields of what a wireframe shows. -/
def fields : WireframeContent Picture → List (String × Json)
  | .shape => []
  | .text shown style position =>
    [("text", .string shown), ("textStyle", style.toJson)]
      ++ Json.field? "textPosition" TextPosition.toJson position
  | .image picture => pictureFields picture

end WireframeContent

/-- The written form of a wireframe. -/
def Wireframe.toJson (w : Wireframe Picture) : Json :=
  .object ([("type", .string w.content.kind), ("id", .int w.id), ("x", .int w.bounds.x),
      ("y", .int w.bounds.y), ("width", .int w.bounds.width), ("height", .int w.bounds.height)]
    ++ Json.field? "shapeStyle" ShapeStyle.toJson w.style
    ++ Json.field? "border" ShapeBorder.toJson w.border
    ++ w.content.fields)

/-- The written name of what a pointer did. -/
def PointerAction.name : PointerAction → String
  | .down => "down"
  | .up => "up"
  | .move => "move"

/-- The written name of a kind of pointer. -/
def PointerKind.name : PointerKind → String
  | .touch => "touch"
  | .mouse => "mouse"
  | .pen => "pen"

/-- The number that marks pointer events among the changes between two snapshots. -/
def pointerSource : Nat := 9

/-- The written form of what a pointer did. -/
def PointerEvent.toJson (e : PointerEvent) : Json :=
  .object [("source", .nat pointerSource), ("pointerEventType", .string e.action.name),
    ("pointerType", .string e.kind.name), ("pointerId", .int e.pointer), ("x", .int e.x),
    ("y", .int e.y)]

/-- The written form of what a record tells; the end of a view tells nothing more. -/
def RecordContent.data? : RecordContent Picture → Option Json
  | .screenSize width height address =>
    some (.object ([("width", .int width), ("height", .int height)]
      ++ Json.field? "href" .string address))
  | .focus hasFocus => some (.object [("hasFocus", .bool hasFocus)])
  | .viewEnd => none
  | .fullSnapshot wireframes =>
    some (.object [("wireframes", .array (wireframes.map Wireframe.toJson))])
  | .pointer event => some event.toJson

/-- The written form of a record. -/
def Record.toJson (r : Record Picture) : Json :=
  .object ([("type", .nat r.type), ("timestamp", .int r.timestamp)]
    ++ Json.field? "data" id r.content.data?)

/-- The written form of a batch. -/
def Batch.toJson (b : Batch Picture) : Json :=
  .object [("application_id", .string b.context.application),
    ("session_id", .string b.context.session), ("view_id", .string b.context.view),
    ("records", .array (b.records.map Record.toJson))]

end SessionReplay
