import SessionReplay.Record.Json
import SessionReplay.Json.Access
import SessionReplay.Proofs.Json.Reading
import SessionReplay.Proofs.Number.Rounding

/-!
# Reading records back

A reader for the written form of records, which looks its fields up by name: a field that has to be
there with `Json.required`, one that may be missing with `Json.optional`, the members of a list with
`Json.list?`, and a value from a fixed choice by its name (`Json.named?`). For every kind of value there
is the reader `ofJson?` and the theorem `undoes`, which says that it gives back what `toJson` was given.

All that is lost in writing is which value a number was that is not finite. What is read for it is one
such value, so a style, and everything that holds one, is read as it is `settled` (`Single.settled`).
The theorem for a whole batch is `Batch.undoes`.
-/

namespace SessionReplay

/-! ## Reading fields -/

namespace Json

variable {α : Type}

/-- What is read from a field that has to be there. -/
def required (j : Json) (key : String) (read : Json → Option α) : Option α :=
  (j.fields.lookup key).bind read

/-- What is read from a field that may be missing. -/
def optional (j : Json) (key : String) (read : Json → Option α) : Option (Option α) :=
  match j.fields.lookup key with
  | some value => (read value).map some
  | none => some none

/-- What is read from the items of an array, each of which has to be readable. -/
def list? (read : Json → Option α) : Json → Option (List α)
  | .array items => items.mapM read
  | _ => none

/-- One of the values that have names, by its name. -/
def named? (values : List α) (name : α → String) (j : Json) : Option α :=
  j.string?.bind fun s => values.find? fun a => name a == s

/-- Reading gives back what was written, but for what is lost in writing. -/
def Undoes (read : Json → Option α) (write : α → Json) (settle : α → α) : Prop :=
  ∀ a, read (write a) = some (settle a)

variable {j value : Json} {key : String} {read : Json → Option α} {write : α → Json}
  {settle : α → α}

/-- A field that has to be there is read from what is there. -/
theorem required_eq (h : j.fields.lookup key = some value) : j.required key read = read value := by
  rw [required, h]
  rfl

/-- A field that may be missing is read back, up to what writing loses. -/
theorem optional_eq {a : Option α} (hread : Undoes read write settle)
    (h : j.fields.lookup key = a.map write) : j.optional key read = some (a.map settle) := by
  unfold optional
  rw [h]
  cases a with
  | none => rfl
  | some a => exact congrArg (Option.map some) (hread a)

/-- A field that may be missing is read back as it was. -/
theorem optional_same {a : Option α} (hread : Undoes read write id)
    (h : j.fields.lookup key = a.map write) : j.optional key read = some a := by
  rw [optional_eq hread h, Option.map_id, id]

/-- A list is read back item by item. -/
theorem list?_array (hread : Undoes read write settle) (as : List α) :
    list? read (.array (as.map write)) = some (as.map settle) := by
  change (as.map write).mapM read = _
  induction as with
  | nil => rfl
  | cons a as ih => simp [hread a, ih]

/-- A text is read back. -/
@[simp]
theorem string?_string (text : String) : string? (.string text) = some text := rfl

/-- A truth value is read back. -/
@[simp]
theorem bool?_bool (b : Bool) : bool? (.bool b) = some b := rfl

/-- An integer is read back. -/
@[simp]
theorem int?_int (n : Int) : int? (.int n) = some n :=
  congrArg some (DecimalLiteral.integer_integerLiteral n)

/-- An object has the fields that it was written with. -/
@[simp]
theorem fields_object (fs : List (String × Json)) : fields (.object fs) = fs := rfl

/-- A field that may be missing is found under its own name only. -/
@[simp]
theorem lookup_field? (name key : String) (f : α → Json) (a : Option α) :
    (field? name f a).lookup key = if key == name then a.map f else none := by
  cases a with
  | none => simp [field?]
  | some a => 
    simp only [field?, List.lookup_cons, List.lookup_nil]
    split <;> simp_all

end Json

/-! ## Numbers -/

/-- The number that is read for one that was written: `null` is read as a value that is no number. -/
def Single.ofJson? : Json → Option Single
  | .number literal => some (.ofDecimal literal)
  | .null => some .nan
  | _ => none

/-- A finite number, or the one value that is read for all others. -/
def Single.settled (x : Single) : Single :=
  match x.read with
  | .finite .. => x
  | _ => .nan

/-- A number that is finite has a text and stays, any other has none and is settled. -/
theorem Single.text_or_settled (x : Single) :
    (∃ literal, x.text? = some literal ∧ x.settled = x) ∨ x.text? = none ∧ x.settled = .nan := by
  unfold text? settled
  cases x.read with
  | nan => exact .inr ⟨rfl, rfl⟩
  | infinite neg => exact .inr ⟨rfl, rfl⟩
  | finite neg m q => exact .inl ⟨_, rfl, rfl⟩

/-- A number is read back, up to what writing loses. -/
theorem Single.undoes : Json.Undoes ofJson? toJson settled := by
  intro x
  unfold toJson
  rcases x.text_or_settled with ⟨literal, htext, hsettled⟩ | ⟨htext, hsettled⟩
  · rw [htext, hsettled]
    exact congrArg some (text_readable htext).2
  · rw [htext, hsettled]
    rfl

/-- What is settled is written as before. -/
theorem Single.toJson_settled (x : Single) : x.settled.toJson = x.toJson := by
  rcases x.text_or_settled with ⟨_, _, hsettled⟩ | ⟨htext, hsettled⟩
  · rw [hsettled]
  · rw [hsettled, toJson, toJson, htext]
    rfl

/-! ## Wireframes -/

/-- The style that is read from a value. -/
def ShapeStyle.ofJson? (j : Json) : Option ShapeStyle := do
  let backgroundColor ← j.optional "backgroundColor" Json.string?
  let opacity ← j.optional "opacity" Single.ofJson?
  let cornerRadius ← j.optional "cornerRadius" Json.int?
  return { backgroundColor, opacity, cornerRadius }

/-- The style with its opacity as it is read. -/
def ShapeStyle.settled (s : ShapeStyle) : ShapeStyle :=
  { s with opacity := s.opacity.map Single.settled }

/-- The style of an area is read back, up to its numbers. -/
theorem ShapeStyle.undoes : Json.Undoes ofJson? toJson settled := by
  intro s
  have hcolor : s.toJson.optional "backgroundColor" Json.string? = some s.backgroundColor :=
    Json.optional_same Json.string?_string (by simp [toJson, List.lookup_append])
  have hopacity :
      s.toJson.optional "opacity" Single.ofJson? = some (s.opacity.map Single.settled) :=
    Json.optional_eq Single.undoes (by simp [toJson, List.lookup_append])
  have hradius : s.toJson.optional "cornerRadius" Json.int? = some s.cornerRadius :=
    Json.optional_same Json.int?_int (by simp [toJson, List.lookup_append])
  unfold ofJson?
  rw [hcolor, hopacity, hradius]
  rfl

/-- The border that is read from a value. -/
def ShapeBorder.ofJson? (j : Json) : Option ShapeBorder := do
  let color ← j.required "color" Json.string?
  let width ← j.required "width" Json.int?
  return { color, width }

/-- A border is read back. -/
theorem ShapeBorder.undoes : Json.Undoes ofJson? toJson id := by
  intro b
  simp [ofJson?, toJson, Json.required, List.lookup_cons]

/-- The text style that is read from a value. -/
def TextStyle.ofJson? (j : Json) : Option TextStyle := do
  let family ← j.required "family" Json.string?
  let size ← j.required "size" Json.int?
  let color ← j.required "color" Json.string?
  return { family, size, color }

/-- The style of a text is read back. -/
theorem TextStyle.undoes : Json.Undoes ofJson? toJson id := by
  intro s
  simp [ofJson?, toJson, Json.required, List.lookup_cons]

/-- The lengths that are read from a value. -/
def Sides.ofJson? (j : Json) : Option Sides := do
  let top ← j.required "top" Json.int?
  let bottom ← j.required "bottom" Json.int?
  let left ← j.required "left" Json.int?
  let right ← j.required "right" Json.int?
  return { top, bottom, left, right }

/-- Four sides are read back. -/
theorem Sides.undoes : Json.Undoes ofJson? toJson id := by
  intro s
  simp [ofJson?, toJson, Json.required, List.lookup_cons]

/-- The alignment that is read from a value. -/
def Alignment.ofJson? (j : Json) : Option Alignment := do
  let horizontal ← j.required "horizontal"
    (Json.named? [.left, .right, .center] HorizontalAlignment.name)
  let vertical ← j.required "vertical"
    (Json.named? [.top, .bottom, .center] VerticalAlignment.name)
  return { horizontal, vertical }

/-- An alignment is read back. -/
theorem Alignment.undoes : Json.Undoes ofJson? toJson id := by
  rintro ⟨horizontal, vertical⟩
  cases horizontal <;> cases vertical <;> rfl

/-- The text position that is read from a value. -/
def TextPosition.ofJson? (j : Json) : Option TextPosition := do
  let padding ← j.optional "padding" Sides.ofJson?
  let alignment ← j.optional "alignment" Alignment.ofJson?
  return { padding, alignment }

/-- The position of a text is read back. -/
theorem TextPosition.undoes : Json.Undoes ofJson? toJson id := by
  intro p
  have hpadding : p.toJson.optional "padding" Sides.ofJson? = some p.padding :=
    Json.optional_same Sides.undoes (by simp [toJson, List.lookup_append])
  have halignment : p.toJson.optional "alignment" Alignment.ofJson? = some p.alignment :=
    Json.optional_same Alignment.undoes (by simp [toJson, List.lookup_append])
  unfold ofJson?
  rw [hpadding, halignment]
  rfl

/-- The picture, if there is one, that is read from the fields of a wireframe. -/
def readPicture? (j : Json) : Option Picture := do
  let isEmpty ← j.required "isEmpty" Json.bool?
  let base64 ← j.required "base64" Json.string?
  let mimeType ← j.required "mimeType" Json.string?
  return if isEmpty then none else some { base64, mimeType }

/-- What is shown, as it is read from the fields of a wireframe. -/
def WireframeContent.ofJson? (j : Json) : Option (WireframeContent Picture) := do
  match ← j.required "type" Json.string? with
  | "shape" => return .shape
  | "text" =>
    let shown ← j.required "text" Json.string?
    let style ← j.required "textStyle" TextStyle.ofJson?
    let position ← j.optional "textPosition" TextPosition.ofJson?
    return .text shown style position
  | "image" => return .image (← readPicture? j)
  | _ => none

/-- The wireframe that is read from a value. -/
def Wireframe.ofJson? (j : Json) : Option (Wireframe Picture) := do
  let id ← j.required "id" Json.int?
  let x ← j.required "x" Json.int?
  let y ← j.required "y" Json.int?
  let width ← j.required "width" Json.int?
  let height ← j.required "height" Json.int?
  let style ← j.optional "shapeStyle" ShapeStyle.ofJson?
  let border ← j.optional "border" ShapeBorder.ofJson?
  let content ← WireframeContent.ofJson? j
  return { id, bounds := { x, y, width, height }, style, border, content }

/-- The wireframe with its opacity as it is read. -/
def Wireframe.settled (w : Wireframe Picture) : Wireframe Picture :=
  { w with style := w.style.map ShapeStyle.settled }

/-- What a wireframe shows has no field of the name of one that all wireframes can have. -/
theorem WireframeContent.lookup_fields (content : WireframeContent Picture) {key : String}
    (h : key ∈ ["shapeStyle", "border"]) : content.fields.lookup key = none := by
  rcases List.mem_pair.mp h with rfl | rfl
  all_goals
    cases content with
    | shape => rfl
    | text shown style position => simp [fields, List.lookup_cons]
    | image picture => cases picture <;> rfl

/-- What a wireframe shows is read back. -/
theorem WireframeContent.ofJson?_toJson (w : Wireframe Picture) :
    ofJson? w.toJson = some w.content := by
  have hkind : w.toJson.required "type" Json.string? = some w.content.kind := by
    simp [Wireframe.toJson, Json.required]
  unfold ofJson?
  rw [hkind]
  obtain ⟨id, bounds, style, border, content⟩ := w
  generalize hjson : Wireframe.toJson ⟨id, bounds, style, border, content⟩ = j
  cases content with
  | shape => rfl
  | text shown textStyle position =>
    have hshown : j.required "text" Json.string? = some shown := by
      simp [← hjson, Wireframe.toJson, fields, Json.required, List.lookup_cons, List.lookup_append]
    have hstyle : j.required "textStyle" TextStyle.ofJson? = some textStyle := by
      simp [← hjson, Wireframe.toJson, fields, Json.required, List.lookup_cons, List.lookup_append,
        TextStyle.undoes textStyle]
    have hposition : j.optional "textPosition" TextPosition.ofJson? = some position :=
      Json.optional_same TextPosition.undoes (by
        simp [← hjson, Wireframe.toJson, fields, List.lookup_cons, List.lookup_append])
    rw [hshown, hstyle, hposition]
    rfl
  | image picture =>
    have hpicture : readPicture? j = some picture := by
      cases picture <;> simp [← hjson, Wireframe.toJson, fields, pictureFields, readPicture?,
        Json.required, List.lookup_cons, List.lookup_append]
    rw [hpicture]
    rfl

/-- A wireframe is read back, up to its numbers. -/
theorem Wireframe.undoes : Json.Undoes ofJson? toJson settled := by
  intro w
  have hstyle :
      w.toJson.optional "shapeStyle" ShapeStyle.ofJson? = some (w.style.map ShapeStyle.settled) :=
    Json.optional_eq ShapeStyle.undoes (by
      simp [toJson, List.lookup_cons, List.lookup_append, w.content.lookup_fields])
  have hborder : w.toJson.optional "border" ShapeBorder.ofJson? = some w.border :=
    Json.optional_same ShapeBorder.undoes (by
      simp [toJson, List.lookup_cons, List.lookup_append, w.content.lookup_fields])
  unfold ofJson?
  rw [hstyle, hborder, WireframeContent.ofJson?_toJson]
  simp [toJson, Json.required, List.lookup_cons, settled]

/-! ## Records -/

/-- The pointer event that is read from a value. -/
def PointerEvent.ofJson? (j : Json) : Option PointerEvent := do
  let action ← j.required "pointerEventType" (Json.named? [.down, .up, .move] PointerAction.name)
  let kind ← j.required "pointerType" (Json.named? [.touch, .mouse, .pen] PointerKind.name)
  let pointer ← j.required "pointerId" Json.int?
  let x ← j.required "x" Json.int?
  let y ← j.required "y" Json.int?
  return { action, kind, pointer, x, y }

/-- A touch is read back. -/
theorem PointerEvent.undoes : Json.Undoes ofJson? toJson id := by
  rintro ⟨action, kind, pointer, x, y⟩
  have haction : Json.named? [.down, .up, .move] PointerAction.name (.string action.name)
      = some action := by
    cases action <;> rfl
  have hkind : Json.named? [.touch, .mouse, .pen] PointerKind.name (.string kind.name)
      = some kind := by
    cases kind <;> rfl
  simp [ofJson?, toJson, Json.required, List.lookup_cons, haction, hkind]

namespace RecordContent

/-- What a record tells, as it is read from the fields of the record. -/
def ofJson? (j : Json) : Option (RecordContent Picture) := do
  match ← j.required "type" Json.int? with
  | 4 =>
    let data ← j.required "data" some
    let width ← data.required "width" Json.int?
    let height ← data.required "height" Json.int?
    let address ← data.optional "href" Json.string?
    return .screenSize width height address
  | 6 =>
    let data ← j.required "data" some
    return .focus (← data.required "hasFocus" Json.bool?)
  | 7 => return .viewEnd
  | 10 =>
    let data ← j.required "data" some
    return .fullSnapshot (← data.required "wireframes" (Json.list? Wireframe.ofJson?))
  | 11 => return .pointer (← j.required "data" PointerEvent.ofJson?)
  | _ => none

/-- What a record tells, with all opacities as they are read. -/
def settled : RecordContent Picture → RecordContent Picture
  | .fullSnapshot wireframes => .fullSnapshot (wireframes.map Wireframe.settled)
  | content => content

end RecordContent

/-- The record that is read from a value. -/
def Record.ofJson? (j : Json) : Option (Record Picture) := do
  let timestamp ← j.required "timestamp" Json.int?
  let content ← RecordContent.ofJson? j
  return { timestamp, content }

/-- The record with all opacities as they are read. -/
def Record.settled (r : Record Picture) : Record Picture :=
  { r with content := r.content.settled }

/-- What a record is about is found in its data. -/
theorem Record.lookup_data (r : Record Picture) :
    r.toJson.fields.lookup "data" = r.content.data? := by
  simp [toJson, List.lookup_cons]

/-- What a record tells is read from the number of its kind and its data. -/
theorem RecordContent.ofJson?_toJson (r : Record Picture) :
    ofJson? r.toJson = some r.content.settled := by
  have htype : r.toJson.required "type" Json.int? = some (r.content.type : Int) := by
    simp [Record.toJson, Json.required, Json.nat, Record.type]
  have hlookup := r.lookup_data
  unfold ofJson?
  rw [htype]
  obtain ⟨timestamp, content⟩ := r
  generalize Record.toJson ⟨timestamp, content⟩ = j at hlookup
  cases content with
  | screenSize width height address =>
    generalize hdata : Json.object ([("width", .int width), ("height", .int height)]
      ++ Json.field? "href" .string address) = data
    have hwidth : data.required "width" Json.int? = some width := by
      simp [← hdata, Json.required]
    have hheight : data.required "height" Json.int? = some height := by
      simp [← hdata, Json.required, List.lookup_cons]
    have haddress : data.optional "href" Json.string? = some address :=
      Json.optional_same Json.string?_string (by simp [← hdata, List.lookup_cons])
    rw [Json.required_eq (hlookup.trans (congrArg some hdata))]
    simp [hwidth, hheight, haddress, settled, type]
  | focus hasFocus =>
    rw [Json.required_eq hlookup]
    rfl
  | viewEnd => rfl
  | fullSnapshot wireframes =>
    rw [Json.required_eq hlookup]
    simp [Json.required, Json.list?_array Wireframe.undoes, settled, type]
  | pointer event =>
    have hevent : j.required "data" PointerEvent.ofJson? = some event :=
      (Json.required_eq hlookup).trans (PointerEvent.undoes event)
    rw [hevent]
    rfl

/-- A record is read back, up to its numbers. -/
theorem Record.undoes : Json.Undoes ofJson? toJson settled := by
  intro r
  have htimestamp : r.toJson.required "timestamp" Json.int? = some r.timestamp := by
    simp [toJson, Json.required, List.lookup_cons]
  unfold ofJson?
  rw [htimestamp, RecordContent.ofJson?_toJson]
  rfl

/-- The batch that is read from a value. -/
def Batch.ofJson? (j : Json) : Option (Batch Picture) := do
  let application ← j.required "application_id" Json.string?
  let session ← j.required "session_id" Json.string?
  let view ← j.required "view_id" Json.string?
  let records ← j.required "records" (Json.list? Record.ofJson?)
  return { context := { application, session, view }, records }

/-- The batch with all opacities as they are read. -/
def Batch.settled (b : Batch Picture) : Batch Picture :=
  { b with records := b.records.map Record.settled }

/-- A batch is read back, up to its numbers. -/
theorem Batch.undoes : Json.Undoes ofJson? toJson settled := by
  intro b
  simp [ofJson?, toJson, Json.required, List.lookup_cons, Json.list?_array Record.undoes, settled]

end SessionReplay
