import SessionReplay.Proofs.Record.Decoding

/-!
# The text of a batch tells the batch

What is written of a batch is JSON of the standard: all numbers in it are numbers of the standard
(`Batch.numeric`), so its text is read to the end and gives the tree that was written. From that tree
the batch is read (`Batch.undoes`). The main result, `Batch.text_recovers`, puts the two together.
Whatever the ids, strings and numbers are, two batches with one text are the same, but for opacities
that are not finite: those are all written as `null` (`Single.toJson_eq_null_iff`). The other way round,
such opacities make no difference to the text (`Batch.toJson_settled`).
-/

namespace SessionReplay

/-! ## Written values -/

namespace Json

/-- An integer is written as a number. -/
theorem numeric_int (n : Int) : Numeric (.int n) := .number _ (isNumber_integerLiteral n)

/-- A field that may be missing has the numbers of its value. -/
theorem numeric_field? {α : Type} {name : String} {f : α → Json} {a : Option α}
    (h : ∀ a, Numeric (f a)) : ∀ g ∈ field? name f a, Numeric g.2 := by
  cases a with
  | none => exact nofun
  | some a => exact List.forall_mem_singleton.mpr (h a)

/-- An array has the numbers of its items. -/
theorem numeric_array {α : Type} {f : α → Json} (h : ∀ a, Numeric (f a)) (as : List α) :
    Numeric (.array (as.map f)) :=
  .array _ (List.forall_mem_map.mpr fun a _ => h a)

end Json

open Json

/-- A finite number is written as one, and the others are no numbers at all. -/
theorem Single.numeric (x : Single) : Numeric x.toJson := by
  unfold toJson
  split
  · next literal htext => exact .number literal (text_readable htext).1
  · exact .null

/-- The numbers in the style of an area are numbers by the grammar. -/
theorem ShapeStyle.numeric (s : ShapeStyle) : Numeric s.toJson :=
  .object _ (List.forall_mem_append.mpr ⟨List.forall_mem_append.mpr
    ⟨numeric_field? .string, numeric_field? Single.numeric⟩, numeric_field? numeric_int⟩)

/-- So are those in a border. -/
theorem ShapeBorder.numeric (b : ShapeBorder) : Numeric b.toJson :=
  .object _ (by simp [Numeric.string, numeric_int])

/-- So are those in the style of a text. -/
theorem TextStyle.numeric (s : TextStyle) : Numeric s.toJson :=
  .object _ (by simp [Numeric.string, numeric_int])

/-- So are those of four sides. -/
theorem Sides.numeric (s : Sides) : Numeric s.toJson :=
  .object _ (by simp [numeric_int])

/-- An alignment has no numbers. -/
theorem Alignment.numeric (a : Alignment) : Numeric a.toJson :=
  .object _ (by simp [Numeric.string])

/-- The numbers in the position of a text are numbers by the grammar. -/
theorem TextPosition.numeric (p : TextPosition) : Numeric p.toJson :=
  .object _ (List.forall_mem_append.mpr
    ⟨numeric_field? Sides.numeric, numeric_field? Alignment.numeric⟩)

/-- So are those in what a wireframe shows. -/
theorem WireframeContent.numeric (content : WireframeContent Picture) :
    ∀ f ∈ content.fields, Numeric f.2 := by
  cases content with
  | shape => exact nofun
  | text shown style position =>
    refine List.forall_mem_append.mpr ⟨?_, numeric_field? TextPosition.numeric⟩
    simp [Numeric.string, TextStyle.numeric]
  | image picture => cases picture <;> simp [fields, pictureFields, Numeric.string, Numeric.bool]

/-- So are those of a wireframe. -/
theorem Wireframe.numeric (w : Wireframe Picture) : Numeric w.toJson := by
  refine .object _ (List.forall_mem_append.mpr ⟨List.forall_mem_append.mpr
    ⟨List.forall_mem_append.mpr ⟨?_, numeric_field? ShapeStyle.numeric⟩,
      numeric_field? ShapeBorder.numeric⟩, w.content.numeric⟩)
  simp [Numeric.string, numeric_int]

/-- So are those in the data of a record. -/
theorem RecordContent.numeric {content : RecordContent Picture} {data : Json}
    (h : content.data? = some data) : Numeric data := by
  cases content with
  | screenSize width height address =>
    cases h
    refine .object _ (List.forall_mem_append.mpr ⟨?_, numeric_field? .string⟩)
    simp [numeric_int]
  | focus hasFocus =>
    cases h
    exact .object _ (by simp [Numeric.bool])
  | viewEnd => cases h
  | fullSnapshot wireframes =>
    cases h
    exact .object _ (by simp [numeric_array Wireframe.numeric])
  | pointer event =>
    cases h
    exact .object _ (by simp [Numeric.string, numeric_int, nat])

/-- So are those of a record. -/
theorem Record.numeric (r : Record Picture) : Numeric r.toJson := by
  refine .object _ (List.forall_mem_append.mpr ⟨by simp [numeric_int, nat], ?_⟩)
  cases hdata : r.content.data? with
  | none => exact List.forall_mem_nil _
  | some data => exact List.forall_mem_singleton.mpr (RecordContent.numeric hdata)

/-- All numbers of a written batch are numbers of the standard. -/
theorem Batch.numeric (b : Batch Picture) : Numeric b.toJson :=
  .object _ (by simp [Numeric.string, numeric_array Record.numeric])

/-! ## What is lost -/

/-- What writing loses in the style of an area is not written. -/
theorem ShapeStyle.toJson_settled (s : ShapeStyle) : s.settled.toJson = s.toJson := by
  obtain ⟨color, opacity, radius⟩ := s
  cases opacity with
  | none => rfl
  | some opacity =>
    simp [toJson, settled, field?, Single.toJson_settled]

/-- Nor is it in a wireframe. -/
theorem Wireframe.toJson_settled (w : Wireframe Picture) : w.settled.toJson = w.toJson := by
  obtain ⟨id, bounds, style, border, content⟩ := w
  cases style with
  | none => rfl
  | some style => simp [toJson, settled, field?, ShapeStyle.toJson_settled]

/-- Nor is it in a record. -/
theorem Record.toJson_settled (r : Record Picture) : r.settled.toJson = r.toJson := by
  obtain ⟨timestamp, content⟩ := r
  cases content with
  | fullSnapshot wireframes =>
    have hwireframes : (wireframes.map Wireframe.settled).map Wireframe.toJson
        = wireframes.map Wireframe.toJson := by
      rw [List.map_map]
      exact congrArg (wireframes.map ·) (funext Wireframe.toJson_settled)
    simp only [toJson, settled, RecordContent.settled, RecordContent.data?, hwireframes]
    rfl
  | _ => rfl

/-- What is lost in reading is lost in writing already. -/
theorem Batch.toJson_settled (b : Batch Picture) : b.settled.toJson = b.toJson := by
  simp [toJson, settled, Record.toJson_settled]

/-- A number is written as `null` exactly if it is not finite. -/
theorem Single.toJson_eq_null_iff (x : Single) :
    x.toJson = .null ↔ ∀ neg m q, x.read ≠ .finite neg m q := by
  unfold toJson text?
  cases x.read with
  | nan => exact ⟨fun _ => nofun, fun _ => rfl⟩
  | infinite negative => exact ⟨fun _ => nofun, fun _ => rfl⟩
  | finite neg m q => exact ⟨nofun, fun h => absurd rfl (h neg m q)⟩

/-- **Batches are written without loss, but for opacities that are not finite.** The text of a batch is
read to its end, what is read is the tree that was written, and the batch is read from that tree. So
two batches have the same text exactly if they are the same in every field, up to which of the values
that are not finite an opacity is; and those alone are written as `null`. -/
theorem Batch.text_recovers (b : Batch Picture) :
    Json.ofText? b.toJson.render = some b.toJson
      ∧ Batch.ofJson? b.toJson = some b.settled
      ∧ (∀ c : Batch Picture, b.toJson.render = c.toJson.render ↔ b.settled = c.settled)
      ∧ ∀ x : Single, x.toJson = .null ↔ ∀ neg m q, x.read ≠ .finite neg m q := by
  have hread (b : Batch Picture) : Json.ofText? b.toJson.render = some b.toJson := by
    rw [ofText?, render, String.toList_ofList]
    exact parse_print b.numeric
  refine ⟨hread b, b.undoes, fun c => ⟨fun htext => ?_, fun hsettled => ?_⟩,
    Single.toJson_eq_null_iff⟩
  · have hjson : b.toJson = c.toJson := by
      have hb := hread b
      rw [htext, hread c] at hb
      exact (Option.some.inj hb).symm
    have hb := b.undoes
    rw [hjson, c.undoes] at hb
    exact (Option.some.inj hb).symm
  · rw [← b.toJson_settled, hsettled, c.toJson_settled]

end SessionReplay
