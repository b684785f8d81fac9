import SessionReplay.Output.History

/-!
# When two wireframes are alike

Wireframes are compared by what they show: opacities as numbers, so that a wireframe whose opacity is
not a number is unlike itself, and pictures by what is in their slots. The comparison is not
reflexive, but it is symmetric and transitive, and so is every comparison it is made of
(`PartialEquivBEq`). That is all that is needed to let one list of wireframes stand for another that
is like it (`beq_congr_left`).
-/

namespace SessionReplay

section Comparison

variable {α : Type} [BEq α] [PartialEquivBEq α]

/-- Of two things that are alike each can stand for the other in a comparison. -/
theorem beq_congr_left {a b : α} (h : (a == b) = true) (c : α) : (a == c) = (b == c) := by
  rw [Bool.eq_iff_iff]
  exact ⟨fun hac => PartialEquivBEq.trans (PartialEquivBEq.symm h) hac,
    fun hbc => PartialEquivBEq.trans h hbc⟩

instance optionPartialEquivBEq : PartialEquivBEq (Option α) where
  symm {a b} h :=
    match a, b, h with
    | none, none, _ => rfl
    | some a, some b, h => PartialEquivBEq.symm (a := a) (b := b) h
  trans {a b c} h h' :=
    match a, b, c, h, h' with
    | none, none, none, _, _ => rfl
    | some a, some b, some c, h, h' => PartialEquivBEq.trans (a := a) (b := b) (c := c) h h'

instance listPartialEquivBEq : PartialEquivBEq (List α) where
  symm {a b} h := by
    induction a generalizing b with
    | nil => cases b with
      | nil => rfl
      | cons y ys => cases h
    | cons x xs ih => cases b with
      | nil => cases h
      | cons y ys =>
        simp only [List.cons_beq_cons, Bool.and_eq_true] at h ⊢
        exact ⟨PartialEquivBEq.symm h.1, ih h.2⟩
  trans {a b c} h h' := by
    induction a generalizing b c with
    | nil => cases b with
      | nil => exact h'
      | cons y ys => cases h
    | cons x xs ih => cases b with
      | nil => cases h
      | cons y ys => cases c with
        | nil => cases h'
        | cons z zs =>
          simp only [List.cons_beq_cons, Bool.and_eq_true] at h h' ⊢
          exact ⟨PartialEquivBEq.trans h.1 h'.1, ih h.2 h'.2⟩

end Comparison

/-! ## Numbers -/

/-- What a reading is as a number, with one zero only; nothing if it is not a number. -/
def Single.Reading.number? : Reading → Option Reading
  | .nan => none
  | .infinite negative => some (.infinite negative)
  | .finite negative mantissa exponent =>
    if mantissa = 0 then some (.finite false 0 0) else some (.finite negative mantissa exponent)

/-- Two bit patterns are equal if they stand for the same number. -/
theorem Single.beq_iff {x y : Single} :
    (x == y) = true ↔ x.read.number?.isSome = true ∧ x.read.number? = y.read.number? := by
  change Single.eq x y = true ↔ _
  unfold Single.eq Reading.number?
  cases x.read <;> cases y.read <;> grind

instance : PartialEquivBEq Single where
  symm h := by
    obtain ⟨hsome, heq⟩ := Single.beq_iff.mp h
    exact Single.beq_iff.mpr ⟨heq ▸ hsome, heq.symm⟩
  trans h h' := by
    obtain ⟨hsome, heq⟩ := Single.beq_iff.mp h
    exact Single.beq_iff.mpr ⟨hsome, heq.trans (Single.beq_iff.mp h').2⟩

/-! ## Wireframes -/

/-- Two styles are alike exactly if their parts are. -/
theorem ShapeStyle.beq_iff {a b : ShapeStyle} : (a == b) = true ↔
    a.backgroundColor = b.backgroundColor ∧ (a.opacity == b.opacity) = true ∧
      a.cornerRadius = b.cornerRadius := by
  change (a.backgroundColor == b.backgroundColor
    && (a.opacity == b.opacity && a.cornerRadius == b.cornerRadius)) = true ↔ _
  simp only [Bool.and_eq_true, beq_iff_eq]

instance : PartialEquivBEq ShapeStyle where
  symm h := by
    obtain ⟨hcolor, hopacity, hradius⟩ := ShapeStyle.beq_iff.mp h
    exact ShapeStyle.beq_iff.mpr ⟨hcolor.symm, PartialEquivBEq.symm hopacity, hradius.symm⟩
  trans h h' := by
    obtain ⟨hcolor, hopacity, hradius⟩ := ShapeStyle.beq_iff.mp h
    obtain ⟨hcolor', hopacity', hradius'⟩ := ShapeStyle.beq_iff.mp h'
    exact ShapeStyle.beq_iff.mpr ⟨hcolor.trans hcolor', PartialEquivBEq.trans hopacity hopacity',
      hradius.trans hradius'⟩

variable {ι κ : Type}

instance [BEq ι] [LawfulBEq ι] : LawfulBEq (WireframeContent ι) where
  rfl {a} := by
    cases a with
    | shape => rfl
    | text shown style position =>
      change (shown == shown && (style == style && position == position)) = true
      simp only [BEq.rfl, Bool.and_self]
    | image picture => exact BEq.rfl (a := picture)
  eq_of_beq {a b} h := by
    cases a <;> cases b <;> first | cases h | skip
    case shape.shape => rfl
    case text.text shown style position shown' style' position' =>
      change (shown == shown' && (style == style' && position == position')) = true at h
      simp only [Bool.and_eq_true, beq_iff_eq] at h
      obtain ⟨rfl, rfl, rfl⟩ := h
      rfl
    case image.image picture picture' =>
      exact congrArg WireframeContent.image (eq_of_beq (α := ι) h)

/-- Two wireframes are alike exactly if their parts are. -/
theorem Wireframe.beq_iff [BEq ι] [LawfulBEq ι] {a b : Wireframe ι} : (a == b) = true ↔
    a.id = b.id ∧ a.bounds = b.bounds ∧ (a.style == b.style) = true ∧ a.border = b.border ∧
      a.content = b.content := by
  change (a.id == b.id && (a.bounds == b.bounds && (a.style == b.style
    && (a.border == b.border && a.content == b.content)))) = true ↔ _
  simp only [Bool.and_eq_true, beq_iff_eq]

instance [BEq ι] [LawfulBEq ι] : PartialEquivBEq (Wireframe ι) where
  symm h := by
    obtain ⟨hid, hbounds, hstyle, hborder, hcontent⟩ := Wireframe.beq_iff.mp h
    exact Wireframe.beq_iff.mpr ⟨hid.symm, hbounds.symm, PartialEquivBEq.symm hstyle, hborder.symm,
      hcontent.symm⟩
  trans h h' := by
    obtain ⟨hid, hbounds, hstyle, hborder, hcontent⟩ := Wireframe.beq_iff.mp h
    obtain ⟨hid', hbounds', hstyle', hborder', hcontent'⟩ := Wireframe.beq_iff.mp h'
    exact Wireframe.beq_iff.mpr ⟨hid.trans hid', hbounds.trans hbounds',
      PartialEquivBEq.trans hstyle hstyle', hborder.trans hborder', hcontent.trans hcontent'⟩

/-! ## Replacing pictures -/

/-- What a wireframe becomes depends on its own picture only. -/
theorem Wireframe.map_congr {f g : ι → κ} {w : Wireframe ι}
    (h : ∀ picture ∈ w.picture?, f picture = g picture) : w.map f = w.map g := by
  obtain ⟨id, bounds, style, border, content⟩ := w
  cases content with
  | image picture =>
    have hpicture := h picture rfl
    simp only [map, WireframeContent.map, hpicture]
  | _ => rfl

/-- Wireframes with the pictures that are there. -/
def Gallery.painted (g : Gallery) (ws : List (Wireframe Slot)) : List (Wireframe Picture) :=
  ws.map (·.map g.picture?)

end SessionReplay
