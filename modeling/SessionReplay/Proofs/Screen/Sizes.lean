import SessionReplay.Proofs.Screen.Furnishing

/-!
# The size of pictures

A view is described by a picture only if the sides of its area, in units independent of the density,
are from one up to the limit (`Mapper.image_modest`), and nothing else describes a view by a
picture. So all pictures of a walk are of such a size (`View.walkAll_modest`), and numbering them
changes nothing but the pictures themselves (`Node.outlines_numberAll`).
-/

namespace SessionReplay

variable {ι κ : Type} {limit : Int}

/-- A rectangle with sides from one up to a limit. -/
structure Bounds.Within (limit : Int) (b : Bounds) : Prop where
  /-- From left to right. -/
  width : 1 ≤ b.width ∧ b.width ≤ limit
  /-- From top to bottom. -/
  height : 1 ≤ b.height ∧ b.height ≤ limit

/-- A wireframe that shows a picture has sides from one up to a limit. -/
def Wireframe.Modest (limit : Int) (w : Wireframe ι) : Prop :=
  w.picture?.isSome = true → w.bounds.Within limit

/-- Which picture it is does not matter. -/
theorem Wireframe.modest_map (f : ι → κ) (w : Wireframe ι) :
    (w.map f).Modest limit ↔ w.Modest limit := by
  obtain ⟨id, bounds, style, border, content⟩ := w
  cases content <;> exact Iff.rfl

/-! ## Mappers -/

/-- A mapper describes views by pictures of such a size only. -/
def Mapper.Modest (limit : Int) (m : Mapper) : Prop :=
  ∀ screen v, ∀ w ∈ m.describe screen v, w.Modest limit

namespace Mapper

/-- The area of a view is no picture. -/
theorem area_modest : area.Modest limit := by
  intro screen v w hw
  rw [List.mem_singleton.mp hw]
  exact nofun

/-- Neither is its text. -/
theorem text_modest : text.Modest limit := by
  intro screen v w hw
  unfold describe at hw
  dsimp only at hw
  split at hw
  · rw [List.mem_singleton.mp hw]
    exact nofun
  · exact area_modest screen v w hw

/-- A picture is shown only if it has such a size. -/
theorem image_modest : (image limit).Modest limit := by
  intro screen v w hw
  unfold describe at hw
  dsimp only at hw
  split at hw
  next hshows =>
    rw [List.mem_singleton.mp hw]
    intro _
    unfold showsPicture at hshows
    simp only [Bool.and_eq_true, decide_eq_true_eq] at hshows
    obtain ⟨⟨⟨⟨-, hwidth⟩, hheight⟩, hnarrow⟩, hlow⟩ := hshows
    exact ⟨⟨hwidth, hnarrow⟩, hheight, hlow⟩
  next => exact area_modest screen v w hw

end Mapper

/-- **The mappers for texts, pictures and everything else** describe views by pictures of such a
size only. -/
theorem MapperTable.builtin_modest (className : String) :
    ((builtin limit).mapper className).Modest limit := by
  unfold mapper
  cases hfound : (builtin limit).byClass.lookup className with
  | none => exact Mapper.area_modest
  | some m =>
    obtain ⟨before, after, htable, -⟩ := List.lookup_eq_some_iff.mp hfound
    have hmem : (className, m) ∈ (builtin limit).byClass := by simp [htable]
    rcases List.mem_append.mp hmem with htext | himage
    · obtain ⟨_, -, heq⟩ := List.mem_map.mp htext
      cases heq
      exact Mapper.text_modest
    · obtain ⟨_, -, heq⟩ := List.mem_map.mp himage
      cases heq
      exact Mapper.image_modest

/-! ## The walk -/

namespace View

variable {table : MapperTable}

mutual

/-- The pictures of a view and of the views in it are of such a size. -/
theorem walk_modest (htable : ∀ className, (table.mapper className).Modest limit)
    (screen : ScreenInfo) : ∀ v : View, ∀ n ∈ walk table screen v, ∀ w ∈ n.flatten, w.Modest limit
  | .mk id className visible alpha bounds background text drawable children, n, hn, w, hw => by
    unfold walk at hn
    split at hn
    · cases hn
      rw [Node.flatten_mk] at hw
      rcases List.mem_append.mp hw with hown | hinner
      · exact htable className screen _ w hown
      · exact walkAll_modest htable screen children w hinner
    · cases hn

/-- **The pictures of a walk are of such a size.** -/
theorem walkAll_modest (htable : ∀ className, (table.mapper className).Modest limit)
    (screen : ScreenInfo) :
    ∀ vs : List View, ∀ w ∈ Node.flattenAll (walkAll table screen vs), w.Modest limit
  | [], w, hw => (List.not_mem_nil hw).elim
  | v :: vs, w, hw => by
    unfold walkAll at hw
    split at hw
    next n hn =>
      rcases List.mem_append.mp hw with hfirst | hrest
      · exact walk_modest htable screen v n hn w hfirst
      · exact walkAll_modest htable screen vs w hrest
    next => exact walkAll_modest htable screen vs w hw

end

end View

/-! ## Numbering -/

namespace Node

/-- **Numbering changes nothing but the pictures.** -/
theorem outlines_numberAll (next : Slot) (ns : List (Node CopySource)) :
    Wireframe.outlines (flattenAll (numberAll next ns).1) = Wireframe.outlines (flattenAll ns) :=
  (Studio.counter.furnishNodes_furnishes ns next).outlines

/-- Numbering leaves the size of pictures as it is. -/
theorem numberAll_modest {ns : List (Node CopySource)} (h : ∀ w ∈ flattenAll ns, w.Modest limit)
    (next : Slot) : ∀ w ∈ flattenAll (numberAll next ns).1, w.Modest limit := by
  intro w hw
  have hmem : w.map (fun _ => ()) ∈ Wireframe.outlines (flattenAll (numberAll next ns).1) :=
    List.mem_map_of_mem hw
  rw [outlines_numberAll] at hmem
  obtain ⟨old, hold, heq⟩ := List.mem_map.mp hmem
  rw [← Wireframe.modest_map fun _ => (), ← heq, Wireframe.modest_map]
  exact h old hold

end Node

end SessionReplay
