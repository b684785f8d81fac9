import Mathlib.Data.List.Forall2
import SessionReplay.Proofs.Screen.Numbering
import SessionReplay.Proofs.Screen.Sizes

/-!
# The walk mirrors the views

What the walk over some views comes to, said without the walk. `View.preorder` lists all views of a tree
with the views around each, and `View.shown` keeps those that can be seen. Exactly these are described, in
this order and by one wireframe each, and for those among them that are to be pictured, and for no others,
a picture is ordered (`View.produceAll_mirrors`).

* `MapperTable.describe_builtin`: the mappers for texts, pictures and everything else give one wireframe,
  and it shows a picture exactly if the view is to be pictured (`View.Pictured`).
* `View.produce_eq_none_iff`: there is no node exactly for a view that is not visible.
* `View.walkAll_mirrors`: the sketches stand for the views that can be seen. The induction is on the views,
  and what is flattened goes along with it.
* `Wireframe.Depicts.outline`: furnishing the sketches changes nothing of this.
-/

namespace SessionReplay

variable {ι : Type} {limit : Int} {screen : ScreenInfo}

namespace View

/-! ## Views that can be seen -/

mutual

/-- A view and all views in it in pre-order, each with the views around it, the innermost first. -/
def preorder (outer : List View) : View → List (List View × View)
  | v@(.mk _ _ _ _ _ _ _ _ children) => (outer, v) :: preorderAll (v :: outer) children

/-- Several views and all views in them. -/
def preorderAll (outer : List View) : List View → List (List View × View)
  | [] => []
  | v :: rest => preorder outer v ++ preorderAll outer rest

end

/-- Whether a view can be seen: it is visible, and so are all views around it. -/
def isShown : List View × View → Bool
  | (outer, v) => v.visible && outer.all (·.visible)

/-- The views that can be seen, in pre-order. -/
def shown (roots : List View) : List View :=
  ((preorderAll [] roots).filter isShown).map Prod.snd

mutual

/-- In a view that is not visible nothing can be seen. -/
theorem filter_preorder_of_hidden {outer : List View} (h : outer.all (·.visible) = false) :
    ∀ v : View, (preorder outer v).filter isShown = []
  | .mk id className visible alpha bounds background text drawable children => by
    have hinner : (View.mk id className visible alpha bounds background text drawable children
        :: outer).all (·.visible) = false := by simp [h]
    rw [preorder, List.filter_cons_of_neg (by simp [isShown, h]), filter_preorderAll_of_hidden hinner]

/-- The same of several views. -/
theorem filter_preorderAll_of_hidden {outer : List View} (h : outer.all (·.visible) = false) :
    ∀ vs : List View, (preorderAll outer vs).filter isShown = []
  | [] => rfl
  | v :: vs => by
    rw [preorderAll, List.filter_append, filter_preorder_of_hidden h, filter_preorderAll_of_hidden h]
    rfl

end

/-! ## Views that are pictured -/

/-- A view is to be pictured: it is of a class that shows pictures, it shows one, and its sides are from one
up to the limit. -/
structure Pictured (limit : Int) (screen : ScreenInfo) (v : View) : Prop where
  className : v.className ∈ imageClasses
  drawable : v.drawable = true
  size : (v.bounds.normalize screen.density).Within limit

/-- Whether a view is to be pictured can be computed. -/
theorem pictured_iff {v : View} : v.Pictured limit screen
    ↔ v.className ∈ imageClasses ∧ Mapper.showsPicture limit screen v = true := by
  unfold Mapper.showsPicture
  simp only [Bool.and_eq_true, decide_eq_true_eq]
  constructor
  · rintro ⟨hclass, hdrawable, ⟨hwidth, hnarrow⟩, hheight, hlow⟩
    exact ⟨hclass, ⟨⟨⟨hdrawable, hwidth⟩, hheight⟩, hnarrow⟩, hlow⟩
  · rintro ⟨hclass, ⟨⟨⟨hdrawable, hwidth⟩, hheight⟩, hnarrow⟩, hlow⟩
    exact ⟨hclass, hdrawable, ⟨hwidth, hnarrow⟩, hheight, hlow⟩

instance : DecidablePred (Pictured limit screen) := fun _ => decidable_of_iff' _ pictured_iff

end View

/-! ## One wireframe for a view -/

/-- A wireframe stands for a view: it has its id and its place, and it shows a picture exactly if the view is
to be pictured. -/
structure Wireframe.Depicts (limit : Int) (screen : ScreenInfo) (v : View) (w : Wireframe ι) : Prop where
  id : w.id = v.id
  bounds : w.bounds = v.bounds.normalize screen.density
  picture : w.picture?.isSome = true ↔ v.Pictured limit screen

/-- It does not matter which picture it is. -/
theorem Wireframe.Depicts.outline {v : View} {w : Wireframe ι} :
    Depicts limit screen v (w.map fun _ => ()) ↔ Depicts limit screen v w := by
  have hpicture : (w.map fun _ => ()).picture?.isSome = w.picture?.isSome := by
    obtain ⟨id, bounds, style, border, content⟩ := w
    cases content <;> rfl
  constructor
  · rintro ⟨hid, hbounds, h⟩
    exact ⟨hid, hbounds, hpicture ▸ h⟩
  · rintro ⟨hid, hbounds, h⟩
    exact ⟨hid, hbounds, hpicture ▸ h⟩

/-- Wireframes have the ids of the views that they stand for. -/
theorem Wireframe.ids_of_depicts {vs : List View} {ws : List (Wireframe ι)}
    (h : List.Forall₂ (Depicts limit screen) vs ws) : ws.map Wireframe.id = vs.map View.id := by
  induction h with
  | nil => rfl
  | cons hfirst _ ih => rw [List.map_cons, List.map_cons, hfirst.id, ih]

/-- A wireframe that stands for a view, and whose picture is made of the pixels of that view. -/
def Wireframe.Sketches (limit : Int) (screen : ScreenInfo) (v : View) (w : Wireframe CopySource) : Prop :=
  w.Depicts limit screen v ∧ ∀ source ∈ w.picture?, source = v.copySource

namespace MapperTable

/-- The built-in mappers: a class has one mapper at most. -/
theorem mapper_builtin (limit : Int) (className : String) :
    (builtin limit).mapper className
      = if className ∈ textClasses then Mapper.text
        else if className ∈ imageClasses then Mapper.image limit else Mapper.area := by
  have hlookup : ∀ (classes : List String) (m : Mapper),
      (classes.map (·, m)).lookup className = if className ∈ classes then some m else none := by
    intro classes m
    induction classes with
    | nil => rfl
    | cons c classes ih =>
      rw [List.map_cons, List.lookup_cons, ih]
      by_cases hc : className = c
      · simp [hc]
      · simp [beq_false_of_ne hc, hc]
  unfold mapper builtin
  rw [List.lookup_append, hlookup, hlookup]
  split
  · rfl
  · split <;> rfl

/-- **A view is described by one wireframe**, which stands for it. -/
theorem describe_builtin (limit : Int) (screen : ScreenInfo) (v : View) :
    ∃ w, (builtin limit).describe screen v = [w] ∧ w.Sketches limit screen v := by
  have hplain : ∀ content : WireframeContent CopySource, (v.wireframe screen content).picture? = none →
      ¬v.Pictured limit screen → (v.wireframe screen content).Sketches limit screen v := by
    intro content hnone hnot
    refine ⟨⟨rfl, rfl, ?_⟩, ?_⟩
    · simp [hnone, hnot]
    · simp [hnone]
  have harea : ¬v.Pictured limit screen →
      ∃ w, Mapper.area.describe screen v = [w] ∧ w.Sketches limit screen v :=
    fun hnot => ⟨_, rfl, hplain .shape rfl hnot⟩
  have hdisjoint : ∀ className ∈ textClasses, className ∉ imageClasses := by decide
  unfold describe
  rw [mapper_builtin]
  split
  next htext =>
    have hnot : ¬v.Pictured limit screen := fun h => hdisjoint _ htext h.className
    unfold Mapper.describe
    dsimp only
    split
    next t _ => exact ⟨_, rfl, hplain _ rfl hnot⟩
    next => exact harea hnot
  next =>
    split
    next himage =>
      unfold Mapper.describe
      dsimp only
      split
      next hshows =>
        refine ⟨_, rfl, ⟨rfl, rfl, ?_⟩, ?_⟩
        · exact ⟨fun _ => View.pictured_iff.mpr ⟨himage, hshows⟩, fun _ => rfl⟩
        · rintro source ⟨⟩
          rfl
      next hshows => exact harea fun h => hshows (View.pictured_iff.mp h).2
    next hother => exact harea fun h => hother h.className

end MapperTable

namespace View

/-- **There is no node exactly for a view that is not visible.** -/
theorem walk_eq_none_iff {table : MapperTable} {v : View} :
    walk table screen v = none ↔ v.visible = false := by
  obtain ⟨id, className, visible, alpha, bounds, background, text, drawable, children⟩ := v
  unfold walk
  cases visible <;> simp

mutual

/-- Of a view in views that can be seen, what can be seen is described. -/
theorem walk_mirrors (limit : Int) (screen : ScreenInfo) {outer : List View}
    (houter : outer.all (·.visible) = true) : ∀ v : View,
    List.Forall₂ (Wireframe.Sketches limit screen) (((preorder outer v).filter isShown).map Prod.snd)
      ((walk (.builtin limit) screen v).elim [] Node.flatten)
  | .mk id className true alpha bounds background text drawable children => by
    let v : View := .mk id className true alpha bounds background text drawable children
    have hinner : (v :: outer).all (·.visible) = true := by simp [v, houter]
    obtain ⟨w, hw, hsketch⟩ := MapperTable.describe_builtin limit screen v
    have hshown : ((preorder outer v).filter isShown).map Prod.snd
        = v :: ((preorderAll (v :: outer) children).filter isShown).map Prod.snd := by
      rw [preorder, List.filter_cons_of_pos (by simpa [isShown] using houter), List.map_cons]
    have hwalk : (walk (.builtin limit) screen v).elim [] Node.flatten
        = w :: Node.flattenAll (walkAll (.builtin limit) screen children) := by
      rw [walk, hw]
      exact Node.flatten_mk [w] _
    rw [hshown, hwalk]
    exact .cons hsketch (walkAll_mirrors_within limit screen hinner children)
  | .mk id className false alpha bounds background text drawable children => by
    have hinner : (View.mk id className false alpha bounds background text drawable children
        :: outer).all (·.visible) = false := by simp
    rw [preorder, List.filter_cons_of_neg (by simp [isShown]), filter_preorderAll_of_hidden hinner, walk]
    exact .nil

/-- The same of several views. -/
theorem walkAll_mirrors_within (limit : Int) (screen : ScreenInfo) {outer : List View}
    (houter : outer.all (·.visible) = true) : ∀ vs : List View,
    List.Forall₂ (Wireframe.Sketches limit screen) (((preorderAll outer vs).filter isShown).map Prod.snd)
      (Node.flattenAll (walkAll (.builtin limit) screen vs))
  | [] => .nil
  | v :: vs => by
    have hfirst := walk_mirrors limit screen houter v
    have hrest := walkAll_mirrors_within limit screen houter vs
    have hflatten : Node.flattenAll (walkAll (.builtin limit) screen (v :: vs))
        = (walk (.builtin limit) screen v).elim [] Node.flatten
          ++ Node.flattenAll (walkAll (.builtin limit) screen vs) := by
      rw [walkAll]
      cases walk (.builtin limit) screen v <;> rfl
    rw [hflatten, preorderAll, List.filter_append, List.map_append]
    exact List.rel_append hfirst hrest

end

/-- **What can be seen is described**, in pre-order and by one wireframe each. -/
theorem walkAll_mirrors (limit : Int) (screen : ScreenInfo) (roots : List View) :
    List.Forall₂ (Wireframe.Sketches limit screen) (shown roots)
      (Node.flattenAll (walkAll (.builtin limit) screen roots)) :=
  walkAll_mirrors_within limit screen rfl roots

end View

/-! ## The pictures -/

/-- The pictures are made of the pixels of the views that are to be pictured. -/
theorem Wireframe.pictures_of_sketches {vs : List View} {ws : List (Wireframe CopySource)}
    (h : List.Forall₂ (Sketches limit screen) vs ws) :
    pictures ws = (vs.filter fun v => decide (v.Pictured limit screen)).map View.copySource := by
  induction h with
  | nil => rfl
  | @cons v w vs ws hfirst _ ih =>
    obtain ⟨hdepicts, hsource⟩ := hfirst
    have hpictures : pictures (w :: ws) = w.picture?.toList ++ pictures ws := by
      unfold pictures
      cases hpicture : w.picture? <;> simp [hpicture]
    rw [hpictures, ih, List.filter_cons]
    cases hpicture : w.picture? with
    | none =>
      have hnot : ¬v.Pictured limit screen := by simpa [hpicture] using hdepicts.picture.not
      simp [hnot]
    | some source =>
      have hpictured : v.Pictured limit screen := hdepicts.picture.mp (by simp [hpicture])
      simp [hpictured, hsource source hpicture]

/-- Wireframes stand for the same views whatever their pictures are. -/
theorem Wireframe.depicts_of_outlines {κ : Type} {vs : List View} {ws : List (Wireframe ι)}
    {ws' : List (Wireframe κ)} (houtlines : outlines ws' = outlines ws)
    (h : List.Forall₂ (Depicts limit screen) vs ws) : List.Forall₂ (Depicts limit screen) vs ws' := by
  have hany : ∀ {κ : Type} (ws : List (Wireframe κ)),
      List.Forall₂ (Depicts limit screen) vs (outlines ws) ↔ List.Forall₂ (Depicts limit screen) vs ws := by
    intro κ ws
    unfold outlines
    rw [List.forall₂_map_right_iff]
    simp only [Depicts.outline]
  rw [← hany, houtlines, hany]
  exact h

/-! ## The walk with its orders -/

namespace View

variable {σ : Type} {studio : Studio σ}

/-- The sources of the pictures of the views that can be seen and are to be pictured, in order. -/
def sources (limit : Int) (screen : ScreenInfo) (roots : List View) : List CopySource :=
  ((shown roots).filter fun v => decide (v.Pictured limit screen)).map copySource

/-- **There is no node exactly for a view that is not visible.** -/
theorem produce_eq_none_iff {table : MapperTable} {v : View} {s : σ} :
    (produce table screen studio v s).1 = none ↔ v.visible = false := by
  have hwalk : walk table screen v = none ↔ v.visible = false := walk_eq_none_iff
  rw [produce_eq, ← hwalk]
  cases walk table screen v <;> simp

/-- **What can be seen is described, and what is to be pictured is ordered**, both in pre-order. -/
theorem produceAll_mirrors (limit : Int) (screen : ScreenInfo) (studio : Studio σ) (roots : List View)
    (s : σ) :
    let walked := produceAll (.builtin limit) screen studio roots s
    List.Forall₂ (Wireframe.Depicts limit screen) (shown roots) (Node.flattenAll walked.1) ∧
      (Wireframe.pictures (Node.flattenAll walked.1), walked.2)
        = studio.orderAll (sources limit screen roots) s := by
  have hsketch := walkAll_mirrors limit screen roots
  have hfurnished := studio.furnishNodes_furnishes (walkAll (.builtin limit) screen roots) s
  intro walked
  unfold walked
  rw [produceAll_eq]
  refine ⟨?_, ?_⟩
  · exact Wireframe.depicts_of_outlines hfurnished.outlines (hsketch.imp fun _ _ h => h.1)
  · unfold sources
    rw [← Wireframe.pictures_of_sketches hsketch]
    exact hfurnished.ordered

/-- Of several views those are walked that are visible, one after the other, and each has one node. -/
theorem produceAll_roots (limit : Int) (screen : ScreenInfo) (studio : Studio σ) (roots : List View)
    (s : σ) :
    List.Forall₂ (fun v n => List.Forall₂ (Wireframe.Depicts limit screen) (shown [v]) n.flatten)
      (roots.filter View.visible) (produceAll (.builtin limit) screen studio roots s).1 := by
  induction roots generalizing s with
  | nil => exact .nil
  | cons v roots ih =>
    let first := produce (.builtin limit) screen studio v s
    have hcons : (produceAll (.builtin limit) screen studio (v :: roots) s).1
        = first.1.toList ++ (produceAll (.builtin limit) screen studio roots first.2).1 := rfl
    have hsingle : List.Forall₂ (Wireframe.Depicts limit screen) (shown [v])
        (Node.flattenAll (produceAll (.builtin limit) screen studio [v] s).1) :=
      (produceAll_mirrors limit screen studio [v] s).1
    have hone : (produceAll (.builtin limit) screen studio [v] s).1 = first.1.toList := by
      simp [produceAll, first]
    rw [hone] at hsingle
    rw [hcons, List.filter_cons]
    cases hnode : first.1 with
    | none =>
      have hhidden : v.visible = false := produce_eq_none_iff.mp hnode
      simpa [hhidden] using ih first.2
    | some n =>
      have hvisible : v.visible = true := by
        cases hv : v.visible with
        | true => rfl
        | false => cases (produce_eq_none_iff.mpr hv).symm.trans hnode
      rw [hnode] at hsingle
      rw [hvisible, if_pos rfl]
      exact .cons (by simpa [Node.flattenAll] using hsingle) (ih first.2)

end View

end SessionReplay
