import SessionReplay.Screen.Mapping

/-!
# A walk and its sketch

A walk orders pictures while it goes on, and flattening appends to what is there. Both can be said in two
steps, which is how the other modules speak of them.

* `Node.flatten_mk`: the flattening of a node is its own wireframes and then the flattenings of its children.
* `View.produceAll_eq`: a walk makes a sketch and orders the pictures of the sketch, for every studio.
* `Studio.Furnishes`: ordering the pictures of a sketch is ordering the pictures of its flattening, one after
  the other, and changes nothing but the pictures (`Studio.furnishNodes_furnishes`).
* `Studio.Numbered`: a studio that hands out consecutive places numbers the pictures of a sketch.
-/

namespace SessionReplay

variable {ι σ : Type}

/-! ## Flattening -/

namespace Node

/-- Of no nodes nothing is flattened. -/
theorem flattenAll_nil : flattenAll ([] : List (Node ι)) = [] := rfl

/-- The first node is flattened first. -/
theorem flattenAll_cons (n : Node ι) (ns : List (Node ι)) :
    flattenAll (n :: ns) = n.flatten ++ flattenAll ns := rfl

mutual

/-- Appending the wireframes of a node is appending its flattening. -/
theorem toList_flattenInto : ∀ (n : Node ι) (out : Array (Wireframe ι)),
    (n.flattenInto out).toList = out.toList ++ n.flatten
  | ⟨wireframes, children⟩, out => by
    have hchildren := toList_flattenEachInto children
    unfold flatten flattenInto
    rw [hchildren, hchildren]
    simp

/-- Appending the wireframes of several nodes is appending their flattenings. -/
theorem toList_flattenEachInto : ∀ (ns : List (Node ι)) (out : Array (Wireframe ι)),
    (flattenEachInto out ns).toList = out.toList ++ flattenAll ns
  | [], out => by
    rw [flattenEachInto, flattenAll_nil, List.append_nil]
  | n :: ns, out => by
    rw [flattenEachInto, toList_flattenEachInto ns, toList_flattenInto n, flattenAll_cons,
      List.append_assoc]

end

/-- **The flattening of a node**: its own wireframes, and then those of its children. -/
theorem flatten_mk (wireframes : List (Wireframe ι)) (children : List (Node ι)) :
    flatten ⟨wireframes, children⟩ = wireframes ++ flattenAll children := by
  unfold flatten flattenInto
  rw [toList_flattenEachInto]
  simp

end Node

/-! ## Wireframes and their pictures -/

namespace Wireframe

/-- The pictures of several wireframes. -/
def pictures (ws : List (Wireframe ι)) : List ι := ws.filterMap picture?

/-- The pictures of wireframes are those of the first ones and of the others. -/
theorem pictures_append (ws ws' : List (Wireframe ι)) :
    pictures (ws ++ ws') = pictures ws ++ pictures ws' := List.filterMap_append

/-- Wireframes without what their pictures are. -/
def outlines (ws : List (Wireframe ι)) : List (Wireframe Unit) := ws.map (Wireframe.map fun _ => ())

/-- The outlines of wireframes are those of the first ones and of the others. -/
theorem outlines_append (ws ws' : List (Wireframe ι)) :
    outlines (ws ++ ws') = outlines ws ++ outlines ws' := List.map_append

end Wireframe

/-! ## Orders -/

namespace Studio

variable (studio : Studio σ)

/-- Orders go on where they stopped. -/
theorem orderAll_append (ps ps' : List CopySource) (s : σ) :
    studio.orderAll (ps ++ ps') s
      = ((studio.orderAll ps s).1 ++ (studio.orderAll ps' (studio.orderAll ps s).2).1,
        (studio.orderAll ps' (studio.orderAll ps s).2).2) := by
  induction ps generalizing s with
  | nil => rfl
  | cons p ps ih =>
    rw [List.cons_append]
    simp only [orderAll, ih, List.cons_append]

/-- Wireframes are furnished: their pictures were ordered one after the other, what is shown are the places
for them, and nothing else of the wireframes has changed. -/
structure Furnishes (ws : List (Wireframe CopySource)) (s : σ) (done : List (Wireframe Slot) × σ) :
    Prop where
  /-- Nothing but the pictures has changed. -/
  outlines : Wireframe.outlines done.1 = Wireframe.outlines ws
  /-- The pictures were ordered. -/
  ordered : (Wireframe.pictures done.1, done.2) = studio.orderAll (Wireframe.pictures ws) s

namespace Furnishes

variable {studio}

/-- There is nothing to order for no wireframe. -/
theorem nil (s : σ) : studio.Furnishes [] s ([], s) := ⟨rfl, rfl⟩

/-- Wireframes are furnished one after the other. -/
theorem append {ws ws' : List (Wireframe CopySource)} {s : σ} {done done' : List (Wireframe Slot) × σ}
    (h : studio.Furnishes ws s done) (h' : studio.Furnishes ws' done.2 done') :
    studio.Furnishes (ws ++ ws') s (done.1 ++ done'.1, done'.2) := by
  have hfirst := Prod.mk.inj h.ordered
  have hrest := Prod.mk.inj h'.ordered
  refine ⟨?_, ?_⟩
  · rw [Wireframe.outlines_append, Wireframe.outlines_append, h.outlines, h'.outlines]
  · rw [Wireframe.pictures_append, Wireframe.pictures_append, orderAll_append, ← hfirst.1, ← hfirst.2,
      ← hrest.1, ← hrest.2]

end Furnishes

/-- A wireframe is furnished. -/
theorem furnish_furnishes (w : Wireframe CopySource) (s : σ) :
    studio.Furnishes [w] s ([(studio.furnish w s).1], (studio.furnish w s).2) := by
  obtain ⟨id, bounds, style, border, content⟩ := w
  cases content <;> exact ⟨rfl, rfl⟩

/-- Several wireframes are furnished. -/
theorem furnishAll_furnishes (ws : List (Wireframe CopySource)) (s : σ) :
    studio.Furnishes ws s (studio.furnishAll ws s) := by
  induction ws generalizing s with
  | nil => exact .nil s
  | cons w ws ih => exact (studio.furnish_furnishes w s).append (ih (studio.furnish w s).2)

mutual

/-- A sketch is furnished in the order in which it is painted. -/
theorem furnishNode_furnishes : ∀ (n : Node CopySource) (s : σ),
    studio.Furnishes n.flatten s
      ((studio.furnishNode n s).1.flatten, (studio.furnishNode n s).2)
  | ⟨wireframes, children⟩, s => by
    have hown := studio.furnishAll_furnishes wireframes s
    have hall := hown.append (furnishNodes_furnishes children (studio.furnishAll wireframes s).2)
    rw [Node.flatten_mk]
    unfold furnishNode
    dsimp only
    rw [Node.flatten_mk]
    exact hall

/-- **Sketches are furnished in the order in which they are painted.** -/
theorem furnishNodes_furnishes : ∀ (ns : List (Node CopySource)) (s : σ),
    studio.Furnishes (Node.flattenAll ns) s
      (Node.flattenAll (studio.furnishNodes ns s).1, (studio.furnishNodes ns s).2)
  | [], s => .nil s
  | n :: ns, s =>
    (furnishNode_furnishes n s).append (furnishNodes_furnishes ns (studio.furnishNode n s).2)

end

end Studio

/-! ## The walk -/

/-- A mapper describes a view and orders the pictures of the description. -/
theorem Mapper.map_eq (m : Mapper) (studio : Studio σ) (screen : ScreenInfo) (v : View) (s : σ) :
    m.map studio screen v s = studio.furnishAll (m.describe screen v) s := by
  cases m with
  | area => rfl
  | text =>
    simp only [map, describe]
    cases v.text <;> rfl
  | image sideLimit =>
    simp only [map, describe]
    cases showsPicture sideLimit screen v <;> rfl
  | custom describe => rfl

namespace View

variable (table : MapperTable) (screen : ScreenInfo) (studio : Studio σ)

mutual

/-- The walk over a view furnishes its sketch. -/
theorem produce_eq : ∀ (v : View) (s : σ), produce table screen studio v s
      = (walk table screen v).elim (none, s) fun n => ((studio.furnishNode n s).1, (studio.furnishNode n s).2)
  | .mk id className visible alpha bounds background text drawable children, s => by
    have hchildren := produceAll_eq children
    unfold produce walk
    cases visible with
    | false => rfl
    | true =>
      simp only [Mapper.map_eq, hchildren]
      rfl

/-- **A walk furnishes its sketch.** -/
theorem produceAll_eq : ∀ (vs : List View) (s : σ),
    produceAll table screen studio vs s = studio.furnishNodes (walkAll table screen vs) s
  | [], s => rfl
  | v :: vs, s => by
    have hfirst := produce_eq v s
    have hrest := produceAll_eq vs
    unfold produceAll walkAll
    rw [hfirst]
    cases walk table screen v with
    | none => simp [hrest]
    | some n => simp [hrest, Studio.furnishNodes]

end

end View

/-! ## Places that are numbers -/

namespace Studio

/-- A studio hands out consecutive places, where `next` is the one that comes next. -/
structure Numbered (studio : Studio σ) (next : σ → Slot) : Prop where
  /-- The next place is handed out, and then the one after it is the next. -/
  place : ∀ s, (studio.place s).1 = next s ∧ next (studio.place s).2 = next s + 1
  /-- A job takes no place. -/
  startJob : ∀ s, next (studio.startJob s) = next s
  /-- Neither does a copy. -/
  capture : ∀ source slot s, next (studio.capture source slot s) = next s

variable {studio : Studio σ} {next : σ → Slot}

/-- The place of a picture is the next number. -/
theorem Numbered.order (h : studio.Numbered next) (source : CopySource) (s : σ) :
    Prod.map id next (studio.order source s) = counter.order source (next s) := by
  obtain ⟨hplace, hnext⟩ := h.place s
  unfold Studio.order
  dsimp only [Prod.map, counter, id]
  rw [h.capture, h.startJob, hplace, hnext]

/-- What is done in two parts gives the same numbers if each part does. -/
theorem inTurn_eq {α β γ : Type} {next : σ → Slot} {f : σ → α × σ} {g : σ → β × σ}
    {f' : Slot → α × Slot} {g' : Slot → β × Slot} (both : α → β → γ)
    (hf : ∀ s, Prod.map id next (f s) = f' (next s)) (hg : ∀ s, Prod.map id next (g s) = g' (next s))
    (s : σ) :
    Prod.map id next (both (f s).1 (g (f s).2).1, (g (f s).2).2)
      = (both (f' (next s)).1 (g' (f' (next s)).2).1, (g' (f' (next s)).2).2) := by
  have hrest := hg (f s).2
  rw [← hf s]
  dsimp only [Prod.map, id]
  rw [← hrest]
  rfl

/-- The picture of a wireframe gets the same number. -/
theorem Numbered.furnish (h : studio.Numbered next) (w : Wireframe CopySource) (s : σ) :
    Prod.map id next (studio.furnish w s) = counter.furnish w (next s) := by
  obtain ⟨wid, bounds, style, border, content⟩ := w
  cases content with
  | image source =>
    unfold Studio.furnish
    dsimp only
    rw [← h.order]
    rfl
  | _ => rfl

/-- Wireframes get the same numbers. -/
theorem Numbered.furnishAll (h : studio.Numbered next) (ws : List (Wireframe CopySource)) (s : σ) :
    Prod.map id next (studio.furnishAll ws s) = counter.furnishAll ws (next s) := by
  induction ws generalizing s with
  | nil => rfl
  | cons w ws ih => exact inTurn_eq List.cons (h.furnish w) ih s

mutual

/-- A sketch gets the same numbers. -/
theorem Numbered.furnishNode (h : studio.Numbered next) : ∀ (n : Node CopySource) (s : σ),
    Prod.map id next (studio.furnishNode n s) = counter.furnishNode n (next s)
  | ⟨wireframes, children⟩, s =>
    inTurn_eq Node.mk (h.furnishAll wireframes) (h.furnishNodes children) s

/-- **Such a studio numbers the pictures of sketches.** -/
theorem Numbered.furnishNodes (h : studio.Numbered next) : ∀ (ns : List (Node CopySource)) (s : σ),
    Prod.map id next (studio.furnishNodes ns s) = counter.furnishNodes ns (next s)
  | [], _ => rfl
  | n :: ns, s => inTurn_eq List.cons (h.furnishNode n) (h.furnishNodes ns) s

end

end Studio

end SessionReplay
