import Mathlib.Data.List.Induction
import SessionReplay.Context.Tracker

/-!
# Changes of view that are handed back

An item that is not kept hands its change of view back, so that the next item carries it. If a later
item carried another change, handing back is to do nothing; but a tracker knows which view was seen
last, not which item saw it. An `Itinerary` is a tracker with what all its items remember. Its calls
make items and hand changes back, of any item and in any order, and the view that is active is
whatever it likes at each of them.

* `call_cases`: everything that a call can do.
* `calm_or_returned`: while the view of an item is the one seen last, either no later item carried a
  change, or the view was left and has been returned to.
* `undoes_later_change_iff_returned`: so a change that is handed back although a later item carried
  another one does something exactly if its view has been returned to.
* `undoes_return`: the smallest such run. The user goes to a second view and comes back, and handing
  back the change to the first view, of the item made before all that, makes it unseen.

The other way to return to a view is that the later change is handed back itself. The tracker then is
as it was before that change, and the earlier one can be handed back as well.
-/

namespace SessionReplay

/-- The item carries a change of the view. -/
def ContextData.Changes (d : ContextData) : Prop := d.previous ≠ d.current

instance : DecidablePred ContextData.Changes := fun d =>
  inferInstanceAs (Decidable (d.previous ≠ d.current))

/-- Handing back what an item remembers does something exactly if the item carries a change to the
view that was seen last. -/
theorem Tracker.restore_ne_iff (t : Tracker) (data : ContextData) :
    t.restore data ≠ t ↔ data.Changes ∧ t.last = data.current := by
  obtain ⟨last⟩ := t
  unfold restore ContextData.Changes
  by_cases hlast : last = data.current
  · subst hlast
    simp
  · simp [hlast]

/-- Something that is done with a tracker. -/
inductive TrackerCall where
  /-- An item is made while a view is active, or none is. -/
  | create (now : Int) (active : Option ViewContext)
  /-- What an item remembers is handed back; items are numbered as they were made. -/
  | restore (index : Nat)
deriving DecidableEq, Repr

/-- A tracker with what the items remember that were made. -/
structure Itinerary where
  /-- The tracker. -/
  tracker : Tracker := {}
  /-- What each item remembers. -/
  made : List ContextData := []
deriving DecidableEq, Repr

namespace Itinerary

/-- The itinerary after one more call. -/
def call (x : Itinerary) : TrackerCall → Itinerary
  | .create now active =>
    match x.tracker.create now active with
    | .ok (data, tracker) => ⟨tracker, x.made ++ [data]⟩
    | .error _ => x
  | .restore index =>
    match x.made[index]? with
    | some data => { x with tracker := x.tracker.restore data }
    | none => x

/-- The itinerary after some calls. -/
def after (calls : List TrackerCall) : Itinerary := calls.foldl call {}

/-- The last call comes after the others. -/
theorem after_concat (calls : List TrackerCall) (c : TrackerCall) :
    after (calls ++ [c]) = (after calls).call c := by
  simp [after]

/-- **Everything that a call can do.** It changes nothing; or it makes an item, which remembers the view
that was seen last and sees its own; or it hands back the change of an item whose view was seen last. -/
theorem call_cases (x : Itinerary) (c : TrackerCall) :
    x.call c = x ∨
    (∃ now view, c = .create now (some view) ∧ view.isValid = true ∧
      x.call c = ⟨⟨view⟩, x.made ++ [⟨now, x.tracker.last, view⟩]⟩) ∨
    ∃ index data, c = .restore index ∧ x.made[index]? = some data ∧
      x.tracker.last = data.current ∧ x.call c = ⟨⟨data.previous⟩, x.made⟩ := by
  cases c with
  | create now active =>
    cases active with
    | none => exact .inl rfl
    | some view =>
      by_cases hvalid : view.isValid = true
      · exact .inr (.inl ⟨now, view, rfl, hvalid, by simp [call, Tracker.create, hvalid]⟩)
      · exact .inl (by simp [call, Tracker.create, hvalid])
  | restore index =>
    cases hmade : x.made[index]? with
    | none => exact .inl (by simp [call, hmade])
    | some data =>
      by_cases hlast : x.tracker.last = data.current
      · exact .inr (.inr ⟨index, data, rfl, hmade, hlast, by
          simp [call, hmade, Tracker.restore, hlast]⟩)
      · exact .inl (by simp [call, hmade, Tracker.restore, hlast])

/-- A call makes one item at most, which remembers the view that was seen before the call and the one that
is seen after it. -/
theorem made_call (x : Itinerary) (c : TrackerCall) :
    (x.call c).made = x.made ∨ ∃ data, (x.call c).made = x.made ++ [data] ∧
      data.previous = x.tracker.last ∧ data.current = (x.call c).tracker.last := by
  rcases x.call_cases c with hsame | ⟨now, view, -, -, hcall⟩ | ⟨index, data, -, -, -, hcall⟩
  · exact .inl (by rw [hsame])
  · exact .inr ⟨⟨now, x.tracker.last, view⟩, by simp [hcall]⟩
  · exact .inl (by rw [hcall])

/-! ## Returning to a view -/

/-- A call by which a view becomes the one seen last that was not before: an item is made in it, or the
change of an item that left it is handed back. -/
inductive Enters (x : Itinerary) (view : ViewContext) : TrackerCall → Prop
  /-- An item is made in the view. -/
  | create (now : Int) (valid : view.isValid = true) (elsewhere : x.tracker.last ≠ view) :
    Enters x view (.create now (some view))
  /-- A change away from the view is handed back. -/
  | restore (index : Nat) (data : ContextData) (made : x.made[index]? = some data)
      (left : data.previous = view) (seen : x.tracker.last = data.current)
      (elsewhere : x.tracker.last ≠ view) : Enters x view (.restore index)

/-- There is no other way. -/
theorem enters_iff {x : Itinerary} {view : ViewContext} {c : TrackerCall} :
    x.Enters view c ↔ x.tracker.last ≠ view ∧ (x.call c).tracker.last = view := by
  constructor
  · rintro (⟨now, valid, elsewhere⟩ | ⟨index, data, made, rfl, seen, elsewhere⟩)
    · exact ⟨elsewhere, by simp [call, Tracker.create, valid]⟩
    · exact ⟨elsewhere, by simp [call, made, Tracker.restore, seen]⟩
  · intro ⟨elsewhere, hview⟩
    rcases x.call_cases c with hsame | ⟨now, other, rfl, valid, hcall⟩ |
      ⟨index, data, rfl, made, seen, hcall⟩
    · exact absurd (hsame ▸ hview) elsewhere
    · obtain rfl : other = view := by simpa [hcall] using hview
      exact .create now valid elsewhere
    · exact .restore index data made (by simpa [hcall] using hview) seen elsewhere

/-- After an item was made, its view was not the one seen last, became it by some call, and has been it
ever since. -/
def Returned (calls : List TrackerCall) (index : Nat) (view : ViewContext) : Prop :=
  ∃ before c rest, calls = before ++ c :: rest ∧ index < (after before).made.length ∧
    (after before).Enters view c ∧
    ∀ done, done <+: rest → (after (before ++ c :: done)).tracker.last = view

variable {calls : List TrackerCall} {index : Nat} {view : ViewContext} {data : ContextData}

/-- Who has returned to a view is there. -/
theorem Returned.last (h : Returned calls index view) : (after calls).tracker.last = view := by
  obtain ⟨before, c, rest, rfl, -, -, hstays⟩ := h
  exact hstays rest (List.prefix_refl rest)

/-- Who has returned to a view and stays there has still returned to it. -/
theorem Returned.concat (h : Returned calls index view) {c : TrackerCall}
    (hlast : (after (calls ++ [c])).tracker.last = view) : Returned (calls ++ [c]) index view := by
  obtain ⟨before, c', rest, rfl, hmade, henters, hstays⟩ := h
  refine ⟨before, c', rest ++ [c], by simp, hmade, henters, ?_⟩
  intro done hdone
  rcases List.prefix_concat_iff.mp hdone with rfl | hdone
  · simpa using hlast
  · exact hstays done hdone

/-- No item after a given one carries a change. -/
def Calm (calls : List TrackerCall) (index : Nat) : Prop :=
  ∀ later ∈ (after calls).made.drop (index + 1), ¬later.Changes

/-- The latest item has none after it. -/
theorem calm_of_length_le (h : (after calls).made.length ≤ index + 1) : Calm calls index := by
  intro later hlater
  simp [List.drop_eq_nil_of_le h] at hlater

/-- A call that leaves the view that was seen last makes no item that carries a change. -/
theorem Calm.concat (h : Calm calls index) (hmade : index < (after calls).made.length)
    {c : TrackerCall}
    (hstays : (after (calls ++ [c])).tracker.last = (after calls).tracker.last) :
    Calm (calls ++ [c]) index := by
  intro later hlater
  rw [after_concat] at hlater hstays
  rcases (after calls).made_call c with hsame | ⟨data, hnew, hprevious, hcurrent⟩
  · exact h later (hsame ▸ hlater)
  · rw [hnew, List.drop_append_of_le_length hmade] at hlater
    rcases List.mem_append.mp hlater with hold | hlatest
    · exact h later hold
    · rw [List.mem_singleton.mp hlatest]
      intro hchanges
      exact hchanges (hprevious.trans (hcurrent.trans hstays).symm)

/-- **While the view of an item is the one seen last**, no later item carried a change, or the view was
left and has been returned to. -/
theorem calm_or_returned (hmade : (after calls).made[index]? = some data)
    (hlast : (after calls).tracker.last = data.current) :
    Calm calls index ∨ Returned calls index data.current := by
  induction calls using List.reverseRecOn with
  | nil => simp [after] at hmade
  | append_singleton calls c ih =>
    by_cases hlt : index < (after calls).made.length
    · have hbefore : (after calls).made[index]? = some data := by
        rw [after_concat] at hmade
        rcases (after calls).made_call c with hsame | ⟨latest, hnew, -, -⟩
        · exact hsame ▸ hmade
        · rwa [hnew, List.getElem?_append_left hlt] at hmade
      by_cases hhere : (after calls).tracker.last = data.current
      · rcases ih hbefore hhere with hcalm | hreturned
        · exact .inl (hcalm.concat hlt (hlast.trans hhere.symm))
        · exact .inr (hreturned.concat hlast)
      · -- The view is returned to by this very call.
        refine .inr ⟨calls, c, [], rfl, hlt, ?_, ?_⟩
        · exact enters_iff.mpr ⟨hhere, after_concat calls c ▸ hlast⟩
        · intro done hdone
          rw [List.prefix_nil.mp hdone]
          exact hlast
    · -- The item is made by this very call.
      refine .inl (calm_of_length_le ?_)
      rw [after_concat]
      rcases (after calls).made_call c with hsame | ⟨latest, hnew, -, -⟩
      · simp only [hsame]
        omega
      · simp only [hnew, List.length_append, List.length_singleton]
        omega

/-- **When an earlier change is handed back although a later item carried another one**, that does
something exactly if the earlier one was a change and its view has been returned to since, either by an
item that was made in it or by handing back the change that left it. Otherwise the tracker stays as it
is. -/
theorem undoes_later_change_iff_returned (hmade : (after calls).made[index]? = some data)
    (hlater : ∃ later ∈ (after calls).made.drop (index + 1), later.Changes) :
    (after calls).tracker.restore data ≠ (after calls).tracker ↔
      data.Changes ∧ Returned calls index data.current := by
  rw [Tracker.restore_ne_iff]
  constructor
  · intro ⟨hchanges, hlast⟩
    refine ⟨hchanges, (calm_or_returned hmade hlast).resolve_left ?_⟩
    intro hcalm
    obtain ⟨later, hin, hother⟩ := hlater
    exact hcalm later hin hother
  · exact fun ⟨hchanges, hreturned⟩ => ⟨hchanges, hreturned.last⟩

/-- The user sees two views, one item is made in each, and comes back for a third. -/
def thereAndBack : List TrackerCall :=
  [.create 0 (some ⟨"app", "session", "view-1"⟩), .create 1 (some ⟨"app", "session", "view-2"⟩),
    .create 2 (some ⟨"app", "session", "view-1"⟩)]

/-- The change to the first view. -/
def firstChange : ContextData := ⟨0, {}, ⟨"app", "session", "view-1"⟩⟩

/-- The change to the first view, handed back before the user comes back and after. -/
theorem undoes_later_change_iff_returned_first :
    ((after (thereAndBack.take 2)).tracker.restore firstChange
        = (after (thereAndBack.take 2)).tracker ∧
      ¬Returned (thereAndBack.take 2) 0 firstChange.current) ∧
    ((after thereAndBack).tracker.restore firstChange ≠ (after thereAndBack).tracker ∧
      Returned thereAndBack 0 firstChange.current) := by
  have hearly := @undoes_later_change_iff_returned (thereAndBack.take 2) 0 firstChange
    (by decide) (by decide)
  have hlate := @undoes_later_change_iff_returned thereAndBack 0 firstChange
    (by decide) (by decide)
  have hsame : (after (thereAndBack.take 2)).tracker.restore firstChange
      = (after (thereAndBack.take 2)).tracker := by decide
  have hundone : (after thereAndBack).tracker.restore firstChange ≠ (after thereAndBack).tracker := by
    decide
  refine ⟨⟨hsame, ?_⟩, hundone, (hlate.mp hundone).2⟩
  intro hreturned
  exact hearly.mpr ⟨by decide, hreturned⟩ hsame

/-- **A change is undone although a later item carried another one.** The item that goes to the second
view is made after the one whose change is handed back, and yet the tracker forgets the view that was
seen last. -/
theorem undoes_return :
    (after thereAndBack).made[0]? = some firstChange ∧
      (∃ later ∈ (after thereAndBack).made.drop 1, later.Changes) ∧
      (after thereAndBack).tracker.last = firstChange.current ∧
      ((after thereAndBack).tracker.restore firstChange).last = {} ∧
      firstChange.current ≠ {} := by
  decide

end Itinerary

end SessionReplay
