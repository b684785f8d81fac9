import SessionReplay.Context.View
import SessionReplay.Log.Event

/-!
# Tracking the view

Each item remembers the view of the item before it, so that a change of the view can be recorded
with the first item behind it. When such an item cannot be kept, the change is handed on to the next
one.
-/

namespace SessionReplay

/-- The view that the next item follows. -/
structure Tracker where
  /-- The view of the last item. -/
  last : ViewContext := {}
deriving DecidableEq, Repr, Inhabited

namespace Tracker

/-- What a new item remembers, if there is an active view that is valid. The view becomes that of
the last item. -/
def create (t : Tracker) (now : Int) (active : Option ViewContext) :
    Except Log.Event (ContextData × Tracker) :=
  match active with
  | none => .error .noActiveView
  | some view =>
    if view.isValid then .ok (⟨now, t.last, view⟩, ⟨view⟩)
    else .error (.invalidContext view.view)

/-- Hands the change of view of an item that is not kept on to the next item, unless the view has
changed again since. -/
def restore (t : Tracker) (data : ContextData) : Tracker :=
  if t.last = data.current then ⟨data.previous⟩ else t

end Tracker

end SessionReplay
