/-!
# View contexts

Every record belongs to one view of one session of one application. A context names the three. The
default context names none: its ids are all zero.
-/

namespace SessionReplay

/-- The id that stands for "none". -/
def nullId : String := "00000000-0000-0000-0000-000000000000"

/-- The view that records belong to. -/
structure ViewContext where
  /-- Id of the application. -/
  application : String := nullId
  /-- Id of the user's session. -/
  session : String := nullId
  /-- Id of the view. -/
  view : String := nullId
deriving DecidableEq, Repr, Inhabited

/-- Whether an id names something. -/
def isId (id : String) : Bool :=
  id != "" && id != nullId

/-- Whether all three ids name something. -/
def ViewContext.isValid (c : ViewContext) : Bool :=
  isId c.application && isId c.session && isId c.view

/-- What an item remembers of the moment it was made: the time, the view before it and its own. -/
structure ContextData where
  /-- When the item was made, in milliseconds. -/
  timestamp : Int := 0
  /-- The view of the item before it. -/
  previous : ViewContext := {}
  /-- The view that the item belongs to. -/
  current : ViewContext := {}
deriving DecidableEq, Repr, Inhabited

end SessionReplay
