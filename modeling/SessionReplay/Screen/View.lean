import SessionReplay.Record.Wireframe

/-!
# Views

The views on the screen as the host's toolkit shows them: a tree with attributes at every view.
-/

namespace SessionReplay

/-- What a view's area is painted with. -/
structure Background where
  /-- The color. -/
  color : Color := {}
  /-- The radius of the corners, in pixels. -/
  radius : Single := .zero
deriving DecidableEq, Repr, Inhabited

/-- The text of a view that shows one. -/
structure TextAttributes where
  /-- The text. -/
  text : String := ""
  /-- What is shown while the text is empty. -/
  hint : Option String := none
  /-- Color of the text. -/
  color : Color := {}
  /-- Color of the hint. -/
  hintColor : Color := {}
  /-- Font family. -/
  family : String := "sans-serif"
  /-- Size of the letters, in pixels. -/
  size : Single := .zero
  /-- Space kept free around the text, in pixels. -/
  padding : Sides := {}
  /-- Where the text stands. -/
  alignment : Alignment := {}
deriving DecidableEq, Repr, Inhabited

/-- A view with the views in it. -/
structure View where
  /-- Id of the view. -/
  id : Int := 0
  /-- Name of the view's class. -/
  className : String := "android.view.View"
  /-- Whether the view, and what is in it, can be seen. -/
  visible : Bool := true
  /-- Opacity of the view. -/
  alpha : Single := .one
  /-- Place on the screen, in pixels. -/
  bounds : Bounds := {}
  /-- What its area is painted with. -/
  background : Option Background := none
  /-- The text it shows. -/
  text : Option TextAttributes := none
  /-- Whether it shows a picture. -/
  drawable : Bool := false
  /-- The views in it. -/
  children : List View := []
deriving Inhabited

end SessionReplay
