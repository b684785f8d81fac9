import SessionReplay.Screen.Geometry
import SessionReplay.Picture.Encoding

/-!
# Wireframes

A wireframe is what is recorded of a view: its place on the screen, its style, and the text or
picture it shows. Pictures are a parameter: while a recording is running a wireframe holds the slot
that its picture will be put into, and what is written holds the picture itself, if there is one.
-/

namespace SessionReplay

/-- How the area of a view is painted. Anything that is missing is left to the player. -/
structure ShapeStyle where
  /-- Color of the area. -/
  backgroundColor : Option String := none
  /-- Opacity of the view. -/
  opacity : Option Single := none
  /-- Radius of the corners. -/
  cornerRadius : Option Int := none
deriving BEq, Repr, Inhabited

/-- The line around a view. -/
structure ShapeBorder where
  /-- Color of the line. -/
  color : String := ""
  /-- Width of the line. -/
  width : Int := 0
deriving DecidableEq, Repr, Inhabited

/-- How a text is painted. -/
structure TextStyle where
  /-- Font family. -/
  family : String := ""
  /-- Size of the letters. -/
  size : Int := 0
  /-- Color of the letters. -/
  color : String := ""
deriving DecidableEq, Repr, Inhabited

/-- Where a text stands from left to right. -/
inductive HorizontalAlignment where
  /-- At the left. -/
  | left
  /-- At the right. -/
  | right
  /-- In the middle. -/
  | center
deriving DecidableEq, Repr, Inhabited

/-- Where a text stands from top to bottom. -/
inductive VerticalAlignment where
  /-- At the top. -/
  | top
  /-- At the bottom. -/
  | bottom
  /-- In the middle. -/
  | center
deriving DecidableEq, Repr, Inhabited

/-- Where a text stands in its area. -/
structure Alignment where
  /-- From left to right. -/
  horizontal : HorizontalAlignment := .left
  /-- From top to bottom. -/
  vertical : VerticalAlignment := .top
deriving DecidableEq, Repr, Inhabited

/-- Where a text stands and what is kept free around it. -/
structure TextPosition where
  /-- The space kept free. -/
  padding : Option Sides := none
  /-- Where the text stands. -/
  alignment : Option Alignment := none
deriving DecidableEq, Repr, Inhabited

/-- What a wireframe shows, with pictures given as `ι`. -/
inductive WireframeContent (ι : Type) where
  /-- Only its area. -/
  | shape
  /-- A text. -/
  | text (text : String) (style : TextStyle) (position : Option TextPosition)
  /-- A picture. -/
  | image (picture : ι)
deriving BEq, Repr

/-- What is recorded of a view, with pictures given as `ι`. -/
structure Wireframe (ι : Type) where
  /-- Id of the view. -/
  id : Int
  /-- Place of the view. -/
  bounds : Bounds
  /-- How its area is painted. -/
  style : Option ShapeStyle := none
  /-- The line around it. -/
  border : Option ShapeBorder := none
  /-- What it shows. -/
  content : WireframeContent ι
deriving BEq, Repr

/-- A recorded picture, or nothing where there is none. -/
abbrev Picture := Option EncodedPicture

/-- What is shown, with every picture replaced. -/
def WireframeContent.map {ι κ : Type} (f : ι → κ) : WireframeContent ι → WireframeContent κ
  | .shape => .shape
  | .text shown style position => .text shown style position
  | .image picture => .image (f picture)

namespace Wireframe

variable {ι κ : Type}

/-- The wireframe with its picture replaced. -/
def map (f : ι → κ) (w : Wireframe ι) : Wireframe κ :=
  { w with content := w.content.map f }

/-- The picture of a wireframe that shows one. -/
def picture? (w : Wireframe ι) : Option ι :=
  match w.content with
  | .image picture => some picture
  | _ => none

end Wireframe

end SessionReplay
