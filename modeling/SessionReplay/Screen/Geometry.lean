import SessionReplay.Number.Density

/-!
# Screen geometry

Positions and sizes on the screen, the state of the screen at the time of a snapshot, and colors.
-/

namespace SessionReplay

/-- A rectangle in screen coordinates. -/
structure Bounds where
  /-- Left edge. -/
  x : Int := 0
  /-- Top edge. -/
  y : Int := 0
  /-- Extent to the right. -/
  width : Int := 0
  /-- Extent downwards. -/
  height : Int := 0
deriving DecidableEq, Repr, Inhabited

/-- The rectangle in units independent of the density. -/
def Bounds.normalize (b : Bounds) (density : Single) : Bounds where
  x := density.normalize b.x
  y := density.normalize b.y
  width := density.normalize b.width
  height := density.normalize b.height

/-- Lengths at the four sides of a box. -/
structure Sides where
  /-- At the top. -/
  top : Int := 0
  /-- At the bottom. -/
  bottom : Int := 0
  /-- At the left. -/
  left : Int := 0
  /-- At the right. -/
  right : Int := 0
deriving DecidableEq, Repr, Inhabited

/-- The four lengths in units independent of the density. -/
def Sides.normalize (s : Sides) (density : Single) : Sides where
  top := density.normalize s.top
  bottom := density.normalize s.bottom
  left := density.normalize s.left
  right := density.normalize s.right

/-- How the device is held. -/
inductive Orientation where
  /-- Not known. -/
  | undefined
  /-- Upright. -/
  | portrait
  /-- On its side. -/
  | landscape
deriving DecidableEq, Repr, Inhabited

/-- The screen at the time of a snapshot. -/
structure ScreenInfo where
  /-- The whole screen, in pixels. -/
  bounds : Bounds := {}
  /-- How the device is held. -/
  orientation : Orientation := .undefined
  /-- Pixels per unit of length. -/
  density : Single := .one
deriving DecidableEq, Repr, Inhabited

/-- A color with an opacity: eight bits each of opacity, red, green and blue, from the top. -/
structure Color where
  /-- The four components in one word. -/
  argb : UInt32 := 0
deriving DecidableEq, Repr, Inhabited

/-- Two lower-case hexadecimal digits. -/
def hexByte (n : Nat) : List Char :=
  [Nat.digitChar (n / 16 % 16), Nat.digitChar (n % 16)]

/-- The written form of a color: red, green, blue and opacity behind a hash mark. -/
def Color.hex (c : Color) : String :=
  let word := c.argb.toNat
  String.ofList
    ('#' :: hexByte (word >>> 16) ++ hexByte (word >>> 8) ++ hexByte word
      ++ hexByte (word >>> 24))

end SessionReplay
