import SessionReplay.Picture.Bitmap
import SessionReplay.Record.Basic
import SessionReplay.Screen.View

/-!
# A simulated application

An application with one window, a checkout screen, whose item counter grows with the frames. Its
views are named by their screen and by how many views were started before.
-/

namespace SessionReplay.Simulation

/-- Three pixels to the unit. -/
def density : Single := ⟨0x40400000⟩

/-- The radius of all corners, twelve pixels. -/
def cornerRadius : Single := ⟨0x41400000⟩

/-- The size of all letters, forty-eight pixels. -/
def letterSize : Single := ⟨0x42400000⟩

/-- The screen of the device. -/
def screen : ScreenInfo where
  bounds := { width := 1080, height := 1920 }
  orientation := .portrait
  density := density

/-- A text on the screen. -/
def label (text : String) : TextAttributes where
  text := text
  color := ⟨0xff212121⟩
  hintColor := ⟨0x80212121⟩
  size := letterSize
  padding := { top := 12, bottom := 12, left := 24, right := 24 }
  alignment := { horizontal := .left, vertical := .center }

/-- A view with a text. -/
def textView (id : Int) (bounds : Bounds) (text : String) : View where
  id := id
  className := "android.widget.TextView"
  bounds := bounds
  text := some (label text)

/-- A view with the picture of a product. -/
def thumbnail (id x : Int) : View where
  id := id
  className := "android.widget.ImageView"
  bounds := ⟨x, 480, 330, 330⟩
  drawable := true

/-- The button that ends the checkout. -/
def payButton : View :=
  { textView 6 ⟨48, 1700, 984, 144⟩ "Pay" with
    className := "android.widget.Button"
    background := some { color := ⟨0xff632ca6⟩, radius := cornerRadius } }

/-- The checkout screen, with the text of its counter. -/
def checkout (counter : String) : View where
  id := 1
  className := "android.widget.FrameLayout"
  bounds := screen.bounds
  background := some { color := ⟨0xffffffff⟩, radius := cornerRadius }
  children :=
    [textView 2 ⟨48, 120, 984, 150⟩ "Checkout", textView 3 ⟨48, 300, 600, 120⟩ counter,
      thumbnail 4 48, thumbnail 5 420, payButton]

/-- The text of the counter when there are some items. -/
def counterText (items : Nat) : String :=
  "Items: " ++ toString items

/-- The text of the counter after a frame: every tenth frame there is one item more. -/
def counterAfter (frame : Nat) (counter : String) : String :=
  if frame % 10 = 0 then counterText (frame / 10) else counter

/-- The touches of a tap in a frame. -/
def tap (frame : Nat) (timestamp : Int) {ι : Type} : List (Record ι) :=
  [PointerAction.down, PointerAction.up].map fun action =>
    ⟨timestamp, .pointer { action := action, x := 100 + (frame % 800 : Nat), y := 590 }⟩

/-! ## Pictures -/

/-- The side of a copy: an eighth of the view's, between one and sixty-four pixels. -/
def copySide (length : Int) : Nat :=
  (max 1 (min (length.tdiv 8) 64)).toNat

/-- The copy of a view's pixels: shades that follow each other. -/
def copyPixels (bounds : Bounds) : Bitmap :=
  let width := copySide bounds.width
  let height := copySide bounds.height
  { width := width
    height := height
    pixels := ⟨Array.ofFn fun i : Fin (width * height * 4) =>
      let shade := i.val / 4 % 256
      UInt8.ofNat
        (if i.val % 4 = 0 then shade else if i.val % 4 = 1 then 255 - shade
          else if i.val % 4 = 2 then 128 else 255)⟩ }

/-! ## Views -/

/-- The views that an application has started. -/
structure ViewStarter where
  /-- Id of the application. -/
  application : String
  /-- How many views were started. The number is a word, so it begins anew after `2 ^ 64`. -/
  started : UInt64 := 0
deriving Repr

/-- The id of the user's session. -/
def sessionId : String := "sim-session"

/-- The id of the view started at some count. -/
def viewId (name : String) (count : UInt64) : String :=
  name ++ "-" ++ toString count

/-- Starts a view. -/
def ViewStarter.start (v : ViewStarter) (name : String) : ViewContext × ViewStarter :=
  (⟨v.application, sessionId, viewId name v.started⟩, { v with started := v.started + 1 })

end SessionReplay.Simulation
