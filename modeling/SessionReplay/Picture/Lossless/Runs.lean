import SessionReplay.Picture.Bitmap

/-!
# Residuals and runs

What is stored of a pixel is how it differs from the pixel above it, or from its left neighbour in
the first row, after the green component has been taken away from red and blue. Equal residuals in
succession are stored as one residual and a run.
-/

namespace SessionReplay.Lossless

/-- The pixel with green taken away from red and blue. -/
def subtractGreen (p : Pixel) : Pixel :=
  { p with red := p.red - p.green, blue := p.blue - p.green }

/-- The pixel that the one at an index is compared with. -/
def predicted (width : Nat) (pixels : Array Pixel) (i : Nat) : Pixel :=
  if width ≤ i then (pixels[i - width]?).getD .black
  else if 0 < i then (pixels[i - 1]?).getD .black
  else .black

/-- The differences between the pixels and their predictions. -/
def residuals (width : Nat) (pixels : Array Pixel) : List Pixel :=
  pixels.toList.mapIdx fun i p => p.sub (predicted width pixels i)

/-- A residual and how many equal ones follow it. -/
structure Token where
  /-- The residual. -/
  pixel : Pixel
  /-- The equal residuals right behind it. -/
  run : Nat
deriving DecidableEq, Repr

/-- The longest run. -/
def maxRun : Nat := 4096

/-- Adds a residual behind the tokens so far, which come last one first. -/
def pushResidual (tokens : List Token) (p : Pixel) : List Token :=
  match tokens with
  | t :: rest =>
    if t.pixel = p ∧ t.run < maxRun then { t with run := t.run + 1 } :: rest
    else ⟨p, 0⟩ :: tokens
  | [] => [⟨p, 0⟩]

/-- Residuals with their runs. -/
def tokens (residuals : List Pixel) : List Token :=
  (residuals.foldl pushResidual []).reverse

/-- How a run is written: its symbol, and further bits with their number. -/
structure RunCode where
  /-- The symbol, behind those of the bytes. -/
  symbol : Nat
  /-- How many further bits follow. -/
  extraCount : Nat
  /-- The further bits. -/
  extra : Nat

/-- The code of a run of at least one. -/
def runCode (run : Nat) : RunCode :=
  if run ≤ 4 then ⟨255 + run, 0, 0⟩
  else
    let l := run - 1
    let h := l.log2
    ⟨256 + 2 * h + (l >>> (h - 1)) % 2, h - 1, l % (1 <<< (h - 1))⟩

end SessionReplay.Lossless
