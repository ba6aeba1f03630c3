import GlyphMosaic.Frame

/-!
# Synthetic patterns

Three patterns that are drawn without any input: a colour gradient, a checkerboard of squares of
eight pixels, and a plasma of sine waves that moves with the frame number.
-/

namespace GlyphMosaic

/-- A synthetic picture. -/
inductive Pattern where
  | gradient
  | checker
  | plasma
  deriving DecidableEq

/-- The lower case of a character as far as it is an ASCII letter: besides the capital letters only
the Kelvin sign has an ASCII letter for its lower case. -/
def asciiLower (c : Char) : Char := if c = '\u212a' then 'k' else c.toLower

namespace Pattern

/-- The pattern with a name; case does not matter. -/
def ofName? (name : String) : Option Pattern :=
  let word := name.map asciiLower
  if word = "gradient" then some .gradient
  else if word = "checker" then some .checker
  else if word = "plasma" then some .plasma
  else none

/-- The pattern changes from frame to frame. -/
def isLive : Pattern → Bool
  | .plasma => true
  | _ => false

/-- Position `i` of an axis of `extent` positions on the scale from 0 to 255; the product is
computed in 32 bits. -/
def rampLevel (i extent : UInt32) : Except Fault UInt8 := do
  let scaled ← fitting 32 (i.toNat * 255)
  return (scaled / max (extent.toNat - 1) 1).toUInt8

/-- The gradient: red grows to the right and green downwards. -/
def gradientColor (width height x y : UInt32) : Except Fault Rgb := do
  let g ← rampLevel y height
  let r ← rampLevel x width
  return ⟨r, g, 96⟩

/-- The checkerboard, white in its upper left corner. -/
def checkerColor (x y : UInt32) : Rgb :=
  if (x / 8 + y / 8) % 2 = 0 then ⟨255, 255, 255⟩ else .black

/-- The ratio of a circle's circumference to its diameter, in single precision. -/
def pi : Float32 := Float32.ofBits 0x40490fdb

/-- The plasma at frame `t`: three waves added up, and the sum spread over the channels. -/
def plasmaColor (width height : UInt32) (t : UInt64) (x y : UInt32) : Rgb :=
  let time := t.toFloat32 / 30
  let fy := y.toFloat32 / height.toFloat32
  let fx := x.toFloat32 / width.toFloat32
  let v := (fx * 10 + time).sin + (fy * 8 - time * 0.7).sin + ((fx + fy) * 6 + time * 1.3).sin
  let n := (v + 3) / 6
  ⟨(n * 255).toUInt8, ((1 - n) * 255).toUInt8, ((n * pi).sin * 255).toUInt8⟩

/-- The colour of a place in frame `t` of a picture. -/
def color (p : Pattern) (width height : UInt32) (t : UInt64) (x y : UInt32) : Except Fault Rgb :=
  match p with
  | .gradient => gradientColor width height x y
  | .checker => .ok (checkerColor x y)
  | .plasma => .ok (plasmaColor width height t x y)

/-- Draws `n` pixels of row `y` from column `x` on. -/
def drawRow (p : Pattern) (t : UInt64) (y : UInt32) :
    (n : Nat) → (x : UInt32) → Frame → Except Fault Frame
  | 0, _, f => .ok f
  | n + 1, x, f => do
    let c ← p.color f.width f.height t x y
    let f ← f.set x y c.opaquePixel
    drawRow p t y n (x + 1) f

/-- Draws `n` rows from row `y` on. -/
def drawRows (p : Pattern) (t : UInt64) : (n : Nat) → (y : UInt32) → Frame → Except Fault Frame
  | 0, _, f => .ok f
  | n + 1, y, f => do
    let f ← drawRow p t y f.width.toNat 0 f
    drawRows p t n (y + 1) f

/-- Draws frame `t` of the pattern over a frame. -/
def render (p : Pattern) (t : UInt64) (f : Frame) : Except Fault Frame :=
  drawRows p t f.height.toNat 0 f

/-- Frame `t` of the pattern, on a new frame. -/
def picture (p : Pattern) (width height : UInt32) (t : UInt64) : Except Fault Frame := do
  p.render t (← Frame.black width height)

end Pattern

end GlyphMosaic
