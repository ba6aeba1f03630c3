import GlyphMosaic.Source.Pattern

/-!
# A pool of frames

A pool draws the frames of a pattern one after the other into three slots that are used again.  The
consumer of a frame holds a handle on it, may copy the handle, and gives handles back.  A slot is
free as long as no handle on its frame is out; when none is free, the first slot gets a new frame,
and the old one belongs to its handles alone.

Frames are numbered by their making; a handle is such a number.
-/

namespace GlyphMosaic

/-- The state of a pool and of the handles that are out. -/
structure FramePool where
  /-- What is drawn. -/
  pattern : Pattern
  /-- Pixels per row. -/
  width : UInt32
  /-- Rows. -/
  height : UInt32
  /-- Every frame that was made. -/
  frames : Array Frame
  /-- The frames of the slots. -/
  slots : List Nat
  /-- The handles that are out, each as often as it is. -/
  held : List Nat
  /-- The number of frames drawn, counted in 64 bits without a check: after `2 ^ 64` frames it
  starts again, and so do the pictures. -/
  drawn : UInt64

namespace FramePool

/-- A pool of three black frames. -/
def ofPattern (pattern : Pattern) (width height : UInt32) : Except Fault FramePool := do
  let frame ← Frame.black width height
  return ⟨pattern, width, height, Array.replicate 3 frame, [0, 1, 2], [], 0⟩

/-- The pool of three black frames that is made where there is room for them. -/
def start (pattern : Pattern) (width height : UInt32) : FramePool where
  pattern := pattern
  width := width
  height := height
  frames := Array.replicate 3 (.uniform width height Frame.blackPixel)
  slots := [0, 1, 2]
  held := []
  drawn := 0

theorem ofPattern_of_lt {width height : UInt32} (h : width.toNat * height.toNat < 2 ^ 61)
    (pattern : Pattern) : ofPattern pattern width height = .ok (start pattern width height) := by
  rw [ofPattern, Frame.black, Frame.filled_of_lt h]
  rfl

variable (p : FramePool)

/-- The first free slot. -/
def freeSlot? : Option Nat := p.slots.findIdx? fun i => !p.held.contains i

/-- Gives the first slot a new frame. -/
def replaceFirst (frame : Frame) : FramePool :=
  { p with
    frames := p.frames.push frame
    slots := p.slots.set 0 p.frames.size }

/-- The pool with a free slot, and the frame of that slot. -/
def claim : Except Fault (Nat × FramePool) :=
  match p.freeSlot? with
  | some slot => return (p.slots.getD slot 0, p)
  | none => do
    let frame ← Frame.black p.width p.height
    return (p.frames.size, p.replaceFirst frame)

/-- Draws the next frame; answers with a handle on it. -/
def next : Except Fault (Nat × FramePool) := do
  let (i, p) ← p.claim
  let old ← fetch p.frames i
  let frame ← p.pattern.render p.drawn old
  return (i, { p with
    frames := p.frames.setIfInBounds i frame
    held := i :: p.held
    drawn := p.drawn + 1 })

/-- Copies a handle. -/
def share (handle : Nat) : FramePool := { p with held := handle :: p.held }

/-- Gives a handle back. -/
def release (handle : Nat) : FramePool := { p with held := p.held.erase handle }

/-- The frame of a handle. -/
def frame? (handle : Nat) : Option Frame := p.frames[handle]?

end FramePool

end GlyphMosaic
