import GlyphMosaic.Failure
import GlyphMosaic.Source.FramePool

/-!
# Sources of frames

A source yields frames one after the other, until it has none.  `Source` has the three kinds: a
pattern, which never ends, a still picture, which yields itself over and over, and a list of frames.
-/

namespace GlyphMosaic

/-- Something that yields frames. -/
class FrameSource (σ : Type) where
  /-- The next frame and the source behind it, or nothing. -/
  next : σ → Except Fault (Option (Frame × σ))
  /-- The dimensions of its frames. -/
  nativeSize : σ → UInt32 × UInt32
  /-- Its frames change. -/
  isLive : σ → Bool

/-- A source of one of three kinds. -/
inductive Source where
  | pattern (pool : FramePool)
  | still (frame : Frame)
  | sequence (frames : List Frame) (size : UInt32 × UInt32)

namespace FramePool

/-- The next frame for a consumer that gives the handle back at once. -/
def nextFrame (p : FramePool) : Except Fault (Frame × FramePool) := do
  let (handle, p) ← p.next
  let frame ← fetch p.frames handle
  return (frame, p.release handle)

end FramePool

namespace Source

/-- The source of a pattern. -/
def ofPattern (name : String) (width height : UInt32) : ExceptT Failure (Except Fault) Source := do
  if width = 0 ∨ height = 0 then throw (.invalidDimensions width height)
  let some p := Pattern.ofName? name | throw (.unknownPattern name)
  return .pattern (← ExceptT.lift (FramePool.ofPattern p width height))

/-- The next frame and the source behind it. -/
def next : Source → Except Fault (Option (Frame × Source))
  | .pattern pool => do
    let (frame, pool) ← pool.nextFrame
    return some (frame, .pattern pool)
  | .still frame => return some (frame, .still frame)
  | .sequence [] _ => return none
  | .sequence (frame :: rest) size => return some (frame, .sequence rest size)

/-- The dimensions of the frames. -/
def nativeSize : Source → UInt32 × UInt32
  | .pattern pool => (pool.width, pool.height)
  | .still frame => (frame.width, frame.height)
  | .sequence _ size => size

/-- The frames change. -/
def isLive : Source → Bool
  | .pattern pool => pool.pattern.isLive
  | .still _ => false
  | .sequence _ _ => false

instance : FrameSource Source := ⟨next, nativeSize, isLive⟩

end Source

end GlyphMosaic
