import GlyphMosaic.Source.FramePool

/-!
# Frames on loan

The consumer of a pool asks for frames, keeps the handles it likes, copies some and gives some back,
in any order.  `Lending` is a pool with the handles that are out, each with the number of the draw
it came from, and `Lending.Move` is what the consumer can do next.
-/

namespace GlyphMosaic

/-- A handle that is out. -/
structure Loan where
  /-- Its frame. -/
  frame : Nat
  /-- How many frames were drawn before it was handed out. -/
  draw : Nat

/-- A pool and the handles on its frames that are out. -/
structure Lending where
  /-- The pool. -/
  pool : FramePool
  /-- The handles, the latest first. -/
  loans : List Loan
  /-- The number of frames drawn. -/
  draws : Nat

namespace Lending

/-- What the consumer does; it names its handles by their places. -/
inductive Move where
  /-- Asks for the next frame and keeps the handle. -/
  | next
  /-- Copies a handle. -/
  | share (place : Nat)
  /-- Gives a handle back. -/
  | release (place : Nat)
  deriving DecidableEq

/-- A new pool, of which nothing is out. -/
def ofPattern (pattern : Pattern) (width height : UInt32) : Except Fault Lending := do
  let pool ← FramePool.ofPattern pattern width height
  return ⟨pool, [], 0⟩

variable (l : Lending)

/-- After a move.  There is nothing to copy or to give back at a place without a handle. -/
def after : Move → Except Fault Lending
  | .next => do
    let (frame, pool) ← l.pool.next
    return ⟨pool, ⟨frame, l.draws⟩ :: l.loans, l.draws + 1⟩
  | .share place =>
    match l.loans[place]? with
    | some loan => .ok { l with pool := l.pool.share loan.frame, loans := loan :: l.loans }
    | none => .ok l
  | .release place =>
    match l.loans[place]? with
    | some loan =>
      .ok { l with pool := l.pool.release loan.frame, loans := l.loans.eraseIdx place }
    | none => .ok l

/-- After some moves. -/
def afterAll (moves : List Move) : Except Fault Lending := moves.foldlM after l

end Lending

end GlyphMosaic
