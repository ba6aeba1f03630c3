import GlyphMosaic.Fault

/-!
# Cutting an axis into spans

An axis of `source` positions is cut into `pieces` half-open spans, piece `i` starting at
`⌊i * source / pieces⌋`.  Where that leaves a piece empty it gets the one position at its start, so
that an axis with fewer positions than pieces repeats its positions.

`axisSpans` are the spans in numbers of any size, `axisSpansInWords` those that 32-bit positions and
64-bit products give.
-/

namespace GlyphMosaic

/-- The positions from `start` up to, and without, `stop`. -/
structure Span where
  /-- The first position. -/
  start : Nat
  /-- The position after the last one. -/
  stop : Nat
  deriving DecidableEq

namespace Span

/-- The number of positions. -/
def length (s : Span) : Nat := s.stop - s.start

/-- There is no position. -/
def isEmpty (s : Span) : Bool := s.stop ≤ s.start

end Span

/-- Piece `i` of an axis of `source` positions cut into `pieces`. -/
def axisSpan (source pieces i : Nat) : Span :=
  let start := i * source / pieces
  let stop := (i + 1) * source / pieces
  ⟨start, min (if stop ≤ start then start + 1 else stop) source⟩

/-- All pieces of an axis; no pieces count as one. -/
def axisSpans (source pieces : Nat) : Array Span :=
  Array.ofFn fun i : Fin (max pieces 1) => axisSpan source (max pieces 1) i

/-- Piece `i` of an axis in machine words: the products in 64 bits, the positions in 32, each
provided that it fits. -/
def axisSpanInWords (source pieces i : Nat) : Except Fault Span := do
  let below ← fitting 64 (i * source)
  let start ← fitting 32 (below / pieces)
  let next ← fitting 64 (i + 1)
  let above ← fitting 64 (next * source)
  let stop ← fitting 32 (above / pieces)
  let stop ← if stop ≤ start then fitting 32 (start + 1) else pure stop
  return ⟨start, min stop source⟩

/-- All pieces of an axis in machine words. -/
def axisSpansInWords (source pieces : UInt32) : Except Fault (Array Span) :=
  let n := max pieces.toNat 1
  (Array.range n).foldlM (fun acc i => acc.push <$> axisSpanInWords source.toNat n i) #[]

@[simp] theorem size_axisSpans (source pieces : Nat) :
    (axisSpans source pieces).size = max pieces 1 := by
  simp [axisSpans]

end GlyphMosaic
