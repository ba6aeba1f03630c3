import GlyphMosaic.Image.Bytes

/-!
# Rows

Every row of a PNG image says how its bytes were predicted from the bytes to the left of and above
them; what is stored is what the predictions lack.
-/

namespace GlyphMosaic

namespace Png

/-- How a byte of a row is predicted. -/
inductive Filter where
  | plain
  | left
  | up
  | average
  | nearest

namespace Filter

/-- The filter with a number. -/
def ofNat? : Nat → Option Filter
  | 0 => some .plain
  | 1 => some .left
  | 2 => some .up
  | 3 => some .average
  | 4 => some .nearest
  | _ => none

/-- Of the bytes to the left, above and diagonally above the one that is nearest to
`left + above - diagonal`; of equally near ones the first. -/
def nearestOf (left above diagonal : UInt8) : UInt8 :=
  let guess : Int := left.toNat + above.toNat - diagonal.toNat
  let far (b : UInt8) : Nat := (guess - b.toNat).natAbs
  if far left ≤ far above && far left ≤ far diagonal then left
  else if far above ≤ far diagonal then above
  else diagonal

/-- The prediction from the bytes to the left, above and diagonally above. -/
def predict (left above diagonal : UInt8) : Filter → UInt8
  | .plain => 0
  | .left => left
  | .up => above
  | .average => ((left.toNat + above.toNat) / 2).toUInt8
  | .nearest => nearestOf left above diagonal

/-- The bytes of a row: predictions plus what is stored.  `step` is the number of bytes of a pixel,
and left of the first pixel there are zeros. -/
def restore (f : Filter) (step : Nat) (above stored : ByteArray) : ByteArray :=
  (List.range stored.size).foldl (fun row i =>
    let left := if i < step then 0 else row.get! (i - step)
    let diagonal := if i < step then 0 else above.get! (i - step)
    row.push (stored.get! i + f.predict left (above.get! i) diagonal)) .empty

end Filter

/-- The rows in a decompressed stream, one after the other. -/
def rows? (data : ByteArray) (step size : Nat) :
    (count start : Nat) → (above : ByteArray) → Option (List ByteArray)
  | 0, _, _ => some []
  | count + 1, start, above => do
    let filter ← Filter.ofNat? (data.get! start).toNat
    let row := filter.restore step above (data.extract (start + 1) (start + 1 + size))
    let rest ← rows? data step size count (start + 1 + size) row
    return row :: rest

end Png

end GlyphMosaic
