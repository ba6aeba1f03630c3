import GlyphMosaic.Session

/-!
# The surroundings of a run

A run needs files, a place to print to, a place to complain to, and clocks.  `Host` is what it is
given of them, for any monad, so that a run is the same function among real files and among files
that are a value.
-/

namespace GlyphMosaic

/-- Files, outputs and clocks. -/
structure Host (m : Type → Type) where
  /-- There is something at a path. -/
  present : String → m Bool
  /-- The bytes of a file, if it can be read. -/
  read? : String → m (Option ByteArray)
  /-- Replaces a file, and says whether that was possible. -/
  write : String → ByteArray → m Bool
  /-- Prints to the output. -/
  print : ByteArray → m Unit
  /-- Prints beside the output. -/
  remark : String → m Unit
  /-- The clocks. -/
  watch : Stopwatch m

end GlyphMosaic
