import GlyphMosaic.Program

/-!
# The program among real files

The surroundings of a run are the files, the streams and the clocks of the machine.
-/

namespace GlyphMosaic

/-- Runs something, and says whether it was possible. -/
def succeeded (act : IO Unit) : IO Bool := do
  match ← act.toBaseIO with
  | .ok () => return true
  | .error _ => return false

/-- Evaluates work, and reads the clocks. -/
def realTimed {α : Type} (work : Unit → α) : IO (α × Reading) := do
  let start ← IO.monoNanosNow
  let value ← IO.lazyPure work
  let stop ← IO.monoNanosNow
  let passed := stop - start
  return (value, ⟨⟨passed / 1000000000, passed % 1000000000⟩, stop, (stop / 1000000).toFloat⟩)

/-- The machine. -/
def realHost : Host IO where
  present path := succeeded do let _ ← IO.FS.realPath path
  read? path := do
    match ← (IO.FS.readBinFile path).toBaseIO with
    | .ok bytes => return some bytes
    | .error _ => return none
  write path content := succeeded (IO.FS.writeBinFile path content)
  print bytes := do
    let output ← IO.getStdout
    output.write bytes
    output.flush
  remark text := IO.eprint text
  watch := ⟨realTimed⟩

end GlyphMosaic

open GlyphMosaic in
/-- Runs the program with the words of its command line. -/
def main (words : List String) : IO UInt32 := do
  match ← (Program.run realHost words).run with
  | .ok ending => return ending.code.toUInt32
  | .error _ => return 101
