/-!
# Paths

A path is a text whose parts are separated by slashes.  Empty parts and single dots do not count,
two dots lead to the parent, and every other part is a name.  Paths and their parts have greatest
lengths in bytes.
-/

namespace GlyphMosaic

namespace Path

/-- The parts of a path that count. -/
def parts (path : String) : List String :=
  (path.splitOn "/").filter fun part => part ≠ "" && part ≠ "."

/-- The greatest length of a path. -/
def maxSize : Nat := 4095

/-- The greatest length of a part. -/
def maxPartSize : Nat := 255

/-- The path can lead somewhere: it is not empty, and no longer than a path can be. -/
def isPossible (path : String) : Bool :=
  !path.isEmpty && path.utf8ByteSize ≤ maxSize && (parts path).all (·.utf8ByteSize ≤ maxPartSize)

/-- The path starts at the root of all files. -/
def isAbsolute (path : String) : Bool := path.startsWith "/"

/-- The path can only be that of a directory: it ends in a slash or in a single dot. -/
def isDirectory (path : String) : Bool :=
  let last := (path.splitOn "/").getLast?
  last = some "" || last = some "."

/-- The last name of a path. -/
def fileName? (path : String) : Option String := do
  let last ← (parts path).getLast?
  if last = ".." then none else some last

/-- What follows the last dot of the last name, unless the name starts with that dot. -/
def extension? (path : String) : Option String := do
  let name ← fileName? path
  let reversed := name.toList.reverse
  match reversed.dropWhile (· ≠ '.') with
  | _ :: _ :: _ => some (String.ofList (reversed.takeWhile (· ≠ '.')).reverse)
  | _ => none

end Path

end GlyphMosaic
