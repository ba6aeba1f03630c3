import GlyphMosaic.Settings
import GlyphMosaic.Toml.Document

/-!
# Settings files

The settings of a file are the fields of its `converter` table; other tables and other fields are
ignored.  A field that is there has to have its type, and an integer also has to fit it.

The fields may be given by position, too, as an array with all of them in their order.  A date in
place of the table stands for a table with no field of the settings.
-/

namespace GlyphMosaic

namespace Settings.Layer

open Toml (Item Table)

/-- A text. -/
def text? : Item → Option String
  | .string s => some s
  | _ => none

/-- A number in single precision; integers are numbers. -/
def number? : Item → Option Binary32
  | .integer i => some (.ofNatBits (BinaryFormat.single.nearestInt i))
  | .float bits =>
    some (.ofNatBits (BinaryFormat.single.ofValue (BinaryFormat.double.decode bits)))
  | _ => none

/-- A natural number of at most `bits` bits. -/
def natural? (bits : Nat) : Item → Option Nat
  | .integer i => if 0 ≤ i ∧ i < 2 ^ bits then some i.toNat else none
  | _ => none

/-- A truth value. -/
def flag? : Item → Option Bool
  | .boolean b => some b
  | _ => none

/-- The fields that a look-up finds; a field that is there and does not have its type is refused. -/
def ofFields? (find : String → Option Item) : Option Settings.Layer := do
  let field {α : Type} (name : String) (read : Item → Option α) : Option (Option α) :=
    match find name with
    | none => some none
    | some item => some <$> read item
  let charset ← field "charset" text?
  let gamma ← field "gamma" number?
  let outputWidth ← field "output_width" (natural? 16)
  let outputHeight ← field "output_height" (natural? 16)
  let vectorized ← field "vectorized" flag?
  let benchmark ← field "benchmark" flag?
  let warmupFrames ← field "warmup_frames" (natural? 32)
  return {
    charset, gamma, vectorized, benchmark
    outputWidth := outputWidth.map (·.toUInt16)
    outputHeight := outputHeight.map (·.toUInt16)
    warmupFrames := warmupFrames.map (·.toUInt32) }

/-- The fields in their order. -/
def fieldNames : List String :=
  ["charset", "gamma", "output_width", "output_height", "vectorized", "benchmark", "warmup_frames"]

/-- The fields of a table, of an array that has all of them, or of a date, which has none. -/
def ofItem? : Item → Option Settings.Layer
  | .table _ entries => ofFields? (Table.get? entries)
  | .array items =>
    if items.length < fieldNames.length then none
    else ofFields? (Table.get? (fieldNames.zip items))
  | .datetime => some {}
  | _ => none

/-- The settings in the text of a file. -/
def read? (s : String) : Option Settings.Layer := do
  let document ← Toml.read? s
  let item ← document.get? "converter"
  ofItem? item

end Settings.Layer

end GlyphMosaic
