import GlyphMosaic.CommandLine.Size
import GlyphMosaic.Settings

/-!
# The options of a run

What a run can be told, how the options are named, and how the text of an option becomes its value.
-/

namespace GlyphMosaic

/-- What a run is told. -/
structure Options where
  /-- The image to convert. -/
  image : Option String := none
  /-- The pattern to convert. -/
  pattern : Option String := none
  /-- The dimensions of the pattern. -/
  patternSize : UInt32 × UInt32 := (640, 480)
  /-- Cells per row. -/
  width : Option UInt16 := none
  /-- Rows of cells. -/
  height : Option UInt16 := none
  /-- The name of the output format. -/
  format : String := "ansi"
  /-- The file to write. -/
  out : Option String := none
  /-- Glyphs, or the name of a preset. -/
  charset : Option String := none
  /-- The exponent of the tone curve. -/
  gamma : Option Binary32 := none
  /-- Do without the lanes. -/
  scalar : Bool := false
  /-- Frames to measure. -/
  bench : Option UInt32 := none
  /-- Frames that are counted but not measured. -/
  warmup : Option UInt32 := none
  /-- The name of the report format. -/
  report : String := "text"
  /-- The settings file. -/
  config : String := "config/default.toml"
  /-- How much is logged. -/
  logLevel : String := "warn"

/-- An option that takes a value. -/
inductive Parameter where
  | image
  | pattern
  | patternSize
  | width
  | height
  | format
  | out
  | charset
  | gamma
  | bench
  | warmup
  | report
  | config
  | logLevel
  deriving DecidableEq

/-- An option that takes none. -/
inductive Switch where
  | scalar
  | help
  | version
  deriving DecidableEq

/-- An option. -/
inductive OptionName where
  | parameter (p : Parameter)
  | switch (s : Switch)
  deriving DecidableEq

namespace Parameter

/-- All of them. -/
def all : List Parameter :=
  [.image, .pattern, .patternSize, .width, .height, .format, .out, .charset, .gamma, .bench,
    .warmup, .report, .config, .logLevel]

/-- The long name. -/
def name : Parameter → String
  | .image => "image"
  | .pattern => "pattern"
  | .patternSize => "pattern-size"
  | .width => "width"
  | .height => "height"
  | .format => "format"
  | .out => "out"
  | .charset => "charset"
  | .gamma => "gamma"
  | .bench => "bench"
  | .warmup => "warmup"
  | .report => "report"
  | .config => "config"
  | .logLevel => "log-level"

end Parameter

namespace Switch

/-- All of them. -/
def all : List Switch := [.scalar, .help, .version]

/-- The long name. -/
def name : Switch → String
  | .scalar => "scalar"
  | .help => "help"
  | .version => "version"

end Switch

namespace OptionName

/-- All options. -/
def all : List OptionName := Parameter.all.map parameter ++ Switch.all.map switch

/-- The long name. -/
def name : OptionName → String
  | .parameter p => p.name
  | .switch s => s.name

/-- The option with a long name. -/
def ofName? (name : String) : Option OptionName := all.find? fun o => o.name = name

/-- The option with a letter. -/
def ofLetter? : Char → Option OptionName
  | 'o' => some (.parameter .out)
  | 'c' => some (.parameter .config)
  | 'h' => some (.switch .help)
  | 'V' => some (.switch .version)
  | _ => none

/-- Every option is found by its name. -/
@[simp] theorem ofName?_name (o : OptionName) : ofName? o.name = some o := by
  cases o with
  | parameter p => cases p <;> rfl
  | switch s => cases s <;> rfl

end OptionName

/-! ### Values -/

/-- Why a text is no value of an option. -/
inductive ValueRefusal where
  /-- A path without any character. -/
  | emptyPath
  /-- No integer. -/
  | integer (cause : Integer.Refusal)
  /-- An integer that is out of range. -/
  | outOfRange (value : Int) (greatest : Nat)
  /-- No number. -/
  | number (cause : Numeral.Refusal)
  /-- No size. -/
  | size (cause : Size.Refusal)

/-- The message of a refusal, where there is one. -/
def ValueRefusal.message? : ValueRefusal → Option String
  | .emptyPath => none
  | .integer cause => some cause.message
  | .outOfRange value greatest =>
    some (value.repr ++ " is not in 0..=" ++ greatest.repr)
  | .number .empty => some "cannot parse float from empty string"
  | .number .malformed => some "invalid float literal"
  | .size cause => some cause.message

namespace Options

/-- A path. -/
def readPath (text : String) : Except ValueRefusal String :=
  if text.isEmpty then .error .emptyPath else .ok text

/-- A natural number of `bits` bits, out of the integers of 64 bits. -/
def readNatural (bits : Nat) (text : String) : Except ValueRefusal Nat := do
  let value ← (Integer.readSigned 64 text.toList).mapError .integer
  if value < 0 || 2 ^ bits ≤ value then .error (.outOfRange value (2 ^ bits - 1))
  else return value.toNat

/-- The options with the value of a parameter. -/
def assign (o : Options) (p : Parameter) (text : String) : Except ValueRefusal Options :=
  match p with
  | .image => do return { o with image := some (← readPath text) }
  | .pattern => return { o with pattern := some text }
  | .patternSize => do return { o with patternSize := ← (Size.read text).mapError .size }
  | .width => do return { o with width := some (← readNatural 16 text).toUInt16 }
  | .height => do return { o with height := some (← readNatural 16 text).toUInt16 }
  | .format => return { o with format := text }
  | .out => do return { o with out := some (← readPath text) }
  | .charset => return { o with charset := some text }
  | .gamma => do
    let bits ← (Numeral.read? .single text).mapError .number
    return { o with gamma := some (.ofNatBits bits) }
  | .bench => do return { o with bench := some (← readNatural 32 text).toUInt32 }
  | .warmup => do return { o with warmup := some (← readNatural 32 text).toUInt32 }
  | .report => return { o with report := text }
  | .config => do return { o with config := ← readPath text }
  | .logLevel => return { o with logLevel := text }

/-- The settings among the options.  A charset that is the name of a preset stands for its
glyphs. -/
def layer (o : Options) : Settings.Layer where
  charset := o.charset.map fun text => (Palette.preset? text).getD text
  gamma := o.gamma
  outputWidth := o.width
  outputHeight := o.height
  vectorized := if o.scalar then some false else none
  warmupFrames := o.warmup

end Options

end GlyphMosaic
