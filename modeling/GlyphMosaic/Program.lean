import GlyphMosaic.CommandLine.Reader
import GlyphMosaic.Host
import GlyphMosaic.Image.Format
import GlyphMosaic.Settings.File

/-!
# Runs of the program

A run reads its command line, finds its settings and its source, measures if it is told to, converts
one frame and writes it.  The order in which these steps can fail is that of `Program.convert`.
-/

namespace GlyphMosaic

namespace Program

variable {m : Type → Type} [Monad m] (host : Host m)

/-! ### Settings and sources -/

/-- The layer of settings in a file. -/
def loadLayer (path : String) : ExceptT Failure m Settings.Layer := do
  if !(← host.present path) then throw (.fileNotFound path)
  let some bytes ← host.read? path | throw (.unreadable path)
  let some text := String.fromUTF8? bytes | throw (.unreadable path)
  let some layer := Settings.Layer.read? text | throw (.brokenSettings path)
  return layer

/-- The settings in a file. -/
def loadSettings (path : String) : ExceptT Failure m Settings :=
  Settings.ofFile <$> loadLayer host path

/-- The settings of a run: those of its settings file, if there is one, and of its options. -/
def resolveSettings (o : Options) : ExceptT Failure m Settings := do
  let file ← if ← host.present o.config then some <$> loadLayer host o.config else pure none
  return Settings.resolve file o.layer

/-- The picture in an image file. -/
def loadImage (path : String) : ExceptT Failure (ExceptT Fault m) Frame := do
  if !(← host.present path) then throw (.fileNotFound path)
  let some format := ImageFormat.ofPath? path
    | throw (.unsupportedFormat ((Path.extension? path).getD "(sans extension)"))
  let some bytes ← host.read? path | throw (.brokenImage path)
  let some frame ← ExceptT.lift (ExceptT.mk (pure (format.decode bytes)))
    | throw (.brokenImage path)
  return frame

/-- There has to be one source. -/
def checkSource (o : Options) : Except Failure Unit :=
  match o.image, o.pattern with
  | none, none => .error .noSource
  | some _, some _ => .error .manySources
  | _, _ => .ok ()

/-- The source of a run, and its title.  An image comes before a pattern. -/
def openSource (o : Options) : ExceptT Failure (ExceptT Fault m) (Source × String) :=
  match o.image, o.pattern with
  | some path, _ => do return (.still (← loadImage host path), path)
  | none, some name => do
    let opened := (Source.ofPattern name o.patternSize.1 o.patternSize.2).run
    let source ← ExceptT.mk (ExceptT.mk (pure opened))
    return (source, "pattern:" ++ name)
  | none, none => throw .nothingToOpen

/-! ### Runs -/

/-- The text of a report in a format. -/
def reportText (format : String) (r : Report) : Except Failure String :=
  if format = "json" then .ok r.toJson
  else if format = "text" then .ok r.toText
  else .error (.unknownReport format)

/-- Prints a report: to the output if the grid goes to a file, and beside it otherwise. -/
def printReport (o : Options) (text : String) : m Unit :=
  let line := text ++ "\n"
  if o.out.isSome then host.print line.toUTF8 else host.remark line

/-- Writes the grid to the file of the options, or to the output. -/
def writeGrid (o : Options) (bytes : ByteArray) : ExceptT Failure m Unit :=
  match o.out with
  | some path => do
    if !(← host.write path bytes) then throw (.unwritable path)
  | none => host.print bytes

/-- A run with some options. -/
def convert (o : Options) : ExceptT Failure (ExceptT Fault m) Unit := do
  let within {α : Type} (step : ExceptT Failure m α) : ExceptT Failure (ExceptT Fault m) α :=
    ExceptT.mk (ExceptT.lift step.run)
  within (ExceptT.mk (pure (checkSource o)))
  let some format := OutputFormat.ofName? o.format | throw (.unknownFormat o.format)
  let settings ← within (resolveSettings host o)
  let (source, title) ← openSource host o
  let converter ← match Converter.ofSettings settings with
    | .ok converter => pure converter.init
    | .error refusal => throw (.palette refusal)
  let (converter, source) ← match o.bench with
    | none => pure (converter, source)
    | some frames => do
      let (report, converter, source) ←
        ExceptT.lift (Session.benchmark host.watch title frames.toNat converter source)
      let text ← within (ExceptT.mk (pure (reportText o.report report)))
      within (ExceptT.lift (printReport host o text))
      pure (converter, source)
  let (bytes, _, _) ← ExceptT.lift (Session.convertOnce host.watch format converter source)
  match bytes with
  | .ok bytes => within (writeGrid host o bytes)
  | .error failure => throw failure

/-- How a run ended. -/
inductive Ending where
  /-- It did what it was told. -/
  | done
  /-- It failed. -/
  | failed (failure : Failure)
  /-- It was told something wrong. -/
  | misused (refusal : CommandLine.Refusal)

/-- The exit code of an ending. -/
def Ending.code : Ending → UInt8
  | .done => 0
  | .failed _ => 1
  | .misused _ => 2

/-- The name and the version. -/
def version : String := "af-app 0.3.0"

/-- A line for each option. -/
def usage : String :=
  let lines := Parameter.all.map (fun p => "  --" ++ p.name ++ " <valeur>\n")
    ++ Switch.all.map (fun s => "  --" ++ s.name ++ "\n")
  "Usage: afconv [OPTIONS]\n\nOptions:\n" ++ String.join lines

/-- A run with a command line. -/
def run (words : List String) : ExceptT Fault m Ending := do
  match CommandLine.read words with
  | .error .help => do
    host.print usage.toUTF8
    return .done
  | .error .version => do
    host.print (version ++ "\n").toUTF8
    return .done
  | .error (.refused refusal) => do
    host.remark usage
    return .misused refusal
  | .ok options =>
    match ← (convert host options).run with
    | .ok () => return .done
    | .error failure => do
      host.remark ("Error: " ++ failure.message ++ "\n")
      return .failed failure

end Program

end GlyphMosaic
