import GlyphMosaic.Frame
import GlyphMosaic.Image.Deflate
import GlyphMosaic.Image.Png.Contents
import GlyphMosaic.Image.Png.Row

/-!
# PNG images

A file is a header, chunks that tell how to read the image data, and the image data: one compressed
stream of rows, cut into consecutive chunks.  In an animation the data of a frame can take the place
of the image data.

Images with eight bits per channel whose rows are stored in order are read.  The stream is read
until there are rows enough, whatever comes behind them; after that the rest of the image data only
has to be sound, and something has to follow it.  A palette is looked at as soon as there is a row,
and one that ends within a colour is a fault.
-/

namespace GlyphMosaic

namespace Png

/-! ### Image data -/

/-- A part of the compressed rows. -/
structure Piece where
  /-- The bytes. -/
  bytes : ByteArray
  /-- What comes after it can be read. -/
  sound : Bool

/-- The pieces in chunks of image data. -/
def imagePieces (chunks : List Chunk) : List Piece := chunks.map fun c => ⟨c.body, c.sound⟩

/-- The pieces in chunks of the data of a frame: after the number of the chunk, which goes on from
that of the frame.  A file can be read without their check values. -/
def framePieces (frame : Nat) (chunks : List Chunk) : List Piece :=
  chunks.zipIdx.map fun (c, i) =>
    if 4 ≤ c.body.size && Bytes.bigEndian (c.body.extract 0 4) = frame + 1 + i then
      ⟨c.body.extract 4 c.body.size, c.whole⟩
    else ⟨.empty, false⟩

/-- The first `limit` bytes of the stream in some pieces, behind pieces whose bytes are `seen`. -/
def unpack? (limit : Nat) : (seen : ByteArray) → List Piece → Option ByteArray
  | _, [] => none
  | seen, piece :: rest =>
    match Deflate.read limit (seen ++ piece.bytes) with
    | .full output => some output
    | .short => if piece.sound then unpack? limit (seen ++ piece.bytes) rest else none
    | .broken => none

/-- The parts of a file. -/
structure Parts where
  /-- What comes before the image data. -/
  contents : Contents
  /-- The image data. -/
  pieces : List Piece
  /-- Something comes after it. -/
  closed : Bool

namespace Parts

/-- The parts of a file.  The data of a frame comes after the frame, and pixels that are colours of
a palette need one. -/
def ofFile? (file : ByteArray) : Option Parts := do
  let first :: chunks ← Chunk.ofFile? file | none
  let header ← Header.ofChunk? first
  let contents ← (chunks.takeWhile (!·.holdsData)).foldlM Contents.add? { header }
  let data :: rest := chunks.dropWhile (!·.holdsData) | none
  if header.colorType = .indexed && contents.palette.isNone then none
  else
    let run := data :: rest.takeWhile (·.kind = data.kind)
    let pieces ← if data.kind = "IDAT" then some (imagePieces run)
      else contents.frame.map (framePieces · run)
    return ⟨contents, pieces, (rest.dropWhile (·.kind = data.kind)) matches _ :: _⟩

variable (p : Parts)

/-- The pieces are sound, and something follows them. -/
def complete : Bool := p.closed && p.pieces.all (·.sound)

end Parts

/-! ### Pixels -/

/-- The red, green, blue and alpha of the colours of a palette, which ends behind a colour.  More
alpha values than colours are none at all. -/
def paletteColors (palette alphas : ByteArray) : Except Fault (Array (List UInt8)) :=
  let count := palette.size / 3
  let alphas := if count < alphas.size then .empty else alphas
  if palette.size % 3 ≠ 0 then .error .outOfRange
  else .ok <| (Array.range count).map fun i =>
    [palette.get! (3 * i), palette.get! (3 * i + 1), palette.get! (3 * i + 2),
      alphas.data.getD i 255]

/-- The colours that the pixels of an image are taken from, if they are. -/
def Contents.colors (c : Contents) : Except Fault (Array (List UInt8)) :=
  match c.header.colorType, c.palette with
  | .indexed, some palette => paletteColors palette (c.transparency.getD .empty)
  | _, _ => .ok #[]

/-- The alpha of a pixel in an image that may have a transparent colour, whose channels have two
bytes each, the second of which counts. -/
def keyedAlpha (key : Option ByteArray) (channels : List UInt8) : UInt8 :=
  match key with
  | none => 255
  | some key =>
    if channels = (List.range channels.length).map fun i => key.get! (2 * i + 1) then 0 else 255

/-- The red, green, blue and alpha of the pixel at a place of a row.  Colours that a palette does
not have are opaque black. -/
def pixelBytes (c : Contents) (colors : Array (List UInt8)) (row : ByteArray) (x : Nat) :
    List UInt8 :=
  let channel (i : Nat) : UInt8 := row.get! (c.header.colorType.channels * x + i)
  match c.header.colorType with
  | .gray => [channel 0, channel 0, channel 0, keyedAlpha c.transparency [channel 0]]
  | .rgb =>
    [channel 0, channel 1, channel 2,
      keyedAlpha c.transparency [channel 0, channel 1, channel 2]]
  | .indexed => colors.getD (channel 0).toNat [0, 0, 0, 255]
  | .grayAlpha => [channel 0, channel 0, channel 0, channel 1]
  | .rgba => [channel 0, channel 1, channel 2, channel 3]

/-- The picture in a file. -/
def decode (file : ByteArray) : Except Fault (Option Frame) := do
  let some parts := Parts.ofFile? file | return none
  let contents := parts.contents
  let header := contents.header
  let some data := unpack? header.dataSize .empty parts.pieces | return none
  if (Filter.ofNat? (data.get! 0).toNat).isNone then return none
  let colors ← contents.colors
  if !parts.complete then return none
  let some rows :=
      rows? data header.colorType.channels header.rowSize header.height 0
        (Bytes.zeros header.rowSize)
    | return none
  let bytes := rows.foldl (fun out row =>
    (List.range header.width).foldl (fun out x =>
      (pixelBytes contents colors row x).foldl ByteArray.push out) out) .empty
  some <$> Frame.ofRgba header.width.toUInt32 header.height.toUInt32 bytes

end Png

end GlyphMosaic
