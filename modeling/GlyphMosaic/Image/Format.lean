import GlyphMosaic.Files.Path
import GlyphMosaic.Image.Bmp
import GlyphMosaic.Image.Png

/-!
# Image formats

The extension of a file alone says which format it is in.  Many formats are known, and two can be
read.
-/

namespace GlyphMosaic

/-- A known image format. -/
inductive ImageFormat where
  | png
  | bmp
  /-- Images of this format cannot be read. -/
  | unread

namespace ImageFormat

/-- The extensions of the formats that cannot be read. -/
def unreadExtensions : List String :=
  ["jpg", "jpeg", "jfif", "gif", "webp", "avif", "tif", "tiff", "tga", "dds", "ico", "hdr", "exr",
    "pbm", "pgm", "ppm", "pam", "pnm", "ff", "qoi"]

/-- The format with an extension; the case of its letters does not matter. -/
def ofExtension? (extension : String) : Option ImageFormat :=
  let word := extension.map Char.toLower
  if word = "png" || word = "apng" then some .png
  else if word = "bmp" then some .bmp
  else if unreadExtensions.contains word then some .unread
  else none

/-- The format of the file at a path. -/
def ofPath? (path : String) : Option ImageFormat := do ofExtension? (← Path.extension? path)

/-- The picture in the bytes of a file. -/
def decode : ImageFormat → ByteArray → Except Fault (Option Frame)
  | .png, file => Png.decode file
  | .bmp, file => Bmp.decode file
  | .unread, _ => .ok none

end ImageFormat

end GlyphMosaic
