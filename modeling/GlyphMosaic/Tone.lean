import GlyphMosaic.Color
import GlyphMosaic.Palette
import GlyphMosaic.Number.Binary

/-!
# Tone curves and lookup tables

A tone curve maps each of the 256 channel levels to a displayed level by a power law.  `Tables`
joins a palette and a curve: the cell of a colour shows the glyph of the luminance *before* the
curve and the channels *after* it.
-/

namespace GlyphMosaic

/-- One coloured glyph. -/
structure Cell where
  /-- The character shown. -/
  glyph : Char
  /-- Its colour. -/
  color : Rgb
  deriving DecidableEq

/-- A black space. -/
def Cell.blank : Cell := ⟨' ', .black⟩

instance : Inhabited Cell := ⟨.blank⟩

/-- The power law with exponent `gamma` on the levels `0` to `255`, rounded and kept in range; a NaN
counts as level `0`. -/
def curvedLevel (gamma : Binary32) (level : Nat) : UInt8 :=
  let v := Float32.pow (level.toFloat32 / 255) gamma.toFloat32 * 255
  let kept := if v < 0 then 0 else if 255 < v then 255 else v
  kept.round.toUInt8

/-- A power law with its table. -/
structure ToneCurve where
  /-- The exponent. -/
  gamma : Binary32
  /-- The displayed level of every channel level. -/
  levels : Vector UInt8 256

namespace ToneCurve

/-- The curve with exponent `gamma`. -/
def ofGamma (gamma : Binary32) : ToneCurve := ⟨gamma, Vector.ofFn fun i => curvedLevel gamma i.val⟩

/-- The displayed level of a channel level. -/
def apply (t : ToneCurve) (level : UInt8) : UInt8 := t.levels.get ⟨level.toNat, level.toNat_lt⟩

end ToneCurve

/-- A change in place that may be refused on the way; what was done before stays done. -/
abbrev Palette.Change (σ : Type) := ExceptT Palette.Refusal (StateM σ)

/-- A palette and a tone curve. -/
structure Tables where
  /-- Chooses the glyph. -/
  palette : Palette
  /-- Maps the channels. -/
  curve : ToneCurve

namespace Tables

/-- The tables of a charset and an exponent. -/
def ofCharset (charset : String) (gamma : Binary32) : Except Palette.Refusal Tables := do
  let palette ← Palette.ofString charset
  return ⟨palette, .ofGamma gamma⟩

/-- The default exponent, 0.35. -/
def defaultGamma : Binary32 := ⟨0x3eb33333⟩

/-- The compact palette with the default exponent. -/
def default : Tables := ⟨.default, .ofGamma defaultGamma⟩

variable (t : Tables)

/-- The tables were built from this charset and exponent; exponents are compared by their bits. -/
def isFor (charset : String) (gamma : Binary32) : Bool :=
  t.palette.glyphs.toList == charset.toList && t.curve.gamma == gamma

/-- The tables for a charset and an exponent, and whether they had to be built anew. -/
def ensure (charset : String) (gamma : Binary32) : Except Palette.Refusal (Bool × Tables) :=
  if t.isFor charset gamma then .ok (false, t)
  else do
    let fresh ← ofCharset charset gamma
    return (true, fresh)

/-- Puts the tables for a charset and an exponent in the place of others, and tells whether they had
to be built anew. -/
def refresh (charset : String) (gamma : Binary32) : Palette.Change Tables Bool := do
  if (← get).isFor charset gamma then return false
  let fresh ← MonadExcept.ofExcept (ofCharset charset gamma)
  set fresh
  return true

/-- The cell with the glyph of a luminance and the curved channels of a colour. -/
def finish (level : UInt8) (c : Rgb) : Cell :=
  ⟨t.palette.glyphFor level, ⟨t.curve.apply c.r, t.curve.apply c.g, t.curve.apply c.b⟩⟩

/-- The cell of a colour. -/
def cell (c : Rgb) : Cell := t.finish c.luminance c

end Tables

end GlyphMosaic
