import GlyphMosaic.Number.Integer
import GlyphMosaic.Text.Blank

/-!
# The size of a picture

A width and a height with the letter `x` between them.  Both are positive numbers of 32 bits, and
blanks around them do not count.
-/

namespace GlyphMosaic

namespace Size

/-- Why a text is no size. -/
inductive Refusal where
  /-- The text has no `x`. -/
  | noSeparator (text : String)
  /-- What is in front of the `x` is no number. -/
  | width (cause : Integer.Refusal)
  /-- What is behind the `x` is no number. -/
  | height (cause : Integer.Refusal)
  /-- One of the numbers is zero. -/
  | empty

/-- The message of a refusal. -/
def Refusal.message : Refusal → String
  | .noSeparator text => "taille invalide « " ++ text ++ " », attendu LxH"
  | .width cause => "largeur invalide : " ++ cause.message
  | .height cause => "hauteur invalide : " ++ cause.message
  | .empty => "dimensions nulles"

/-- The letter between the numbers, in either case. -/
def isSeparator (c : Char) : Bool := c = 'x' || c = 'X'

/-- One of the numbers. -/
def readExtent (cs : List Char) : Except Integer.Refusal Nat :=
  Integer.readNatural 32 (Text.trim cs)

/-- The size that a text writes: what is in front of and what is behind its first separator. -/
def read (text : String) : Except Refusal (UInt32 × UInt32) :=
  let cs := text.toList
  match cs.dropWhile fun c => !isSeparator c with
  | [] => .error (.noSeparator text)
  | _ :: behind => do
    let width ← (readExtent (cs.takeWhile fun c => !isSeparator c)).mapError .width
    let height ← (readExtent behind).mapError .height
    if width = 0 || height = 0 then .error .empty
    else return (width.toUInt32, height.toUInt32)

end Size

end GlyphMosaic
