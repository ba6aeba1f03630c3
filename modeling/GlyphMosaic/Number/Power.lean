/-!
# Powers

A power of a natural number or of an integer is that of the core library, also where powers in any
monoid are at hand, so that a bound such as `2 ^ 32` is the same term in every module.
-/

namespace GlyphMosaic

@[default_instance 20000]
instance (priority := 2000) corePow {α : Type} [NatPow α] : Pow α Nat := instPowNat

end GlyphMosaic
