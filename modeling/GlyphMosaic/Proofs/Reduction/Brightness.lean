import GlyphMosaic.Proofs.Reduction.Reference

/-!
# From brighter pixels to denser glyphs

Every stage between the pixels of a region and the position of its glyph in the palette rounds down.
None turns an order round, and none but the last has anything to cut off.

* `fixedMean_mono`, `Region.mean_mono` : brighter pixels have a brighter mean.
* `Channels.luminance_mono`, `Palette.rank_mono` : brighter means have a brighter luminance, and
  that a denser glyph.
* `Planes.IsUncut` : no level and no luminance is cut down to a byte, one position at a time or four
  at a time; `Planes.Holds.isUncut` says that planes of bytes are so.
-/

namespace GlyphMosaic

/-! ### Means -/

theorem fixedMean_mono (count : Nat) {sum sum' : Nat} (h : sum ≤ sum') :
    fixedMean count sum ≤ fixedMean count sum' := by
  unfold fixedMean
  split
  · exact Nat.div_le_div_right (Nat.mul_le_mul_right _ h)
  · exact Nat.div_le_div_right h

namespace Region

variable (r : Region) {pixels pixels' : Array Pixel} {width : Nat} {channel : Channel}

theorem sum_mono
    (h : ∀ i ∈ r.positions width, levelAt pixels channel i ≤ levelAt pixels' channel i) :
    r.sum pixels width channel ≤ r.sum pixels' width channel := by
  rw [sum_eq_sum_map, sum_eq_sum_map]
  exact List.sum_le_sum h

theorem mean_mono
    (h : ∀ i ∈ r.positions width, levelAt pixels channel i ≤ levelAt pixels' channel i) :
    r.mean pixels width channel ≤ r.mean pixels' width channel :=
  fixedMean_mono _ (r.sum_mono h)

end Region

/-! ### Luminances -/

theorem luminance_mono {r g b r' g' b' : Nat} (hr : r ≤ r') (hg : g ≤ g') (hb : b ≤ b') :
    luminance r g b ≤ luminance r' g' b' := by
  rw [UInt8.le_iff_toNat_le, toNat_luminance, toNat_luminance]
  unfold weightedLevel
  omega

theorem clampToByte_mono {v w : UInt16} (h : v ≤ w) :
    (clampToByte v).toNat ≤ (clampToByte w).toNat := by
  rw [UInt16.le_iff_toNat_le] at h
  rw [toNat_clampToByte, toNat_clampToByte]
  omega

namespace Channels

variable {l l' : Channels UInt16}

/-- The luminance of three levels, cut to bytes. -/
def luminance (l : Channels UInt16) : UInt8 :=
  Rgb.luminance ⟨clampToByte l.r, clampToByte l.g, clampToByte l.b⟩

theorem luminance_mono (h : ∀ channel, l.get channel ≤ l'.get channel) :
    l.luminance ≤ l'.luminance :=
  GlyphMosaic.luminance_mono (clampToByte_mono (h .red)) (clampToByte_mono (h .green))
    (clampToByte_mono (h .blue))

/-- The weights are 1000 together, so that bytes have a luminance below 255. -/
theorem toNat_luminance_of_le (h : ∀ channel, (l.get channel).toNat ≤ 255) :
    l.luminance.toNat = weightedLevel l.r.toNat l.g.toNat l.b.toNat / 1024 := by
  have hr : l.r.toNat ≤ 255 := h .red
  have hg : l.g.toNat ≤ 255 := h .green
  have hb : l.b.toNat ≤ 255 := h .blue
  simp only [luminance, Rgb.luminance]
  rw [toNat_luminance, toNat_clampToByte, toNat_clampToByte, toNat_clampToByte, Nat.min_eq_left hr,
    Nat.min_eq_left hg, Nat.min_eq_left hb]
  unfold weightedLevel
  omega

end Channels

/-! ### Glyphs -/

namespace Palette

theorem rank_mono (size : Nat) {level level' : UInt8} (h : level ≤ level') :
    rank size level ≤ rank size level' := by
  have hmul := Nat.mul_le_mul_right (min (max size 1) 256 - 1) (UInt8.le_iff_toNat_le.1 h)
  dsimp only [rank]
  omega

theorem rank_lt_size (p : Palette) (level : UInt8) : rank p.size level < p.size := by
  have h : 2 ≤ p.size := p.two_le_size
  have h' : p.size ≤ 256 := p.size_le
  dsimp only [rank]
  omega

end Palette

/-! ### Cuts -/

namespace Lanes

variable {x y : Lanes} {f g : Nat → Nat}

theorem Holds.ext (hx : x.Holds f) (hy : y.Holds g) (hfg : ∀ k < 4, f k = g k) : x = y := by
  have key : ∀ {v w : Int32} (k : Nat), k < 4 → v.toInt = f k → w.toInt = g k → v = w := by
    intro v w k hk hv hw
    rw [← Int32.toInt_inj, hv, hw, hfg k hk]
  obtain ⟨a, b, c, d⟩ := x
  obtain ⟨a', b', c', d'⟩ := y
  rw [Lanes.mk.injEq]
  exact ⟨key 0 (by decide) hx.a hy.a, key 1 (by decide) hx.b hy.b, key 2 (by decide) hx.c hy.c,
    key 3 (by decide) hx.d hy.d⟩

theorem Holds.clampToByte_eq (h : x.Holds f) (hf : ∀ k < 4, f k ≤ 255) : x.clampToByte = x :=
  h.clampToByte.ext h fun k hk => Nat.min_eq_left (hf k hk)

end Lanes

namespace Planes

variable {p : Planes} {f : Nat → Channels UInt16} {n : Nat}

/-- The second pass cuts nothing: neither one of the first `n` levels nor a luminance, whether they
are taken one by one or four at a time. -/
structure IsUncut (p : Planes) (f : Nat → Channels UInt16) (n : Nat) : Prop where
  /-- A level is a byte. -/
  level : ∀ i < n, ∀ channel, (clampToByte ((f i).get channel)).toNat = ((f i).get channel).toNat
  /-- So is a luminance. -/
  luminance : ∀ i < n, (f i).luminance.toNat =
    weightedLevel (f i).r.toNat (f i).g.toNat (f i).b.toNat / 1024
  /-- So are they in the lanes. -/
  lanes : ∀ i, i + 4 ≤ n → ∃ x y z,
    Lanes.load p.r i = .ok x ∧ Lanes.load p.g i = .ok y ∧ Lanes.load p.b i = .ok z ∧
    x.clampToByte = x ∧ y.clampToByte = y ∧ z.clampToByte = z ∧
    Lanes.luminance x y z = (Lanes.weighted x y z).map (· >>> 10)

theorem Holds.exists_load (h : p.Holds f n)
    (hbyte : ∀ i < n, ∀ channel, ((f i).get channel).toNat ≤ 255) {i : Nat} (hi : i + 4 ≤ n)
    (channel : Channel) :
    ∃ x g, Lanes.load (p.get channel) i = .ok x ∧ x.clampToByte = x ∧
    x.Holds g ∧ ∀ k, g k ≤ 255 := by
  have hlast := (Array.getElem?_eq_some_iff.1 (h (i + 3) (by omega) channel)).1
  obtain ⟨x, hload, hholds⟩ := Lanes.load_of_le (p.get channel) (i := i) (by omega)
  have huncut : x.clampToByte = x := by
    refine hholds.clampToByte_eq fun k hk => ?_
    rw [Array.getD_eq_getD_getElem?, h (i + k) (by omega) channel]
    exact hbyte (i + k) (by omega) channel
  -- entries of earlier frames may lie behind the four, so that the bound holds of the cut ones only
  have hcut := hholds.clampToByte
  rw [huncut] at hcut
  exact ⟨x, _, hload, huncut, hcut, fun k => Nat.min_le_right _ _⟩

/-- **Planes of bytes lose nothing in the second pass.** -/
theorem Holds.isUncut (h : p.Holds f n)
    (hbyte : ∀ i < n, ∀ channel, ((f i).get channel).toNat ≤ 255) : p.IsUncut f n := by
  refine ⟨fun i hi channel => ?_, fun i hi => Channels.toNat_luminance_of_le (hbyte i hi),
    fun i hi => ?_⟩
  · rw [toNat_clampToByte, Nat.min_eq_left (hbyte i hi channel)]
  · obtain ⟨x, r, hx, hxcut, hxholds, hr⟩ := h.exists_load hbyte hi .red
    obtain ⟨y, g, hy, hycut, hyholds, hg⟩ := h.exists_load hbyte hi .green
    obtain ⟨z, b, hz, hzcut, hzholds, hb⟩ := h.exists_load hbyte hi .blue
    refine ⟨x, y, z, hx, hy, hz, hxcut, hycut, hzcut, ?_⟩
    have hexact := Lanes.exact hxholds hyholds hzholds hr hg hb
    refine hexact.shifted.clampToByte_eq fun k _ => ?_
    have := hr k
    have := hg k
    have := hb k
    omega

end Planes

end GlyphMosaic
