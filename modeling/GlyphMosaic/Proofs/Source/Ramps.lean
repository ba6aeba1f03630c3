import GlyphMosaic.CommandLine.Size
import GlyphMosaic.Proofs.Source.Painting
import GlyphMosaic.Source.FrameSource

/-!
# Gradients

The levels of a gradient are positions times 255, divided by the last position.  The product is a
word of 32 bits, while the position itself may be any word, so that an axis can be too long for its
ramp although its picture is not too large.

* `Pattern.longestRamp` : the number of positions of the longest axis that is not.
* `Pattern.IsRamp` : levels that rise from 0 to 255 as evenly as bytes can.
* `Pattern.fault_of_render` : the only fault of a drawing is an overflow.
* `Pattern.showsGradient_render` : a gradient that is drawn shows such levels.
* `Pattern.gradient_ramps_or_overflows` : **a gradient has a ramp along both axes, or it
  overflows**, which it does exactly if an axis is longer than `longestRamp`.
-/

namespace GlyphMosaic

namespace Pattern

variable {p : Pattern} {t : UInt64} {f f' : Frame} {x y i extent width height : UInt32} {e : Fault}

/-! ### Ramps -/

/-- The positions of an axis of this length, times 255, fit 32 bits. -/
def longestRamp : Nat := 16843010

/-- The level of a position of an axis. -/
def rampAt (extent i : Nat) : UInt8 := (i * 255 / max (extent - 1) 1).toUInt8

/-- Levels rise from 0 at the first position of an axis to 255 at the last one, if it has two or
more, and in between they are proportional to the position. -/
structure IsRamp (level : Nat → UInt8) (extent : Nat) : Prop where
  toNat_eq : ∀ i < extent, (level i).toNat = 255 * i / max (extent - 1) 1
  mono : ∀ i j, i ≤ j → j < extent → level i ≤ level j
  first : level 0 = 0
  last : 2 ≤ extent → level (extent - 1) = 255

theorem toNat_rampAt {extent i : Nat} (hi : i < extent) :
    (rampAt extent i).toNat = 255 * i / max (extent - 1) 1 := by
  have hle : 255 * i / max (extent - 1) 1 ≤ 255 :=
    Nat.div_le_of_le_mul (by rw [Nat.mul_comm]; exact Nat.mul_le_mul_right _ (by omega))
  rw [rampAt, Nat.mul_comm]
  exact UInt8.toNat_ofNat_of_lt' (Nat.lt_succ_of_le hle)

theorem isRamp_rampAt (extent : Nat) : IsRamp (rampAt extent) extent where
  toNat_eq := fun _ => toNat_rampAt
  mono := by
    intro i j hij hj
    rw [UInt8.le_iff_toNat_le, toNat_rampAt (Nat.lt_of_le_of_lt hij hj), toNat_rampAt hj]
    exact Nat.div_le_div_right (Nat.mul_le_mul_left _ hij)
  first := by simp [rampAt]
  last := by
    intro h
    rw [← UInt8.toNat_inj, toNat_rampAt (by omega), Nat.max_eq_left (by omega),
      Nat.mul_div_cancel _ (by omega)]
    rfl

theorem rampLevel_of_lt (h : i.toNat < longestRamp) :
    rampLevel i extent = .ok (rampAt extent.toNat i.toNat) := by
  unfold longestRamp at h
  rw [rampLevel, fitting_of_lt (by omega)]
  rfl

theorem rampLevel_of_le (h : longestRamp ≤ i.toNat) : rampLevel i extent = .error .overflow := by
  unfold longestRamp at h
  rw [rampLevel, fitting_of_le (by omega)]
  rfl

theorem gradientColor_of_lt (hx : x.toNat < longestRamp) (hy : y.toNat < longestRamp) :
    gradientColor width height x y =
      .ok ⟨rampAt width.toNat x.toNat, rampAt height.toNat y.toNat, 96⟩ := by
  rw [gradientColor, rampLevel_of_lt hy, rampLevel_of_lt hx]
  rfl

theorem gradientColor_of_le (h : longestRamp ≤ x.toNat ∨ longestRamp ≤ y.toNat) :
    gradientColor width height x y = .error .overflow := by
  by_cases hy : longestRamp ≤ y.toNat
  · rw [gradientColor, rampLevel_of_le hy, error_bind]
  · rw [gradientColor, rampLevel_of_lt (Nat.not_le.1 hy), ok_bind,
      rampLevel_of_le (h.resolve_right hy), error_bind]

/-! ### Faults -/

theorem fault_of_color (h : p.color width height t x y = .error e) : e = .overflow := by
  cases p with
  | gradient =>
    by_cases hlong : longestRamp ≤ x.toNat ∨ longestRamp ≤ y.toNat
    · rw [color, gradientColor_of_le hlong] at h
      exact (Except.error.inj h).symm
    · rw [color, gradientColor_of_lt (by omega) (by omega)] at h
      cases h
  | checker => cases h
  | plasma => cases h

theorem fault_of_set {pixel : Pixel} (h : f.set x y pixel = .error e) : e = .overflow := by
  have hfitting : ∀ {n : Nat}, fitting 32 n = .error e → e = .overflow := by
    intro n hn
    by_cases hlt : n < 2 ^ 32
    · rw [fitting_of_lt hlt] at hn
      cases hn
    · rw [fitting_of_le (Nat.not_lt.1 hlt)] at hn
      exact (Except.error.inj hn).symm
  obtain hposition | ⟨_, -, hset⟩ := bind_eq_error.1 h
  · obtain hrow | ⟨_, -, hsum⟩ := bind_eq_error.1 hposition
    · exact hfitting hrow
    · exact hfitting hsum
  · cases hset

theorem fault_of_drawRow {n : Nat} (h : drawRow p t y n x f = .error e) : e = .overflow := by
  induction n generalizing x f with
  | zero => cases h
  | succ n ih =>
    obtain hcolor | ⟨rgb, -, h⟩ := bind_eq_error.1 h
    · exact fault_of_color hcolor
    · obtain hset | ⟨f₁, -, hrest⟩ := bind_eq_error.1 h
      · exact fault_of_set hset
      · exact ih hrest

theorem fault_of_drawRows {n : Nat} (h : drawRows p t n y f = .error e) : e = .overflow := by
  induction n generalizing y f with
  | zero => cases h
  | succ n ih =>
    obtain hrow | ⟨f₁, -, hrest⟩ := bind_eq_error.1 h
    · exact fault_of_drawRow hrow
    · exact ih hrest

theorem fault_of_render (h : p.render t f = .error e) : e = .overflow := fault_of_drawRows h

theorem place_lt (hx : x < width) (hy : y < height) :
    y.toNat * width.toNat + x.toNat < height.toNat * width.toNat :=
  rowMajor_lt (UInt32.lt_iff_toNat_lt.1 hx) (UInt32.lt_iff_toNat_lt.1 hy)

theorem render_eq_error (hx : x < f.width) (hy : y < f.height)
    (h : p.color f.width f.height t x y = .error .overflow) : p.render t f = .error .overflow := by
  cases hrender : p.render t f with
  | error e => rw [fault_of_render hrender]
  | ok f' =>
    -- a drawing that completes has painted the place
    obtain ⟨-, hpaintable⟩ :=
      (isPainted_render hrender).paintable _ (Nat.zero_le _) (place_lt hx hy)
    obtain ⟨pixel, hpixel⟩ := hpaintable t
    rw [pixelAt_place p f.height t y (UInt32.lt_iff_toNat_lt.1 hx), h, map_error] at hpixel
    cases hpixel

/-! ### Drawings -/

/-- Where no axis is too long, every place has a colour. -/
theorem isPaintable_gradient (hsize : height.toNat * width.toNat < 2 ^ 32)
    (hwidth : width.toNat ≤ longestRamp) (hheight : height.toNat ≤ longestRamp) {i : Nat}
    (hi : i < height.toNat * width.toNat) : gradient.IsPaintable width height i := by
  refine ⟨Nat.lt_trans hi hsize, fun t => ?_⟩
  have hpos : 0 < width.toNat := Nat.pos_of_lt_mul_left hi
  have hword : ∀ n, (UInt32.ofNat n).toNat ≤ n := fun n => by
    rw [UInt32.toNat_ofNat']
    exact Nat.mod_le _ _
  have hx : (UInt32.ofNat (i % width.toNat)).toNat < longestRamp :=
    Nat.lt_of_le_of_lt (hword _) (Nat.lt_of_lt_of_le (Nat.mod_lt i hpos) hwidth)
  have hy : (UInt32.ofNat (i / width.toNat)).toNat < longestRamp :=
    Nat.lt_of_le_of_lt (hword _)
      (Nat.lt_of_lt_of_le (Nat.div_lt_of_lt_mul (by rwa [Nat.mul_comm])) hheight)
  exact ⟨_, by rw [pixelAt, color, gradientColor_of_lt hx hy, map_ok]⟩

/-- Where an axis is too long, the first position behind the longest ramp has no colour. -/
theorem gradient_eq_error (hwidth : 0 < f.width) (hheight : 0 < f.height)
    (hlong : longestRamp < f.width.toNat ∨ longestRamp < f.height.toNat) (t : UInt64) :
    gradient.render t f = .error .overflow := by
  have hword : longestRamp ≤ (UInt32.ofNat longestRamp).toNat := Nat.le_of_eq rfl
  rcases hlong with hlong | hlong
  · exact render_eq_error (x := .ofNat longestRamp) (y := 0)
      (UInt32.lt_iff_toNat_lt.2 hlong) hheight (gradientColor_of_le (.inl hword))
  · exact render_eq_error (x := 0) (y := .ofNat longestRamp) hwidth (UInt32.lt_iff_toNat_lt.2 hlong)
      (gradientColor_of_le (.inr hword))

/-- A frame shows the levels `red` along its rows and the levels `green` along its columns, with the
same level of blue at every place. -/
structure ShowsGradient (f : Frame) (width height : UInt32) (red green : Nat → UInt8) : Prop where
  width_eq : f.width = width
  height_eq : f.height = height
  pixel_eq : ∀ x < width, ∀ y < height,
    f.pixel x y = .ok (Rgb.opaquePixel ⟨red x.toNat, green y.toNat, 96⟩)

/-- A gradient that was drawn over a full frame shows the ramps of its axes. -/
theorem showsGradient_render (h : gradient.render t f = .ok f') (hf : f.IsFull)
    (hwidth : f.width.toNat ≤ longestRamp) (hheight : f.height.toNat ≤ longestRamp) :
    ShowsGradient f' f.width f.height (rampAt f.width.toNat) (rampAt f.height.toNat) := by
  have hpainted := isPainted_render h
  refine ⟨hpainted.width, hpainted.height, fun x hx y hy => ?_⟩
  have hplace := place_lt hx hy
  obtain ⟨hword, -⟩ := hpainted.paintable _ (Nat.zero_le _) hplace
  have hpixel := hpainted.painted _ (Nat.zero_le _) hplace (by rwa [hf, Nat.mul_comm f.width.toNat])
  rw [UInt32.lt_iff_toNat_lt] at hx hy
  rw [pixelAt_place gradient f.height t y hx, color,
    gradientColor_of_lt (Nat.lt_of_lt_of_le hx hwidth) (Nat.lt_of_lt_of_le hy hheight),
    map_ok] at hpixel
  have hposition : f'.position x y = .ok (y.toNat * f.width.toNat + x.toNat) := by
    rw [Frame.position_eq_ok, hpainted.width]
    exact ⟨hword, rfl⟩
  have hinside : (decide (x < f'.width) && decide (y < f'.height)) = true := by
    simp [hpainted.width, hpainted.height, UInt32.lt_iff_toNat_lt, hx, hy]
  rw [Frame.pixel, if_pos hinside, hposition, ok_bind, Array.getD_eq_getD_getElem?, hpixel]
  rfl

/-- **A gradient has a ramp along both axes, or it overflows.**  Over any full frame with an extent,
of fewer than `2 ^ 32` pixels, and at any time: if no axis is longer than `longestRamp`, it is
drawn, and its red depends on the column and its green on the row alone, each rising from 0 to 255;
otherwise it overflows. -/
theorem gradient_ramps_or_overflows (hf : f.IsFull) (hwidth : 0 < f.width) (hheight : 0 < f.height)
    (hsize : f.width.toNat * f.height.toNat < 2 ^ 32) (t : UInt64) :
    (f.width.toNat ≤ longestRamp ∧ f.height.toNat ≤ longestRamp → ∃ f' red green,
      gradient.render t f = .ok f' ∧ IsRamp red f.width.toNat ∧ IsRamp green f.height.toNat ∧
        ShowsGradient f' f.width f.height red green) ∧
    (longestRamp < f.width.toNat ∨ longestRamp < f.height.toNat →
      gradient.render t f = .error .overflow) := by
  constructor
  · rintro ⟨hwide, hhigh⟩
    rw [Nat.mul_comm] at hsize
    obtain ⟨f', hrender⟩ := exists_render (t := t) fun _ => isPaintable_gradient hsize hwide hhigh
    exact ⟨f', _, _, hrender, isRamp_rampAt _, isRamp_rampAt _,
      showsGradient_render hrender hf hwide hhigh⟩
  · exact fun hlong => gradient_eq_error hwidth hheight hlong t

/-- A gradient over a white frame of three columns and two rows. -/
theorem gradient_ramps_or_overflows_small : ∃ f f', Frame.filled 3 2 0xFFFFFFFF = .ok f ∧
    gradient.render 7 f = .ok f' ∧ f'.pixel 1 1 = .ok (Rgb.opaquePixel ⟨127, 255, 96⟩) := by
  obtain ⟨f', red, green, hrender, hred, hgreen, hshows⟩ :=
    (gradient_ramps_or_overflows (Frame.isFull_uniform 3 2 0xFFFFFFFF) (by decide) (by decide)
      (by decide) 7).1 ⟨by decide, by decide⟩
  have hmiddle : red 1 = 127 := UInt8.toNat_inj.1 (hred.toNat_eq 1 (by decide))
  have hlast : green 1 = 255 := hgreen.last (by decide)
  have hpixel := hshows.pixel_eq 1 (by decide) 1 (by decide)
  refine ⟨_, f', Frame.filled_of_lt (by decide) _, hrender, ?_⟩
  rw [hpixel, ← hmiddle, ← hlast]
  rfl

theorem next_start_eq_error (h : p.render 0 (.uniform width height Frame.blackPixel) = .error e) :
    (Source.pattern (.start p width height)).next = .error e := by
  have hclaim : (FramePool.start p width height).claim = .ok (0, .start p width height) := rfl
  have hfetch : fetch (FramePool.start p width height).frames 0 =
      .ok (.uniform width height Frame.blackPixel) := by
    simp [FramePool.start]
  have hnext : (FramePool.start p width height).next = .error e := by
    rw [FramePool.next, hclaim]
    simp only [ok_bind, hfetch]
    exact congrArg (· >>= _) h
  rw [Source.next, FramePool.nextFrame, hnext, error_bind, error_bind]

/-- A size that can be asked for and a source that is made for it, which has no frame: its row is
one pixel longer than the longest ramp. -/
theorem gradient_row_overflows : ∃ source, Size.read "16843011x1" = .ok (16843011, 1) ∧
    (Source.ofPattern "gradient" 16843011 1).run = .ok (.ok source) ∧
    source.next = .error .overflow := by
  have hname : ofName? "gradient" = some gradient := by decide +kernel
  have hwidth : (Frame.uniform 16843011 1 Frame.blackPixel).width = 16843011 := rfl
  have hheight : (Frame.uniform 16843011 1 Frame.blackPixel).height = 1 := rfl
  refine ⟨.pattern (.start gradient 16843011 1), rfl, ?_, next_start_eq_error ?_⟩
  · have hroom : (16843011 : UInt32).toNat * (1 : UInt32).toNat < 2 ^ 61 := by decide
    simp only [Source.ofPattern, if_neg (by decide : ¬((16843011 : UInt32) = 0 ∨ (1 : UInt32) = 0)),
      hname, FramePool.ofPattern_of_lt hroom]
    rfl
  · exact gradient_eq_error (by rw [hwidth]; decide) (by rw [hheight]; decide)
      (.inl (by rw [hwidth]; decide)) 0

end Pattern

end GlyphMosaic
