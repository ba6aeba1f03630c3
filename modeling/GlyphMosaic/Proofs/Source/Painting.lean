import GlyphMosaic.Proofs.RowMajor
import GlyphMosaic.Source.Pattern

/-!
# Painted frames

Drawing a pattern writes every pixel of a frame once, row by row, so that nothing of what the frame
showed before is left.

* `Pattern.IsPainted` : some positions of a frame were painted and earlier ones were left alone.
* `Pattern.isPainted_render`, `Pattern.exists_render` : a drawing that completes paints all
  positions, and it does complete where each of them can be painted.
* `Pattern.Completes` : some drawing of this size completes; `Pattern.Completes.render_eq` : then
  all do, and **over any full frame a drawing is what it is on a new one**.
* `Pattern.picture_eq_of_not_live` : a pattern that is not live has one picture.
-/

namespace GlyphMosaic

namespace Pattern

variable {p : Pattern} {t : UInt64} {f f' f'' : Frame} {a b c : Nat} {x y width height : UInt32}

/-- The pixel at a position of a picture. -/
def pixelAt (p : Pattern) (width height : UInt32) (t : UInt64) (i : Nat) : Except Fault Pixel :=
  Rgb.opaquePixel <$>
    p.color width height t (.ofNat (i % width.toNat)) (.ofNat (i / width.toNat))

/-- A position fits its word and has a colour in every picture. -/
def IsPaintable (p : Pattern) (width height : UInt32) (i : Nat) : Prop :=
  i < 2 ^ 32 ∧ ∀ t, ∃ pixel, p.pixelAt width height t i = .ok pixel

/-- The positions from `a` up to `b` were painted and earlier ones were left alone. -/
structure IsPainted (p : Pattern) (t : UInt64) (f f' : Frame) (a b : Nat) : Prop where
  width : f'.width = f.width
  height : f'.height = f.height
  size : f'.pixels.size = f.pixels.size
  kept : ∀ i < a, f'.pixels[i]? = f.pixels[i]?
  paintable : ∀ i, a ≤ i → i < b → p.IsPaintable f.width f.height i
  painted : ∀ i, a ≤ i → i < b → i < f.pixels.size →
    f'.pixels[i]? = (p.pixelAt f.width f.height t i).toOption

theorem IsPainted.refl (p : Pattern) (t : UInt64) (f : Frame) (a : Nat) :
    p.IsPainted t f f a a where
  width := rfl
  height := rfl
  size := rfl
  kept := fun _ _ => rfl
  paintable := fun _ ha hb => absurd ha (Nat.not_le.2 hb)
  painted := fun _ ha hb => absurd ha (Nat.not_le.2 hb)

theorem IsPainted.trans (h : p.IsPainted t f f' a b) (h' : p.IsPainted t f' f'' b c) (hab : a ≤ b) :
    p.IsPainted t f f'' a c where
  width := h'.width.trans h.width
  height := h'.height.trans h.height
  size := h'.size.trans h.size
  kept := fun i hi => (h'.kept i (Nat.lt_of_lt_of_le hi hab)).trans (h.kept i hi)
  paintable := by
    intro i ha hc
    by_cases hb : i < b
    · exact h.paintable i ha hb
    · rw [← h.width, ← h.height]
      exact h'.paintable i (Nat.not_lt.1 hb) hc
  painted := by
    intro i ha hc hsize
    by_cases hb : i < b
    · rw [h'.kept i hb]
      exact h.painted i ha hb hsize
    · rw [← h.width, ← h.height]
      exact h'.painted i (Nat.not_lt.1 hb) hc (h.size ▸ hsize)

/-! ### Single pixels -/

theorem exists_color {rgb : Rgb} (h : p.color width height t x y = .ok rgb) (t' : UInt64) :
    ∃ rgb', p.color width height t' x y = .ok rgb' := by
  cases p with
  | gradient => exact ⟨rgb, h⟩
  | checker => exact ⟨rgb, h⟩
  | plasma => exact ⟨_, rfl⟩

theorem pixelAt_place (p : Pattern) (height : UInt32) (t : UInt64) (y : UInt32)
    (hx : x.toNat < width.toNat) : p.pixelAt width height t (y.toNat * width.toNat + x.toNat) =
      Rgb.opaquePixel <$> p.color width height t x y := by
  rw [pixelAt, Nat.mul_add_mod_of_lt hx, rowMajor_div y.toNat hx,
    UInt32.ofNat_toNat, UInt32.ofNat_toNat]

theorem isPainted_set {rgb : Rgb} (hx : x.toNat < f.width.toNat)
    (hcolor : p.color f.width f.height t x y = .ok rgb)
    (hset : f.set x y rgb.opaquePixel = .ok f') :
    p.IsPainted t f f' (y.toNat * f.width.toNat + x.toNat)
      (y.toNat * f.width.toNat + x.toNat + 1) := by
  obtain ⟨i, hposition, hset⟩ := bind_eq_ok.1 hset
  obtain ⟨hlt, rfl⟩ := Frame.position_eq_ok.1 hposition
  cases hset
  refine ⟨rfl, rfl, by simp, fun i hi => ?_, fun i ha hb => ?_, fun i ha hb hsize => ?_⟩
  · exact Array.getElem?_setIfInBounds_ne (by omega)
  · obtain rfl : i = y.toNat * f.width.toNat + x.toNat := by omega
    refine ⟨hlt, fun t' => ?_⟩
    obtain ⟨rgb', hcolor'⟩ := exists_color hcolor t'
    exact ⟨_, by rw [pixelAt_place p f.height t' y hx, hcolor', map_ok]⟩
  · obtain rfl : i = y.toNat * f.width.toNat + x.toNat := by omega
    rw [pixelAt_place p f.height t y hx, hcolor, map_ok,
      Array.getElem?_setIfInBounds_self_of_lt hsize]
    rfl

/-! ### Rows -/

theorem toNat_succ (h : x.toNat + 1 < 2 ^ 32) : (x + 1).toNat = x.toNat + 1 := by
  rw [UInt32.toNat_add]
  exact Nat.mod_eq_of_lt h

theorem isPainted_drawRow {n : Nat} (h : drawRow p t y n x f = .ok f')
    (hx : x.toNat + n ≤ f.width.toNat) :
    p.IsPainted t f f' (y.toNat * f.width.toNat + x.toNat)
      (y.toNat * f.width.toNat + x.toNat + n) := by
  induction n generalizing x f with
  | zero =>
    cases h
    exact .refl p t f' _
  | succ n ih =>
    obtain ⟨rgb, hcolor, h⟩ := bind_eq_ok.1 h
    obtain ⟨f₁, hset, h⟩ := bind_eq_ok.1 h
    have hfirst := isPainted_set (by omega) hcolor hset
    have hsucc : (x + 1).toNat = x.toNat + 1 := toNat_succ (by have := f.width.toNat_lt; omega)
    have hrest := ih h (by rw [hsucc, hfirst.width]; omega)
    rw [hsucc, hfirst.width] at hrest
    have htrans := hfirst.trans hrest (Nat.le_succ _)
    rwa [← Nat.add_assoc, Nat.add_assoc _ 1, Nat.add_comm 1] at htrans

theorem exists_drawRow {n : Nat} (hx : x.toNat + n ≤ f.width.toNat)
    (hpaintable : ∀ i, y.toNat * f.width.toNat + x.toNat ≤ i →
      i < y.toNat * f.width.toNat + x.toNat + n → p.IsPaintable f.width f.height i) :
    ∃ f', drawRow p t y n x f = .ok f' := by
  induction n generalizing x f with
  | zero => exact ⟨f, rfl⟩
  | succ n ih =>
    obtain ⟨hlt, hcolors⟩ := hpaintable _ (Nat.le_refl _) (by omega)
    obtain ⟨pixel, hpixel⟩ := hcolors t
    rw [pixelAt_place p f.height t y (by omega)] at hpixel
    obtain ⟨rgb, hcolor⟩ : ∃ rgb, p.color f.width f.height t x y = .ok rgb := by
      cases hcolor : p.color f.width f.height t x y with
      | ok rgb => exact ⟨rgb, rfl⟩
      | error e => rw [hcolor] at hpixel; cases hpixel
    obtain ⟨f₁, hset⟩ : ∃ f₁, f.set x y rgb.opaquePixel = .ok f₁ := by
      rw [Frame.set, Frame.position_eq_ok.2 ⟨hlt, rfl⟩]
      exact ⟨_, rfl⟩
    have hfirst := isPainted_set (by omega) hcolor hset
    have hsucc : (x + 1).toNat = x.toNat + 1 := toNat_succ (by have := f.width.toNat_lt; omega)
    obtain ⟨f', hrest⟩ := ih (x := x + 1) (f := f₁) (by rw [hsucc, hfirst.width]; omega)
      fun i ha hb => by
        rw [hsucc, hfirst.width] at ha hb
        rw [hfirst.width, hfirst.height]
        exact hpaintable i (by omega) (by omega)
    exact ⟨f', by rw [drawRow, hcolor, ok_bind, hset, ok_bind, hrest]⟩

theorem isPainted_drawRows {n : Nat} (h : drawRows p t n y f = .ok f') (hy : y.toNat + n < 2 ^ 32) :
    p.IsPainted t f f' (y.toNat * f.width.toNat) ((y.toNat + n) * f.width.toNat) := by
  induction n generalizing y f with
  | zero =>
    cases h
    exact .refl p t f' _
  | succ n ih =>
    obtain ⟨f₁, hrow, h⟩ := bind_eq_ok.1 h
    have hfirst := isPainted_drawRow hrow (by simp)
    have hsucc : (y + 1).toNat = y.toNat + 1 := toNat_succ (by omega)
    have hrest := ih h (by rw [hsucc]; omega)
    rw [hsucc, hfirst.width, Nat.succ_mul] at hrest
    have htrans := hfirst.trans hrest (by simp)
    rwa [Nat.add_assoc, Nat.add_comm 1] at htrans

theorem exists_drawRows {n : Nat} (hy : y.toNat + n < 2 ^ 32)
    (hpaintable : ∀ i, y.toNat * f.width.toNat ≤ i → i < (y.toNat + n) * f.width.toNat →
      p.IsPaintable f.width f.height i) : ∃ f', drawRows p t n y f = .ok f' := by
  induction n generalizing y f with
  | zero => exact ⟨f, rfl⟩
  | succ n ih =>
    have hmul : (y.toNat + (n + 1)) * f.width.toNat =
        y.toNat * f.width.toNat + f.width.toNat + n * f.width.toNat := by
      rw [Nat.add_mul, Nat.succ_mul]
      omega
    obtain ⟨f₁, hrow⟩ : ∃ f₁, drawRow p t y f.width.toNat 0 f = .ok f₁ :=
      exists_drawRow (by simp) fun i ha hb => hpaintable i (by simpa using ha) (by
        simp only [UInt32.toNat_zero] at hb; omega)
    have hfirst := isPainted_drawRow hrow (by simp)
    have hsucc : (y + 1).toNat = y.toNat + 1 := toNat_succ (by omega)
    obtain ⟨f', hrest⟩ := ih (y := y + 1) (f := f₁) (by rw [hsucc]; omega) fun i ha hb => by
      rw [hsucc, hfirst.width] at ha hb
      rw [hfirst.width, hfirst.height]
      exact hpaintable i (Nat.le_trans (Nat.mul_le_mul_right _ (Nat.le_succ _)) ha)
        (by rwa [Nat.add_assoc, Nat.add_comm 1] at hb)
    exact ⟨f', by rw [drawRows, hrow, ok_bind, hrest]⟩

/-! ### Pictures -/

theorem isPainted_render (h : p.render t f = .ok f') :
    p.IsPainted t f f' 0 (f.height.toNat * f.width.toNat) := by
  simpa using isPainted_drawRows h (by simpa using f.height.toNat_lt)

theorem exists_render
    (hpaintable : ∀ i < f.height.toNat * f.width.toNat, p.IsPaintable f.width f.height i) :
    ∃ f', p.render t f = .ok f' :=
  exists_drawRows (by simpa using f.height.toNat_lt) fun i _ hi => hpaintable i (by simpa using hi)

/-- Full frames of one size are the same once they are painted. -/
theorem IsPainted.eq {g g' : Frame} (h : p.IsPainted t f f' 0 (f.height.toNat * f.width.toNat))
    (h' : p.IsPainted t g g' 0 (g.height.toNat * g.width.toNat)) (hf : f.IsFull) (hg : g.IsFull)
    (hwidth : f.width = g.width) (hheight : f.height = g.height) : f' = g' := by
  have hpixels : f'.pixels = g'.pixels := by
    apply Array.ext_getElem?
    intro i
    by_cases hi : i < f.height.toNat * f.width.toNat
    · have hi' : i < g.height.toNat * g.width.toNat := by rwa [← hwidth, ← hheight]
      rw [h.painted i (Nat.zero_le i) hi (by rwa [hf, Nat.mul_comm]),
        h'.painted i (Nat.zero_le i) hi' (by rwa [hg, Nat.mul_comm]), hwidth, hheight]
    · have hsize : f'.pixels.size ≤ i := by
        rw [h.size, hf, Nat.mul_comm]
        exact Nat.not_lt.1 hi
      have hsize' : g'.pixels.size ≤ i := by
        rw [h'.size, hg, ← hwidth, ← hheight, Nat.mul_comm]
        exact Nat.not_lt.1 hi
      rw [Array.getElem?_eq_none hsize, Array.getElem?_eq_none hsize']
  have hwidth' := h.width.trans (hwidth.trans h'.width.symm)
  have hheight' := h.height.trans (hheight.trans h'.height.symm)
  cases f'
  cases g'
  simp only at hwidth' hheight' hpixels
  rw [hwidth', hheight', hpixels]

theorem picture_eq_ok : p.picture width height t = .ok f ↔ width.toNat * height.toNat < 2 ^ 61 ∧
    p.render t (.uniform width height Frame.blackPixel) = .ok f := by
  simp only [picture, Frame.black, bind_eq_ok, Frame.filled_eq_ok]
  constructor
  · rintro ⟨_, ⟨hroom, rfl⟩, hrender⟩
    exact ⟨hroom, hrender⟩
  · rintro ⟨hroom, hrender⟩
    exact ⟨_, ⟨hroom, rfl⟩, hrender⟩

/-- Some picture of this size can be drawn. -/
def Completes (p : Pattern) (width height : UInt32) : Prop :=
  ∃ t f, p.picture width height t = .ok f

theorem Completes.room (h : p.Completes width height) : width.toNat * height.toNat < 2 ^ 61 := by
  obtain ⟨t, f, hf⟩ := h
  exact (picture_eq_ok.1 hf).1

theorem Completes.isPaintable (h : p.Completes width height) :
    ∀ i < height.toNat * width.toNat, p.IsPaintable width height i := by
  obtain ⟨t, f, hf⟩ := h
  exact fun i => (isPainted_render (picture_eq_ok.1 hf).2).paintable i (Nat.zero_le i)

/-- Then all pictures of this size can, and they are full frames of it. -/
theorem Completes.exists_picture (h : p.Completes width height) (t : UInt64) :
    ∃ f, p.picture width height t = .ok f ∧ f.width = width ∧ f.height = height ∧ f.IsFull := by
  obtain ⟨f, hf⟩ :=
    exists_render (t := t) (f := .uniform width height Frame.blackPixel) h.isPaintable
  have hpainted := isPainted_render hf
  refine ⟨f, picture_eq_ok.2 ⟨h.room, hf⟩, hpainted.width, hpainted.height, ?_⟩
  rw [Frame.IsFull, hpainted.width, hpainted.height, hpainted.size]
  exact Frame.isFull_uniform width height _

/-- **Over a full frame a drawing is what it is on a new one.** -/
theorem Completes.render_eq (h : p.Completes f.width f.height) (hf : f.IsFull) (t : UInt64) :
    p.render t f = p.picture f.width f.height t := by
  obtain ⟨f', hrender⟩ := exists_render (t := t) h.isPaintable
  obtain ⟨g, hpicture, -⟩ := h.exists_picture t
  have hblack := isPainted_render (picture_eq_ok.1 hpicture).2
  rw [hrender, hpicture,
    (isPainted_render hrender).eq hblack hf (Frame.isFull_uniform _ _ _) rfl rfl]

/-! ### Still patterns -/

section

variable {t' : UInt64} (hcolor : ∀ w h x y, p.color w h t x y = p.color w h t' x y)

include hcolor

theorem drawRow_congr (y : UInt32) (n : Nat) (x : UInt32) (f : Frame) :
    drawRow p t y n x f = drawRow p t' y n x f := by
  induction n generalizing x f with
  | zero => rfl
  | succ n ih => simp only [drawRow, hcolor, ih]

theorem drawRows_congr (n : Nat) (y : UInt32) (f : Frame) :
    drawRows p t n y f = drawRows p t' n y f := by
  induction n generalizing y f with
  | zero => rfl
  | succ n ih => simp only [drawRows, drawRow_congr hcolor, ih]

end

theorem picture_eq_of_not_live (hlive : p.isLive = false) (width height : UInt32) (t t' : UInt64) :
    p.picture width height t = p.picture width height t' := by
  have hrender : ∀ f, p.render t f = p.render t' f := by
    refine fun f => drawRows_congr (fun w h x y => ?_) _ _ _
    cases p with
    | gradient => rfl
    | checker => rfl
    | plasma => cases hlive
  simp only [picture, hrender]

end Pattern

end GlyphMosaic
