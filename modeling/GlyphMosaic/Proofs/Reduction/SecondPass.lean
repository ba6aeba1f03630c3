import GlyphMosaic.Proofs.RowMajor
import GlyphMosaic.Reduction.Reducer

/-!
# The two second passes agree

The plain pass turns one position of the planes after the other into a cell; the other one takes
four positions at a time on signed 32-bit lanes and leaves the last few to the plain one.

* `Lanes.Holds` says that four lanes hold given natural numbers, so that neither has an operation
  left the 32-bit range nor a sign got lost.  `Lanes.exact` follows the numbers from the planes to
  the luminance.
* `mapCells_eq` and `mapCellsInLanes_eq` : both passes give `planeCells`, the cells of the levels at
  the positions, as far as all planes go, and are out of range beyond.
* `Mode.cells_agree` : **the passes of the two modes cannot be told apart**, whatever the sizes of
  the planes and the levels in them.
-/

namespace GlyphMosaic

/-! ### Signed words -/

theorem toInt_max (a b : Int32) : (max a b).toInt = max a.toInt b.toInt := by
  change (if a ≤ b then b else a).toInt = _
  split <;> rename_i h <;> rw [Int32.le_iff_toInt_le] at h <;> omega

theorem toInt_min (a b : Int32) : (min a b).toInt = min a.toInt b.toInt := by
  change (if a ≤ b then a else b).toInt = _
  split <;> rename_i h <;> rw [Int32.le_iff_toInt_le] at h <;> omega

/-- A shift to the right by ten places divides by 1024. -/
theorem toInt_shiftRight_ten (a : Int32) : (a >>> 10).toInt = a.toInt / 1024 := by
  change (a.toBitVec.sshiftRight 10).toInt = _
  rw [BitVec.toInt_sshiftRight, Int.shiftRight_eq_div_pow]
  rfl

theorem toInt_ofLevel (v : UInt16) : v.toUInt32.toInt32.toInt = v.toNat := by
  have hv := v.toNat_lt
  change v.toUInt32.toBitVec.toInt = _
  rw [BitVec.toInt_eq_toNat_of_lt]
  · simp
  · simp; omega

theorem toNat_laneByte {v : Int32} {n : Nat} (h : v.toInt = n) (hn : n < 256) :
    (laneByte v).toNat = n := by
  have hv : v.toUInt32.toNat = n := by
    change v.toBitVec.toInt = n at h
    change v.toBitVec.toNat = n
    have := v.toBitVec.isLt
    rw [BitVec.toInt_eq_toNat_cond] at h
    split at h <;> omega
  rw [laneByte, UInt32.toNat_toUInt8, hv]
  omega

/-! ### What the lanes hold -/

namespace Lanes

/-- The lanes hold the numbers `f 0` to `f 3`, as signed words. -/
structure Holds (x : Lanes) (f : Nat → Nat) : Prop where
  /-- In lane 0. -/
  a : x.a.toInt = f 0
  /-- In lane 1. -/
  b : x.b.toInt = f 1
  /-- In lane 2. -/
  c : x.c.toInt = f 2
  /-- In lane 3. -/
  d : x.d.toInt = f 3

variable {x y : Lanes} {f g : Nat → Nat}

theorem holds_splat {v : Int32} {n : Nat} (h : v.toInt = n) : (splat v).Holds fun _ => n :=
  ⟨h, h, h, h⟩

theorem Holds.clampToByte (h : x.Holds f) : x.clampToByte.Holds fun k => min (f k) 255 := by
  have key : ∀ {v : Int32} {n : Nat}, v.toInt = n →
      (min (max v 0) 255).toInt = ((min n 255 : Nat) : Int) := by
    intro v n hv
    rw [toInt_min, toInt_max, hv]
    change min (max (n : Int) 0) 255 = _
    omega
  exact ⟨key h.a, key h.b, key h.c, key h.d⟩

theorem Holds.mul (hx : x.Holds f) (hy : y.Holds g) (hlt : ∀ k, f k * g k < 2 ^ 31) :
    (x.zipWith (· * ·) y).Holds fun k => f k * g k := by
  have key : ∀ {v w : Int32} (k : Nat), v.toInt = f k → w.toInt = g k →
      (v * w).toInt = ((f k * g k : Nat) : Int) := by
    intro v w k hv hw
    have hk := hlt k
    rw [Int32.toInt_mul, hv, hw, ← Int.natCast_mul, Int.bmod_eq_of_le] <;> omega
  exact ⟨key 0 hx.a hy.a, key 1 hx.b hy.b, key 2 hx.c hy.c, key 3 hx.d hy.d⟩

theorem Holds.add (hx : x.Holds f) (hy : y.Holds g) (hlt : ∀ k, f k + g k < 2 ^ 31) :
    (x.zipWith (· + ·) y).Holds fun k => f k + g k := by
  have key : ∀ {v w : Int32} (k : Nat), v.toInt = f k → w.toInt = g k →
      (v + w).toInt = ((f k + g k : Nat) : Int) := by
    intro v w k hv hw
    have hk := hlt k
    rw [Int32.toInt_add, hv, hw, ← Int.natCast_add, Int.bmod_eq_of_le] <;> omega
  exact ⟨key 0 hx.a hy.a, key 1 hx.b hy.b, key 2 hx.c hy.c, key 3 hx.d hy.d⟩

theorem Holds.shiftRight_ten (h : x.Holds f) : (x.map (· >>> 10)).Holds fun k => f k / 1024 := by
  have key : ∀ {v : Int32} {n : Nat}, v.toInt = n →
      (v >>> 10).toInt = ((n / 1024 : Nat) : Int) := by
    intro v n hv
    rw [toInt_shiftRight_ten, hv]
    omega
  exact ⟨key h.a, key h.b, key h.c, key h.d⟩

theorem load_of_le (plane : Array UInt16) {i : Nat} (h : i + 4 ≤ plane.size) :
    ∃ x, load plane i = .ok x ∧ x.Holds fun k => (plane.getD (i + k) 0).toNat := by
  unfold load
  rw [fetch_of_lt (show i < plane.size by omega) 0,
    fetch_of_lt (show i + 1 < plane.size by omega) 0,
    fetch_of_lt (show i + 2 < plane.size by omega) 0,
    fetch_of_lt (show i + 3 < plane.size by omega) 0]
  exact ⟨_, rfl, toInt_ofLevel _, toInt_ofLevel _, toInt_ofLevel _, toInt_ofLevel _⟩

theorem load_of_lt {plane : Array UInt16} {i : Nat} (h : plane.size < i + 4) :
    load plane i = .error .outOfRange := by
  unfold load
  -- the first of the four positions that is not there gives the fault
  by_cases h₀ : plane.size ≤ i
  · rw [fetch_of_size_le h₀, error_bind]
  rw [fetch_of_lt (Nat.not_le.1 h₀) 0, ok_bind]
  by_cases h₁ : plane.size ≤ i + 1
  · rw [fetch_of_size_le h₁, error_bind]
  rw [fetch_of_lt (Nat.not_le.1 h₁) 0, ok_bind]
  by_cases h₂ : plane.size ≤ i + 2
  · rw [fetch_of_size_le h₂, error_bind]
  rw [fetch_of_lt (Nat.not_le.1 h₂) 0, ok_bind, fetch_of_size_le (by omega), error_bind]

theorem holds_of_load {plane : Array UInt16} {i : Nat} (h : load plane i = .ok x) :
    x.Holds fun k => (plane.getD (i + k) 0).toNat := by
  by_cases hs : i + 4 ≤ plane.size
  · obtain ⟨y, hy, hh⟩ := load_of_le plane hs
    rw [hy] at h
    cases h
    exact hh
  · rw [load_of_lt (Nat.not_le.1 hs)] at h
    cases h

/-- The numbers in the lanes on the way from the levels `r`, `g` and `b`, cut to bytes, to their
luminances: every operation gives what it gives on natural numbers. -/
structure Exact (x y z : Lanes) (r g b : Nat → Nat) : Prop where
  /-- The red levels. -/
  red : x.Holds r
  /-- The green levels. -/
  green : y.Holds g
  /-- The blue levels. -/
  blue : z.Holds b
  /-- The red levels with their weight. -/
  weightedRed : (x.zipWith (· * ·) (splat 299)).Holds fun k => r k * 299
  /-- The green levels with their weight. -/
  weightedGreen : (y.zipWith (· * ·) (splat 587)).Holds fun k => g k * 587
  /-- The blue levels with their weight. -/
  weightedBlue : (z.zipWith (· * ·) (splat 114)).Holds fun k => b k * 114
  /-- The first sum. -/
  redGreen : ((x.zipWith (· * ·) (splat 299)).zipWith (· + ·)
    (y.zipWith (· * ·) (splat 587))).Holds fun k => r k * 299 + g k * 587
  /-- The second sum. -/
  weighted : (weighted x y z).Holds fun k => r k * 299 + g k * 587 + b k * 114
  /-- The sums in 1024ths. -/
  shifted : ((Lanes.weighted x y z).map (· >>> 10)).Holds fun k =>
    (r k * 299 + g k * 587 + b k * 114) / 1024
  /-- The luminances. -/
  luminance : (luminance x y z).Holds fun k =>
    min ((r k * 299 + g k * 587 + b k * 114) / 1024) 255

theorem exact {x y z : Lanes} {r g b : Nat → Nat} (hx : x.Holds r) (hy : y.Holds g)
    (hz : z.Holds b) (hr : ∀ k, r k ≤ 255) (hg : ∀ k, g k ≤ 255) (hb : ∀ k, b k ≤ 255) :
    Exact x y z r g b := by
  -- the weights are 1000 together, so that no sum exceeds 255 * 1000
  have h₁ := hx.mul (holds_splat (v := 299) (n := 299) rfl) fun k => by have := hr k; omega
  have h₂ := hy.mul (holds_splat (v := 587) (n := 587) rfl) fun k => by have := hg k; omega
  have h₃ := hz.mul (holds_splat (v := 114) (n := 114) rfl) fun k => by have := hb k; omega
  have h₁₂ := h₁.add h₂ fun k => by have := hr k; have := hg k; omega
  have hw := h₁₂.add h₃ fun k => by have := hr k; have := hg k; have := hb k; omega
  exact ⟨hx, hy, hz, h₁, h₂, h₃, h₁₂, hw, hw.shiftRight_ten, hw.shiftRight_ten.clampToByte⟩

end Lanes

/-! ### Cells of levels -/

theorem toNat_clampToByte (v : UInt16) : (clampToByte v).toNat = min v.toNat 255 := by
  unfold clampToByte
  split <;> rename_i h <;> rw [UInt16.lt_iff_toNat_lt] at h
  · change v.toNat < 255 at h
    rw [UInt16.toNat_toUInt8]
    omega
  · change ¬ v.toNat < 255 at h
    change 255 = _
    omega

theorem toNat_luminance (r g b : Nat) :
    (luminance r g b).toNat = min (weightedLevel r g b / 1024) 255 :=
  UInt8.toNat_ofNat_of_lt' (Nat.lt_succ_of_le (Nat.min_le_right _ 255))

/-- The cell of a lane is that of the levels it was computed from. -/
theorem laneCell_eq (t : Tables) {l r g b : Int32} {u v w : UInt16}
    (hr : r.toInt = (min u.toNat 255 : Nat)) (hg : g.toInt = (min v.toNat 255 : Nat))
    (hb : b.toInt = (min w.toNat 255 : Nat))
    (hl : l.toInt = (min ((min u.toNat 255 * 299 + min v.toNat 255 * 587 +
      min w.toNat 255 * 114) / 1024) 255 : Nat)) :
    laneCell t l r g b = t.cellOfLevels u v w := by
  have key : ∀ {x : Int32} {a : UInt16}, x.toInt = (min a.toNat 255 : Nat) →
      laneByte x = clampToByte a := by
    intro x a hx
    apply UInt8.toNat_inj.1
    rw [toNat_laneByte hx (by omega), toNat_clampToByte]
  have hlum : laneByte l = Rgb.luminance ⟨clampToByte u, clampToByte v, clampToByte w⟩ := by
    apply UInt8.toNat_inj.1
    rw [toNat_laneByte hl (by omega), Rgb.luminance, toNat_luminance]
    simp only [weightedLevel, toNat_clampToByte]
    rw [Nat.mul_comm 299, Nat.mul_comm 587, Nat.mul_comm 114]
  rw [laneCell, key hr, key hg, key hb, hlum]
  rfl

/-- The number of positions at which all three planes have an entry. -/
def Planes.entries (p : Planes) : Nat := min p.r.size (min p.g.size p.b.size)

/-- The cell of the levels at a position. -/
def planeCellAt (t : Tables) (p : Planes) (i : Nat) : Cell :=
  t.cellOfLevels (p.r.getD i 0) (p.g.getD i 0) (p.b.getD i 0)

/-- The cells of the levels at the first positions. -/
def planeCells (t : Tables) (p : Planes) (n : Nat) : Array Cell := firstValues (planeCellAt t p) n

section Passes

variable {t : Tables} {p : Planes} {i n : Nat}

/-! ### One position at a time -/

theorem planeCell_of_lt (h : i < p.entries) : planeCell t p i = .ok (planeCellAt t p i) := by
  unfold Planes.entries at h
  unfold planeCell
  rw [fetch_of_lt (show i < p.r.size by omega) 0, fetch_of_lt (show i < p.g.size by omega) 0,
    fetch_of_lt (show i < p.b.size by omega) 0]
  rfl

theorem planeCell_of_le (h : p.entries ≤ i) : planeCell t p i = .error .outOfRange := by
  unfold Planes.entries at h
  unfold planeCell
  by_cases hr : p.r.size ≤ i
  · rw [fetch_of_size_le hr, error_bind]
  rw [fetch_of_lt (Nat.not_le.1 hr) 0, ok_bind]
  by_cases hg : p.g.size ≤ i
  · rw [fetch_of_size_le hg, error_bind]
  rw [fetch_of_lt (Nat.not_le.1 hg) 0, ok_bind, fetch_of_size_le (by omega), error_bind]

theorem appendCells_eq (hi : i ≤ p.entries) :
    appendCells t p n i (planeCells t p i) =
      if i + n ≤ p.entries then .ok (planeCells t p (i + n)) else .error .outOfRange := by
  induction n generalizing i with
  | zero => rw [Nat.add_zero, if_pos hi]; rfl
  | succ n ih =>
    rw [appendCells]
    by_cases h : i < p.entries
    · rw [planeCell_of_lt h, ok_bind, planeCells, ← firstValues_succ, ← planeCells, ih h,
        show i + 1 + n = i + (n + 1) by omega]
    · rw [planeCell_of_le (Nat.not_lt.1 h), error_bind, if_neg (by omega)]

theorem mapCells_eq (t : Tables) (p : Planes) (n : Nat) :
    mapCells t p n = if n ≤ p.entries then .ok (planeCells t p n) else .error .outOfRange := by
  have h := appendCells_eq (t := t) (n := n) (Nat.zero_le p.entries)
  rw [Nat.zero_add] at h
  rw [mapCells, ← h, planeCells, firstValues_zero]

/-! ### Four positions at a time -/

theorem appendLaneCells_of_le (h : i + 4 ≤ p.entries) :
    appendLaneCells t p i (planeCells t p i) = .ok (planeCells t p (i + 4)) := by
  unfold Planes.entries at h
  obtain ⟨x, hx, hr⟩ := Lanes.load_of_le p.r (i := i) (by omega)
  obtain ⟨y, hy, hg⟩ := Lanes.load_of_le p.g (i := i) (by omega)
  obtain ⟨z, hz, hb⟩ := Lanes.load_of_le p.b (i := i) (by omega)
  have he := Lanes.exact hr.clampToByte hg.clampToByte hb.clampToByte (fun k => by omega)
    (fun k => by omega) fun k => by omega
  have h₀ := laneCell_eq t he.red.a he.green.a he.blue.a he.luminance.a
  have h₁ := laneCell_eq t he.red.b he.green.b he.blue.b he.luminance.b
  have h₂ := laneCell_eq t he.red.c he.green.c he.blue.c he.luminance.c
  have h₃ := laneCell_eq t he.red.d he.green.d he.blue.d he.luminance.d
  rw [appendLaneCells, hx, hy, hz]
  simp only [ok_bind, pure_eq_ok, h₀, h₁, h₂, h₃]
  rw [planeCells, planeCells, firstValues_succ, firstValues_succ,
    firstValues_succ, firstValues_succ]
  rfl

theorem appendLaneCells_of_lt (out : Array Cell) (h : p.entries < i + 4) :
    appendLaneCells t p i out = .error .outOfRange := by
  unfold Planes.entries at h
  unfold appendLaneCells
  by_cases hr : p.r.size < i + 4
  · rw [Lanes.load_of_lt hr, error_bind]
  obtain ⟨x, hx, -⟩ := Lanes.load_of_le _ (Nat.not_lt.1 hr)
  rw [hx, ok_bind]
  by_cases hg : p.g.size < i + 4
  · rw [Lanes.load_of_lt hg, error_bind]
  obtain ⟨y, hy, -⟩ := Lanes.load_of_le _ (Nat.not_lt.1 hg)
  rw [hy, ok_bind, Lanes.load_of_lt (by omega), error_bind]

theorem appendLaneGroups_eq (hi : i ≤ p.entries) :
    appendLaneGroups t p n i (planeCells t p i) =
      if i + 4 * n ≤ p.entries then .ok (planeCells t p (i + 4 * n)) else .error .outOfRange := by
  induction n generalizing i with
  | zero => rw [Nat.mul_zero, Nat.add_zero, if_pos hi]; rfl
  | succ n ih =>
    rw [appendLaneGroups]
    by_cases h : i + 4 ≤ p.entries
    · rw [appendLaneCells_of_le h, ok_bind, ih h, show i + 4 + 4 * n = i + 4 * (n + 1) by omega]
    · -- a group that is not there ends the pass, and no more of it are there
      rw [appendLaneCells_of_lt _ (Nat.not_le.1 h), error_bind, if_neg (by omega)]

theorem mapCellsInLanes_eq (t : Tables) (p : Planes) (n : Nat) :
    mapCellsInLanes t p n =
      if n ≤ p.entries then .ok (planeCells t p n) else .error .outOfRange := by
  have hgroups := appendLaneGroups_eq (t := t) (n := n / 4) (Nat.zero_le p.entries)
  rw [Nat.zero_add, planeCells, firstValues_zero] at hgroups
  have hsplit : 4 * (n / 4) = n - n % 4 := by omega
  rw [mapCellsInLanes, hgroups, hsplit]
  by_cases h : n - n % 4 ≤ p.entries
  · -- the rest of fewer than four cells is appended one by one
    rw [if_pos h, ok_bind, appendCells_eq h, Nat.sub_add_cancel (Nat.mod_le n 4)]
  · rw [if_neg h, error_bind, if_neg (by omega)]

end Passes

/-! ### Both modes -/

theorem Mode.cells_eq (mode : Mode) (t : Tables) (p : Planes) (n : Nat) :
    mode.cells t p n = if n ≤ p.entries then .ok (planeCells t p n) else .error .outOfRange := by
  cases mode with
  | vectorized => exact mapCellsInLanes_eq t p n
  | scalar => exact mapCells_eq t p n

/-- **The second passes of the two modes cannot be told apart.**  Both are out of range exactly
where a plane has fewer than `n` levels; otherwise both give the same `n` cells, each the cell of
the three levels at its position.  On the way, from any position at which four levels can be loaded,
the lanes hold the exact natural numbers: no operation overflows and none loses a sign. -/
theorem Mode.cells_agree (t : Tables) (p : Planes) (n : Nat) :
    (∀ mode : Mode, mode.cells t p n = .error .outOfRange ↔
      p.r.size < n ∨ p.g.size < n ∨ p.b.size < n) ∧
    (∀ (_ : n ≤ p.r.size) (_ : n ≤ p.g.size) (_ : n ≤ p.b.size), ∃ cells : Array Cell,
      (∀ mode : Mode, mode.cells t p n = .ok cells) ∧ cells.size = n ∧
        ∀ i (_ : i < n), cells[i]? = some (t.cellOfLevels p.r[i] p.g[i] p.b[i])) ∧
    ∀ i x y z, Lanes.load p.r i = .ok x → Lanes.load p.g i = .ok y → Lanes.load p.b i = .ok z →
      (x.Holds fun k => (p.r.getD (i + k) 0).toNat) ∧
      (y.Holds fun k => (p.g.getD (i + k) 0).toNat) ∧
      (z.Holds fun k => (p.b.getD (i + k) 0).toNat) ∧
      Lanes.Exact x.clampToByte y.clampToByte z.clampToByte
        (fun k => min (p.r.getD (i + k) 0).toNat 255) (fun k => min (p.g.getD (i + k) 0).toNat 255)
        fun k => min (p.b.getD (i + k) 0).toNat 255 := by
  refine ⟨fun mode => ?_, fun hr hg hb => ?_, fun i x y z hx hy hz => ?_⟩
  · rw [Mode.cells_eq, Planes.entries]
    split
    · simp; omega
    · simp; omega
  · refine ⟨planeCells t p n, fun mode => ?_, size_firstValues _ n, fun i hi => ?_⟩
    · rw [Mode.cells_eq, if_pos (by unfold Planes.entries; omega)]
    · rw [planeCells, getElem?_firstValues _ hi, planeCellAt]
      simp [show i < p.r.size by omega, show i < p.g.size by omega, show i < p.b.size by omega]
  · have hr := Lanes.holds_of_load hx
    have hg := Lanes.holds_of_load hy
    have hb := Lanes.holds_of_load hz
    exact ⟨hr, hg, hb, Lanes.exact hr.clampToByte hg.clampToByte hb.clampToByte (fun k => by omega)
      (fun k => by omega) fun k => by omega⟩

/-- Five levels of which four go through the lanes, with levels above a byte among them; the planes
have different sizes. -/
theorem Mode.cells_agree_five :
    ∃ cells : Array Cell,
      (∀ mode : Mode, mode.cells .default
        ⟨#[300, 5, 65535, 0, 7], #[255, 256, 1, 32768, 9, 10], #[0, 128, 254, 40000, 65535]⟩ 5 =
          .ok cells) ∧
      cells.size = 5 ∧
      cells[2]? = some (Tables.default.cellOfLevels 65535 1 254) ∧
      (Lanes.luminance (Lanes.clampToByte ⟨300, 5, 65535, 0⟩)
        (Lanes.clampToByte ⟨255, 256, 1, 32768⟩)
        (Lanes.clampToByte ⟨0, 128, 254, 40000⟩)).c.toInt = 103 := by
  have h := Mode.cells_agree .default
    ⟨#[300, 5, 65535, 0, 7], #[255, 256, 1, 32768, 9, 10], #[0, 128, 254, 40000, 65535]⟩ 5
  obtain ⟨cells, hcells, hsize, hcell⟩ := h.2.1 (by decide) (by decide) (by decide)
  have hexact :=
    (h.2.2 0 ⟨300, 5, 65535, 0⟩ ⟨255, 256, 1, 32768⟩ ⟨0, 128, 254, 40000⟩ rfl rfl rfl).2.2.2
  exact ⟨cells, hcells, hsize, hcell 2 (by decide), hexact.luminance.c.trans (by decide)⟩

end GlyphMosaic
