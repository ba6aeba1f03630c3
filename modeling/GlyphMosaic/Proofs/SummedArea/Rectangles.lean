import GlyphMosaic.Proofs.Runs
import GlyphMosaic.Proofs.SummedArea.Entries
import GlyphMosaic.Reduction.Region
import Mathlib.Tactic.NormNum

/-!
# Rectangles after any history

The tables of a frame are built over whatever earlier frames left behind.  This file follows a
history of builds and releases and says what the four entries of a rectangle give at its end.

* `SumTable.Reads` : the four entries are there, are 64-bit words and give the sum of the rectangle
  without going below zero; in 64-bit arithmetic they give it unless the first addition overflows.
* `SummedArea.rectangle_afterAll` : **every rectangle of the last frame reads so**, after any
  history of frames of fewer than `2 ^ 56` pixels; where twice the greatest possible sum of the
  frame fits 64 bits no addition overflows.
* `SummedArea.rectangle_overflows` : a bound of `2 ^ 56` pixels is not enough for that.
-/

namespace GlyphMosaic

namespace SumTable

/-- The entry at a column and a row. -/
def entry (t : Array Nat) (stride x y : Nat) : Nat := t.getD (y * stride + x) 0

/-- The four entries of a rectangle are there and give `sum`. -/
structure Reads (t : Array Nat) (stride x₀ x₁ y₀ y₁ sum : Nat) : Prop where
  /-- The entry that is added first is there. -/
  lowerRight : fetch t (y₁ * stride + x₁) = .ok (entry t stride x₁ y₁)
  /-- So is the one that is added second. -/
  upperLeft : fetch t (y₀ * stride + x₀) = .ok (entry t stride x₀ y₀)
  /-- So is the one that is subtracted first. -/
  lowerLeft : fetch t (y₁ * stride + x₀) = .ok (entry t stride x₀ y₁)
  /-- So is the one that is subtracted second. -/
  upperRight : fetch t (y₀ * stride + x₁) = .ok (entry t stride x₁ y₀)
  /-- They are 64-bit words. -/
  words : entry t stride x₁ y₁ < 2 ^ 64 ∧ entry t stride x₀ y₀ < 2 ^ 64 ∧
    entry t stride x₀ y₁ < 2 ^ 64 ∧ entry t stride x₁ y₀ < 2 ^ 64
  /-- The first difference is not negative. -/
  first : entry t stride x₀ y₁ ≤ entry t stride x₁ y₁ + entry t stride x₀ y₀
  /-- Nor is the second. -/
  second : entry t stride x₁ y₀ ≤
    entry t stride x₁ y₁ + entry t stride x₀ y₀ - entry t stride x₀ y₁
  /-- It is the sum. -/
  value : entry t stride x₁ y₁ + entry t stride x₀ y₀ - entry t stride x₀ y₁ -
    entry t stride x₁ y₀ = sum
  /-- In 64-bit arithmetic the addition, and nothing else, can overflow. -/
  rectangle : rectangle t stride x₀ x₁ y₀ y₁ =
    if entry t stride x₁ y₁ + entry t stride x₀ y₀ < 2 ^ 64 then .ok sum else .error .overflow

variable {t : Array Nat} {stride x₀ x₁ y₀ y₁ sum : Nat}

theorem reads_of_entries (hx : x₀ ≤ x₁) (hy : y₀ ≤ y₁) (hsize : y₁ * stride + x₁ < t.size)
    (hwords : entry t stride x₁ y₁ < 2 ^ 64 ∧ entry t stride x₀ y₀ < 2 ^ 64 ∧
      entry t stride x₀ y₁ < 2 ^ 64 ∧ entry t stride x₁ y₀ < 2 ^ 64)
    (hsum : entry t stride x₁ y₁ + entry t stride x₀ y₀ =
      sum + entry t stride x₀ y₁ + entry t stride x₁ y₀) : Reads t stride x₀ x₁ y₀ y₁ sum := by
  have hrows : y₀ * stride ≤ y₁ * stride := Nat.mul_le_mul_right _ hy
  have hlr : fetch t (y₁ * stride + x₁) = .ok (entry t stride x₁ y₁) := fetch_of_lt hsize 0
  have hul : fetch t (y₀ * stride + x₀) = .ok (entry t stride x₀ y₀) := fetch_of_lt (by omega) 0
  have hll : fetch t (y₁ * stride + x₀) = .ok (entry t stride x₀ y₁) := fetch_of_lt (by omega) 0
  have hur : fetch t (y₀ * stride + x₁) = .ok (entry t stride x₁ y₀) := fetch_of_lt (by omega) 0
  refine ⟨hlr, hul, hll, hur, hwords, by omega, by omega, by omega, ?_⟩
  rw [SumTable.rectangle, hlr, hul, hll, hur]
  simp only [ok_bind]
  split
  · rename_i hlt
    rw [fitting_of_lt hlt, ok_bind, difference_of_le (by omega), ok_bind,
      difference_of_le (by omega)]
    congr 1
    omega
  · rename_i hge
    rw [fitting_of_le (Nat.not_lt.1 hge), error_bind]

theorem fill_reads (level : Nat → Nat) {w h : Nat} (hx : x₀ ≤ x₁) (hxw : x₁ ≤ w) (hy : y₀ ≤ y₁)
    (hyh : y₁ ≤ h)
    (hwords : ∀ x ≤ w, ∀ y ≤ h, entry (fill level w h t) (w + 1) x y < 2 ^ 64) :
    Reads (fill level w h t) (w + 1) x₀ x₁ y₀ y₁ (levelSum level w x₀ x₁ y₀ y₁) := by
  have hsize : y₁ * (w + 1) + x₁ < (fill level w h t).size := by
    have hrows : y₁ * (w + 1) ≤ h * (w + 1) := Nat.mul_le_mul_right _ hyh
    have hneed : (w + 1) * (h + 1) = h * (w + 1) + (w + 1) := by rw [Nat.mul_comm, Nat.succ_mul]
    rw [size_fill]
    omega
  refine reads_of_entries hx hy hsize ⟨hwords _ hxw _ hyh, hwords _ (by omega) _ (by omega),
    hwords _ (by omega) _ hyh, hwords _ hxw _ (by omega)⟩ ?_
  by_cases hw : w = 0
  · -- the entries may be old ones, but the two columns are one
    obtain rfl : x₀ = x₁ := by omega
    rw [levelSum_self]
    omega
  · have hsums := fill_sumsTo level hw h t
    unfold entry
    rw [hsums y₁ hyh x₁ hxw, hsums y₀ (by omega) x₀ (by omega), hsums y₁ hyh x₀ (by omega),
      hsums y₀ (by omega) x₁ hxw]
    exact corner_add_corner level w hx hy

end SumTable

namespace SummedArea

open SumTable

theorem levelAt_le (pixels : Array Pixel) (channel : Channel) (i : Nat) :
    Region.levelAt pixels channel i ≤ 255 := by
  have := ((pixels.getD i 0).level channel).toNat_lt
  unfold Region.levelAt
  omega

theorem levelAt_replicate (p : Pixel) (channel : Channel) {n i : Nat} (hi : i < n) :
    Region.levelAt (Array.replicate n p) channel i = (p.level channel).toNat := by
  rw [Region.levelAt, Array.getD_eq_getD_getElem?, Array.getElem?_replicate, if_pos hi]
  rfl

/-- The sums of the three channels over a rectangle of a frame. -/
def sums (pixels : Array Pixel) (w x₀ x₁ y₀ y₁ : Nat) : Channels Nat :=
  ⟨levelSum (Region.levelAt pixels .red) w x₀ x₁ y₀ y₁,
    levelSum (Region.levelAt pixels .green) w x₀ x₁ y₀ y₁,
    levelSum (Region.levelAt pixels .blue) w x₀ x₁ y₀ y₁⟩

@[simp] theorem get_sums (pixels : Array Pixel) (w x₀ x₁ y₀ y₁ : Nat) (channel : Channel) :
    (sums pixels w x₀ x₁ y₀ y₁).get channel =
      levelSum (Region.levelAt pixels channel) w x₀ x₁ y₀ y₁ := by
  cases channel <;> rfl

/-- The tables of a frame, written over those of `a`. -/
def rewritten (a : SummedArea) (pixels : Array Pixel) (w h : Nat) : SummedArea :=
  ⟨a.tables.map fun channel t => fill (Region.levelAt pixels channel) w h t, w + 1, h + 1⟩

variable {a : SummedArea} {pixels : Array Pixel} {w h : Nat}

theorem build_of_le (hp : w * h ≤ pixels.size) :
    a.build pixels w h = .ok (a.rewritten pixels w h) :=
  if_neg (Nat.not_lt.2 hp)

@[simp] theorem get_rewritten (channel : Channel) : (a.rewritten pixels w h).tables.get channel =
    fill (Region.levelAt pixels channel) w h (a.tables.get channel) := by
  rw [rewritten, Channels.get_map]

/-- Sums that the entries give are read off in 64-bit arithmetic exactly where no addition
overflows. -/
theorem rectangle_eq_ok {s : Channels Nat} {x₀ x₁ y₀ y₁ : Nat}
    (hreads : ∀ channel, Reads (a.tables.get channel) a.stride x₀ x₁ y₀ y₁ (s.get channel)) :
    a.rectangle x₀ x₁ y₀ y₁ = .ok s ↔ ∀ channel, entry (a.tables.get channel) a.stride x₁ y₁ +
      entry (a.tables.get channel) a.stride x₀ y₀ < 2 ^ 64 := by
  rw [rectangle, Channels.tabulate_eq_ok]
  refine forall_congr' fun channel => ?_
  rw [(hreads channel).rectangle]
  split <;> simp_all

/-- Where twice the greatest possible sum fits 64 bits, the rectangles of a frame with columns are
read off whatever the tables were written over. -/
theorem rectangle_rewritten (hw : w ≠ 0) (hfit : 2 * (255 * (w * h)) < 2 ^ 64) {x₀ x₁ y₀ y₁ : Nat}
    (hx : x₀ ≤ x₁) (hxw : x₁ ≤ w) (hy : y₀ ≤ y₁) (hyh : y₁ ≤ h) :
    (a.rewritten pixels w h).rectangle x₀ x₁ y₀ y₁ = .ok (sums pixels w x₀ x₁ y₀ y₁) := by
  -- with columns every entry of the frame is a corner, none is an old one
  have hcorner : ∀ channel, ∀ x ≤ w, ∀ y ≤ h,
      entry ((a.rewritten pixels w h).tables.get channel) (w + 1) x y ≤ 255 * (w * h) := by
    intro channel x hx' y hy'
    rw [get_rewritten, entry, fill_sumsTo _ hw h _ y hy' x hx']
    exact corner_le (levelAt_le pixels channel) hx' hy'
  refine (rectangle_eq_ok fun channel => ?_).2 fun channel => ?_
  · rw [get_sums, get_rewritten]
    refine fill_reads (Region.levelAt pixels channel) hx hxw hy hyh fun x hx' y hy' => ?_
    have := hcorner channel x hx' y hy'
    rw [get_rewritten] at this
    omega
  · have h₁ := hcorner channel x₁ hxw y₁ hyh
    have h₀ := hcorner channel x₀ (by omega) y₀ (by omega)
    change entry _ (w + 1) x₁ y₁ + entry _ (w + 1) x₀ y₀ < 2 ^ 64
    omega

/-! ### Histories -/

/-- What can be done to the tables. -/
inductive Call where
  | build (pixels : Array Pixel) (w h : Nat)
  | release

/-- The tables after a call. -/
def after (a : SummedArea) : Call → Except Fault SummedArea
  | .build pixels w h => a.build pixels w h
  | .release => .ok .empty

/-- The tables after a history of calls. -/
def afterAll (a : SummedArea) (history : List Call) : Except Fault SummedArea :=
  history.foldlM after a

/-- A build has its pixels, and the sum of its levels fits 64 bits. -/
def Call.Fits : Call → Prop
  | .build pixels w h => w * h < 2 ^ 56 ∧ w * h ≤ pixels.size
  | .release => True

/-- Twice the greatest possible sum of the levels of a build fits 64 bits. -/
def Call.FitsTwice : Call → Prop
  | .build _ w h => 2 * (255 * (w * h)) < 2 ^ 64
  | .release => True

/-- No entry exceeds a bound. -/
def IsBounded (B : Nat) (a : SummedArea) : Prop := ∀ channel j, (a.tables.get channel).getD j 0 ≤ B

theorem isBounded_empty (B : Nat) : IsBounded B .empty := by
  intro channel j
  cases channel <;> simp [empty, Channels.get]

theorem IsBounded.rewritten {B : Nat} (ha : a.IsBounded B) (hB : 255 * (w * h) ≤ B) :
    (a.rewritten pixels w h).IsBounded B := by
  intro channel j
  rw [get_rewritten]
  exact fill_getD_le (levelAt_le pixels channel) hB (ha channel) j

/-- A history of frames whose sums stay within a bound leaves entries within that bound. -/
theorem afterAll_isBounded {B : Nat} {history : List Call}
    (hfits : ∀ call ∈ history, call.Fits)
    (hB : ∀ pixels w h, Call.build pixels w h ∈ history → 255 * (w * h) ≤ B) :
    ∃ a, empty.afterAll history = .ok a ∧ a.IsBounded B := by
  refine run_induction (P := fun call => call ∈ history) (fun a call ha hcall => ?_)
    (isBounded_empty B) fun _ h => h
  cases call with
  | build pixels w h => exact ⟨_, build_of_le (hfits _ hcall).2, ha.rewritten (hB _ _ _ hcall)⟩
  | release => exact ⟨_, rfl, isBounded_empty B⟩

/-- The last build of a history writes its frame over what the calls before it left behind. -/
theorem afterAll_build {history : List Call}
    (hfits : ∀ call ∈ history ++ [.build pixels w h], call.Fits) :
    ∃ a₀ : SummedArea,
      empty.afterAll (history ++ [.build pixels w h]) = .ok (a₀.rewritten pixels w h) := by
  have hhistory : ∀ call ∈ history, call.Fits :=
    fun call hc => hfits call (List.mem_append_left _ hc)
  obtain ⟨a₀, h₀, -⟩ : ∃ a₀, empty.afterAll history = .ok a₀ ∧ True := by
    refine run_induction (P := Call.Fits) (fun a call _ hcall => ?_) trivial hhistory
    cases call with
    | build pixels w h => exact ⟨_, build_of_le hcall.2, trivial⟩
    | release => exact ⟨_, rfl, trivial⟩
  refine ⟨a₀, ?_⟩
  rw [afterAll, run_concat after h₀]
  exact build_of_le (hfits (.build pixels w h) (by simp)).2

/-- **Every rectangle of the last frame is read off, whatever came before it.**  After any history
of builds of fewer than `2 ^ 56` pixels and releases the four entries of a rectangle are there and
give, for each channel, the sum of the levels of its pixels without going below zero.  In 64-bit
arithmetic they give it exactly where the first addition does not overflow, which it never does
where twice the greatest possible sum of the last build fits 64 bits.  Only a last build without
columns leaves entries of earlier builds to be read, so that it takes all of these to fit so,
too. -/
theorem rectangle_afterAll (history : List Call) (pixels : Array Pixel) (w h : Nat)
    (hfits : ∀ call ∈ history ++ [.build pixels w h], call.Fits) :
    ∃ a, empty.afterAll (history ++ [.build pixels w h]) = .ok a ∧
      ∀ x₀ x₁ y₀ y₁, x₀ ≤ x₁ → x₁ ≤ w → y₀ ≤ y₁ → y₁ ≤ h →
        (∀ channel, Reads (a.tables.get channel) a.stride x₀ x₁ y₀ y₁
          (levelSum (Region.levelAt pixels channel) w x₀ x₁ y₀ y₁)) ∧
        (a.rectangle x₀ x₁ y₀ y₁ = .ok (sums pixels w x₀ x₁ y₀ y₁) ↔
          ∀ channel, entry (a.tables.get channel) a.stride x₁ y₁ +
            entry (a.tables.get channel) a.stride x₀ y₀ < 2 ^ 64) ∧
        ((w = 0 → ∀ call ∈ history, call.FitsTwice) → Call.FitsTwice (.build pixels w h) →
          a.rectangle x₀ x₁ y₀ y₁ = .ok (sums pixels w x₀ x₁ y₀ y₁)) := by
  have hB : ∀ p v u, Call.build p v u ∈ history ++ [.build pixels w h] →
      255 * (v * u) ≤ 255 * (2 ^ 56 - 1) := by
    intro p v u hmem
    have := (hfits _ hmem).1
    omega
  -- no entry is more than the greatest possible sum of some frame of the history
  obtain ⟨a, ha, hbound⟩ := afterAll_isBounded hfits hB
  obtain ⟨a₀, hlast⟩ := afterAll_build hfits
  have hrewritten : a = a₀.rewritten pixels w h := Except.ok.inj (ha.symm.trans hlast)
  refine ⟨a, ha, fun x₀ x₁ y₀ y₁ hx hxw hy hyh => ?_⟩
  have hreads : ∀ channel, Reads (a.tables.get channel) a.stride x₀ x₁ y₀ y₁
      (levelSum (Region.levelAt pixels channel) w x₀ x₁ y₀ y₁) := by
    intro channel
    subst hrewritten
    have hwords := hbound channel
    rw [get_rewritten] at hwords ⊢
    refine fill_reads _ hx hxw hy hyh fun x _ y _ => ?_
    have := hwords (y * (w + 1) + x)
    unfold entry
    omega
  have hiff := rectangle_eq_ok (s := sums pixels w x₀ x₁ y₀ y₁) fun channel => by
    rw [get_sums]
    exact hreads channel
  refine ⟨hreads, hiff, fun hearlier hlast => ?_⟩
  by_cases hw : w ≠ 0
  · rw [hrewritten]
    exact rectangle_rewritten hw hlast hx hxw hy hyh
  have htwice : ∀ call ∈ history ++ [.build pixels w h], call.FitsTwice := by
    intro call hcall
    rcases List.mem_append.1 hcall with hcall | hcall
    · exact hearlier (not_not.1 hw) call hcall
    · rwa [List.mem_singleton.1 hcall]
  refine hiff.2 fun channel => ?_
  have hhalf : ∀ p v u, Call.build p v u ∈ history ++ [.build pixels w h] →
      255 * (v * u) ≤ 2 ^ 63 - 1 := by
    intro p v u hmem
    have : 2 * (255 * (v * u)) < 2 ^ 64 := htwice _ hmem
    omega
  -- the same run with a bound of half the range
  obtain ⟨a', ha', hsmall⟩ := afterAll_isBounded hfits hhalf
  obtain rfl : a = a' := Except.ok.inj (ha.symm.trans ha')
  have h₁ := hsmall channel (y₁ * a.stride + x₁)
  have h₀ := hsmall channel (y₀ * a.stride + x₀)
  unfold entry
  omega

/-- A frame of one column and two rows after a larger one that was released and a smaller one that
was not. -/
theorem rectangle_afterAll_small :
    ∃ a, empty.afterAll [.build #[0xFF010203, 0x80FFFFFF, 0, 7] 2 2, .release,
        .build #[9, 8, 7] 3 1, .build #[0xFF0A141E, 0x00010203, 0xFFFFFFFF] 1 2] = .ok a ∧
      a.rectangle 0 1 0 2 = .ok ⟨11, 22, 33⟩ := by
  obtain ⟨a, ha, hrect⟩ := rectangle_afterAll
    [.build #[0xFF010203, 0x80FFFFFF, 0, 7] 2 2, .release, .build #[9, 8, 7] 3 1]
    #[0xFF0A141E, 0x00010203, 0xFFFFFFFF] 1 2 (by simp [Call.Fits])
  have hsum := (hrect 0 1 0 2 (by decide) (by decide) (by decide) (by decide)).2.2
    (fun h => absurd h (by decide)) (by simp [Call.FitsTwice])
  exact ⟨a, ha, hsum.trans rfl⟩

/-! ### Where the first addition overflows -/

/-- In a white frame the last pixel is not read off once twice the sum of the frame leaves the
64-bit range. -/
theorem rectangle_rewritten_white (a : SummedArea) {w h : Nat} (hw : w ≠ 0)
    (hfit : 255 * (w * h) < 2 ^ 64) (hbig : 2 ^ 64 ≤ 255 * (w * h) + 255 * ((w - 1) * (h - 1))) :
    (a.rewritten (Array.replicate (w * h) 0xFFFFFFFF) w h).rectangle (w - 1) w (h - 1) h =
      .error .overflow := by
  have hwhite : ∀ i < w * h, Region.levelAt (Array.replicate (w * h) 0xFFFFFFFF) .red i = 255 :=
    fun i hi => levelAt_replicate _ _ hi
  have hcorner : ∀ x ≤ w, ∀ y ≤ h,
      entry (fill (Region.levelAt (Array.replicate (w * h) 0xFFFFFFFF) .red) w h
        (a.tables.get .red))
        (w + 1) x y = 255 * (x * y) := by
    intro x hx y hy
    rw [entry, fill_sumsTo _ hw h _ y hy x hx]
    exact corner_const hwhite hx hy
  have hreads := fill_reads (Region.levelAt (Array.replicate (w * h) 0xFFFFFFFF) .red)
    (t := a.tables.get .red) (Nat.sub_le w 1) (Nat.le_refl w) (Nat.sub_le h 1) (Nat.le_refl h)
    fun x hx y hy => by
      have := Nat.mul_le_mul hx hy
      rw [hcorner x hx y hy]
      omega
  have hred := hreads.rectangle
  rw [hcorner w (Nat.le_refl w) h (Nat.le_refl h),
    hcorner (w - 1) (Nat.sub_le w 1) (h - 1) (Nat.sub_le h 1), if_neg (Nat.not_lt.2 hbig)] at hred
  rw [SummedArea.rectangle, Channels.tabulate, get_rewritten, rewritten, hred]
  rfl

/-- A white frame of pixels `w` by `h`. -/
def whiteBuild (w h : Nat) : Call := .build (Array.replicate (w * h) 0xFFFFFFFF) w h

theorem whiteBuild_overflows {w h : Nat} (hw : w ≠ 0) (hfit : w * h < 2 ^ 56)
    (hbig : 2 ^ 64 ≤ 255 * (w * h) + 255 * ((w - 1) * (h - 1))) :
    (whiteBuild w h).Fits ∧ ∃ a, empty.afterAll [whiteBuild w h] = .ok a ∧
      a.rectangle (w - 1) w (h - 1) h = .error .overflow := by
  have hp : w * h ≤ (Array.replicate (w * h) (0xFFFFFFFF : Pixel)).size :=
    Nat.le_of_eq Array.size_replicate.symm
  refine ⟨⟨hfit, hp⟩, _, ?_, rectangle_rewritten_white empty hw (by omega) hbig⟩
  rw [afterAll, List.foldlM_cons, whiteBuild, after, build_of_le hp]
  rfl

/-- A bound of `2 ^ 56` pixels keeps the sums, but not the first addition, within 64 bits: the last
pixel of a white frame of `2 ^ 28` by `2 ^ 28 - 1` pixels is not read off. -/
theorem rectangle_overflows :
    (whiteBuild (2 ^ 28) (2 ^ 28 - 1)).Fits ∧
      ∃ a, empty.afterAll [whiteBuild (2 ^ 28) (2 ^ 28 - 1)] = .ok a ∧
        a.rectangle (2 ^ 28 - 1) (2 ^ 28) (2 ^ 28 - 1 - 1) (2 ^ 28 - 1) = .error .overflow :=
  whiteBuild_overflows (by norm_num) (by norm_num) (by norm_num)

end SummedArea

end GlyphMosaic
