import GlyphMosaic.Color

/-!
# Summed-area tables

For each channel a table holds, at row `y` and column `x`, the sum of the channel's levels over all
pixels above and to the left.  The sum over any rectangle is then read off four entries.

The tables are reused from frame to frame.  They never shrink: a smaller frame is laid out over
their first entries with its own stride, and only the row and the column of zeros at its edges are
written besides the sums.
-/

namespace GlyphMosaic

/-- One value for each channel. -/
structure Channels (α : Type) where
  /-- For red. -/
  r : α
  /-- For green. -/
  g : α
  /-- For blue. -/
  b : α

namespace Channels

variable {α β : Type}

/-- The value of a channel. -/
def get (c : Channels α) : Channel → α
  | .red => c.r
  | .green => c.g
  | .blue => c.b

/-- Applies a function of the channel and its value. -/
def map (f : Channel → α → β) (c : Channels α) : Channels β :=
  ⟨f .red c.r, f .green c.g, f .blue c.b⟩

/-- Computes a value for each channel, the first fault winning. -/
def tabulate (f : Channel → Except Fault α) : Except Fault (Channels α) := do
  let r ← f .red
  let g ← f .green
  let b ← f .blue
  return ⟨r, g, b⟩

@[simp] theorem get_map (f : Channel → α → β) (c : Channels α) (channel : Channel) :
    (c.map f).get channel = f channel (c.get channel) := by
  cases channel <;> rfl

theorem tabulate_eq_ok {f : Channel → Except Fault α} {c : Channels α} :
    tabulate f = .ok c ↔ ∀ channel, f channel = .ok (c.get channel) := by
  constructor
  · intro h channel
    unfold tabulate at h
    cases hr : f .red with
    | error e => rw [hr] at h; cases h
    | ok r =>
      cases hg : f .green with
      | error e => rw [hr, hg] at h; cases h
      | ok g =>
        cases hb : f .blue with
        | error e => rw [hr, hg, hb] at h; cases h
        | ok b =>
          rw [hr, hg, hb] at h
          cases h
          cases channel <;> assumption
  · intro h
    rw [tabulate, h .red, h .green, h .blue]
    rfl

end Channels

namespace SumTable

/-- Extends a table with zeros to at least `needed` entries. -/
def grow (needed : Nat) (t : Array Nat) : Array Nat :=
  t ++ Array.replicate (needed - t.size) 0

/-- Writes `n` zeros from entry `i` on. -/
def zero : (n i : Nat) → Array Nat → Array Nat
  | 0, _, t => t
  | n + 1, i, t => zero n (i + 1) (t.setIfInBounds i 0)

/-- Writes the entries behind column `x` of the row that starts at `here`, below the row that starts
at `above`; `sum` is the sum of the levels left of `x`. -/
def fillRow (level : Nat → Nat) (above here : Nat) : (n x sum : Nat) → Array Nat → Array Nat
  | 0, _, _, t => t
  | n + 1, x, sum, t =>
    let sum := sum + level x
    fillRow level above here n (x + 1) sum
      (t.setIfInBounds (here + x + 1) (sum + t.getD (above + x + 1) 0))

/-- Writes `n` rows from row `y` on for pixels of width `w`. -/
def fillRows (level : Nat → Nat) (w : Nat) : (n y : Nat) → Array Nat → Array Nat
  | 0, _, t => t
  | n + 1, y, t =>
    let above := y * (w + 1)
    let here := (y + 1) * (w + 1)
    fillRows level w n (y + 1)
      (fillRow (fun x => level (y * w + x)) above here w 0 0 (t.setIfInBounds here 0))

/-- The table of `w * h` levels, written over an old table; without columns only the zeros at the
top are written. -/
def fill (level : Nat → Nat) (w h : Nat) (t : Array Nat) : Array Nat :=
  let t := zero (w + 1) 0 (grow ((w + 1) * (h + 1)) t)
  if w = 0 then t else fillRows level w h 0 t

/-- The sum over the columns from `x₀` up to `x₁` and the rows from `y₀` up to `y₁`. -/
def rectangle (t : Array Nat) (stride x₀ x₁ y₀ y₁ : Nat) : Except Fault Nat := do
  let lowerRight ← fetch t (y₁ * stride + x₁)
  let upperLeft ← fetch t (y₀ * stride + x₀)
  let both ← fitting 64 (lowerRight + upperLeft)
  let lowerLeft ← fetch t (y₁ * stride + x₀)
  let lower ← difference both lowerLeft
  let upperRight ← fetch t (y₀ * stride + x₁)
  difference lower upperRight

/-! ### Sizes -/

@[simp] theorem size_zero (n i : Nat) (t : Array Nat) : (zero n i t).size = t.size := by
  induction n generalizing i t with
  | zero => rfl
  | succ n ih => rw [zero, ih, Array.size_setIfInBounds]

@[simp] theorem size_fillRow (level : Nat → Nat) (above here n x sum : Nat) (t : Array Nat) :
    (fillRow level above here n x sum t).size = t.size := by
  induction n generalizing x sum t with
  | zero => rfl
  | succ n ih => rw [fillRow, ih, Array.size_setIfInBounds]

@[simp] theorem size_fillRows (level : Nat → Nat) (w n y : Nat) (t : Array Nat) :
    (fillRows level w n y t).size = t.size := by
  induction n generalizing y t with
  | zero => rfl
  | succ n ih => rw [fillRows, ih, size_fillRow, Array.size_setIfInBounds]

/-- A table grows to the entries it needs and never shrinks. -/
theorem size_fill (level : Nat → Nat) (w h : Nat) (t : Array Nat) :
    (fill level w h t).size = max t.size ((w + 1) * (h + 1)) := by
  have hg : (grow ((w + 1) * (h + 1)) t).size = max t.size ((w + 1) * (h + 1)) := by
    simp only [grow, Array.size_append, Array.size_replicate]; omega
  unfold fill
  split <;> simp [hg]

end SumTable

/-- The tables of the three channels. -/
structure SummedArea where
  /-- The tables, of one size. -/
  tables : Channels (Array Nat)
  /-- Entries per row of the current frame. -/
  stride : Nat
  /-- Rows of the current frame. -/
  rows : Nat

namespace SummedArea

/-- Tables that were never built. -/
def empty : SummedArea := ⟨⟨#[], #[], #[]⟩, 0, 0⟩

/-- The tables of the first `w * h` pixels, written over old tables. -/
def build (a : SummedArea) (pixels : Array Pixel) (w h : Nat) : Except Fault SummedArea :=
  if pixels.size < w * h then .error .shortSource
  else .ok {
    tables := a.tables.map fun channel t =>
      SumTable.fill (fun i => ((pixels.getD i 0).level channel).toNat) w h t
    stride := w + 1
    rows := h + 1 }

variable (a : SummedArea)

/-- The sums over a rectangle of columns and rows. -/
def rectangle (x₀ x₁ y₀ y₁ : Nat) : Except Fault (Channels Nat) :=
  Channels.tabulate fun channel => SumTable.rectangle (a.tables.get channel) a.stride x₀ x₁ y₀ y₁

/-- The number of entries of each table. -/
def capacity : Nat := a.tables.r.size

end SummedArea

end GlyphMosaic
