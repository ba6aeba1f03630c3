import GlyphMosaic.Fault

/-!
# Arrays filled row by row

Most arrays of the library are filled by pushing the next value, and most of them row by row, the
value at row `y` and column `x` of rows of `n` values being pushed at position `y * n + x`.
`firstValues g n` is such an array as a function of the position.

* `rowMajor_lt`, `rowMajor_div` : a position lies behind those of the rows before its own and in
  front of those of the next.
* `foldlM_push` : pushing one answer for each element, none of them a fault, gives the next values.
* `foldlM_push_rows` : the same for each element of each row.
* `flatMap_rows` : listing the rows one after the other gives the same array.
-/

namespace GlyphMosaic

variable {α β γ : Type}

/-! ### Positions -/

section Positions

variable {m n x y : Nat}

theorem rowMajor_lt (hx : x < n) (hy : y < m) : y * n + x < m * n :=
  calc y * n + x < y * n + n := Nat.add_lt_add_left hx _
    _ = (y + 1) * n := (Nat.succ_mul y n).symm
    _ ≤ m * n := Nat.mul_le_mul_right n hy

theorem rowMajor_div (y : Nat) (hx : x < n) : (y * n + x) / n = y := by
  rw [Nat.mul_comm, Nat.mul_add_div (by omega), Nat.div_eq_of_lt hx, Nat.add_zero]

end Positions

/-! ### Values -/

/-- The values of a function at the positions below `n`. -/
def firstValues (g : Nat → γ) (n : Nat) : Array γ := Array.ofFn fun i : Fin n => g i

section Values

variable (g : Nat → γ)

@[simp] theorem size_firstValues (n : Nat) : (firstValues g n).size = n := by simp [firstValues]

@[simp] theorem firstValues_zero : firstValues g 0 = #[] := by simp [firstValues]

theorem firstValues_succ (n : Nat) : firstValues g (n + 1) = (firstValues g n).push (g n) := by
  simp [firstValues, Array.ofFn_succ]

theorem getElem?_firstValues {n i : Nat} (h : i < n) : (firstValues g n)[i]? = some (g i) := by
  simp [firstValues, h]

theorem firstValues_add (m n : Nat) :
    firstValues g (m + n) = firstValues g m ++ firstValues (fun i => g (m + i)) n := by
  induction n with
  | zero => simp
  | succ n ih => rw [← Nat.add_assoc, firstValues_succ, firstValues_succ, ih, Array.append_push]

theorem toList_firstValues (n : Nat) : (firstValues g n).toList = (List.range n).map g := by
  induction n with
  | zero => rfl
  | succ n ih => rw [firstValues_succ, Array.toList_push, ih, List.range_succ, List.map_append]; rfl

theorem map_firstValues {δ : Type} (f : γ → δ) (n : Nat) :
    (firstValues g n).map f = firstValues (fun i => f (g i)) n := by
  simp [firstValues, Array.map_ofFn, Function.comp_def]

variable {g} in
theorem firstValues_congr {g' : Nat → γ} {n : Nat} (h : ∀ i < n, g i = g' i) :
    firstValues g n = firstValues g' n := by
  unfold firstValues
  congr 1
  funext i
  exact h i i.isLt

end Values

/-! ### Pushing -/

/-- One value is pushed for each element; what it is may depend on how many there are before it. -/
theorem foldlM_push (f : α → Nat → Except Fault γ) (g : Nat → γ) (xs : Array α) (k : Nat)
    (h : ∀ i (hi : i < xs.size), f xs[i] (k + i) = .ok (g (k + i))) :
    xs.foldlM (fun acc x => acc.push <$> f x acc.size) (firstValues g k) =
      .ok (firstValues g (k + xs.size)) := by
  obtain ⟨xs⟩ := xs
  rw [← Array.foldlM_toList]
  simp only [List.size_toArray, List.getElem_toArray] at h ⊢
  induction xs generalizing k with
  | nil => rfl
  | cons x xs ih =>
    have hx : f x k = .ok (g k) := by simpa using h 0 (by simp)
    have hxs : ∀ i (hi : i < xs.length), f xs[i] (k + 1 + i) = .ok (g (k + 1 + i)) := by
      intro i hi
      have := h (i + 1) (by simpa using hi)
      rwa [List.getElem_cons_succ, show k + (i + 1) = k + 1 + i by omega] at this
    rw [List.foldlM_cons, size_firstValues, hx, map_ok, ok_bind, ← firstValues_succ, ih (k + 1) hxs,
      List.length_cons, show k + 1 + xs.length = k + (xs.length + 1) by omega]

theorem foldlM_push_rows (f : α → Nat → β → Except Fault γ) (g : Nat → γ) (rows : Array α)
    (columns : Array β) (k : Nat)
    (h : ∀ y (hy : y < rows.size) x (hx : x < columns.size),
      f rows[y] (k + (y * columns.size + x)) columns[x] = .ok (g (k + (y * columns.size + x)))) :
    rows.foldlM (fun acc row => columns.foldlM
        (fun acc column => acc.push <$> f row acc.size column) acc) (firstValues g k) =
      .ok (firstValues g (k + rows.size * columns.size)) := by
  obtain ⟨rows⟩ := rows
  rw [← Array.foldlM_toList]
  simp only [List.size_toArray, List.getElem_toArray] at h ⊢
  induction rows generalizing k with
  | nil => simp
  | cons row rows ih =>
    have hrow := foldlM_push (fun column i => f row i column) g columns k fun x hx => by
      simpa using h 0 (by simp) x hx
    have hrows : ∀ y (hy : y < rows.length) x (hx : x < columns.size),
        f rows[y] (k + columns.size + (y * columns.size + x)) columns[x] =
          .ok (g (k + columns.size + (y * columns.size + x))) := by
      intro y hy x hx
      have := h (y + 1) (by simpa using hy) x hx
      rwa [List.getElem_cons_succ, Nat.succ_mul,
        show k + (y * columns.size + columns.size + x) =
          k + columns.size + (y * columns.size + x) by omega] at this
    rw [List.foldlM_cons, hrow, ok_bind, ih (k + columns.size) hrows, List.length_cons,
      Nat.succ_mul, show k + columns.size + rows.length * columns.size =
        k + (rows.length * columns.size + columns.size) by omega]

/-! ### Listing -/

theorem flatMap_rows (f : Nat → Nat → γ) (m n : Nat) :
    ((List.range m).flatMap fun y => (List.range n).map (f y)).toArray =
      firstValues (fun i => f (i / n) (i % n)) (m * n) := by
  induction m with
  | zero => simp
  | succ m ih =>
    have hrow : ((List.range n).map (f m)).toArray =
        firstValues (fun i => f ((m * n + i) / n) ((m * n + i) % n)) n := by
      apply Array.ext'
      rw [toList_firstValues]
      refine List.map_congr_left fun i hi => ?_
      rw [List.mem_range] at hi
      rw [rowMajor_div m hi, Nat.mul_add_mod_of_lt hi]
    rw [List.range_succ, List.flatMap_append, ← List.append_toArray, ih, Nat.succ_mul,
      firstValues_add, ← hrow]
    simp

end GlyphMosaic
