import GlyphMosaic.Proofs.Tiling.Maps

/-!
# Region maps that are built again

A map that is asked for the dimensions it has stays as it is.  For any other dimensions its arrays
are replaced in place, one after the other, the counts and the reciprocals cell by cell, and the
dimensions are remembered last.

* `RegionMap.run_rebuild` : the steps in place come to a map that is made at once, with the same
  faults.
* `RegionMap.IsMapOf` : a map holds what belongs to given dimensions and nothing else.
* `RegionMap.lastBuilt?` : the dimensions that a map has after a history
  (`RegionMap.exists_afterAll`).
* `RegionMap.keeps_or_rebuilds` : **a build tells whether the dimensions are new, and leaves the map
  that a new one would become**, whatever came before.
-/

namespace GlyphMosaic

/-- The output has an extent, and the source has fewer pixels than fit 32 bits; it may have none. -/
structure Dimensions.IsBuildable (d : Dimensions) : Prop where
  outputWidth_pos : 0 < d.outputWidth.toNat
  outputHeight_pos : 0 < d.outputHeight.toNat
  source_lt : d.sourceWidth.toNat * d.sourceHeight.toNat < 2 ^ 32

instance (d : Dimensions) : Decidable d.IsBuildable :=
  decidable_of_iff (0 < d.outputWidth.toNat ∧ 0 < d.outputHeight.toNat ∧
    d.sourceWidth.toNat * d.sourceHeight.toNat < 2 ^ 32)
    ⟨fun h => ⟨h.1, h.2.1, h.2.2⟩, fun h => ⟨h.outputWidth_pos, h.outputHeight_pos, h.source_lt⟩⟩

theorem reciprocal_eq (n : Nat) : reciprocal n = if n = 0 ∨ 65536 < n then 0 else 65536 / n := by
  unfold reciprocal fixedOne
  split
  · rename_i h
    rcases h with rfl | hlt
    · rfl
    · exact Nat.div_eq_of_lt hlt
  · rfl

namespace RegionMap

variable {m : RegionMap} {d : Dimensions}

/-! ### Steps in place -/

/-- The map with other counts, and their reciprocals. -/
def withCounts (m : RegionMap) (counts : Array Nat) : RegionMap :=
  { m with counts, reciprocals := counts.map reciprocal }

theorem run_pushCell (m : RegionMap) (row : Span) (counts : Array Nat) (column : Span) :
    (pushCell row column).run (m.withCounts counts) =
      (fun counts => ((), m.withCounts counts)) <$>
        (counts.push <$> fitting 32 (row.length * column.length)) := by
  unfold pushCell
  cases hcount : fitting 32 (row.length * column.length) with
  | error e => rfl
  | ok count =>
    -- the reciprocal that is pushed is that of the count that is
    rw [map_ok, map_ok, withCounts, withCounts, Array.map_push]
    rfl

theorem run_pushRow (m : RegionMap) (counts : Array Nat) (row : Span) :
    (pushRow row).run (m.withCounts counts) =
      (fun counts => ((), m.withCounts counts)) <$> appendCounts m.columns row counts :=
  run_forM_array (run_pushCell m row) m.columns counts

theorem run_pushRows (m : RegionMap) :
    (m.rows.forM pushRow).run { m with counts := #[], reciprocals := #[] } =
      (fun counts => ((), m.withCounts counts)) <$> countCells m.columns m.rows := by
  have h := run_forM_array (run_pushRow m) m.rows #[]
  rwa [withCounts, Array.map_empty] at h

/-- **A map that is built in place is the one that is built at once**, with the same answer. -/
theorem run_rebuild (m : RegionMap) (d : Dimensions) : (rebuild d).run m = m.build d := by
  unfold rebuild RegionMap.build
  by_cases hdims : m.dims = some d
  · rw [if_pos hdims, StateT.run_bind, StateT.run_get, pure_eq_ok, ok_bind, if_pos hdims]
    rfl
  · rw [if_neg hdims, StateT.run_bind, StateT.run_get, pure_eq_ok, ok_bind, if_neg hdims,
      ofDimensions_eq_map]
    simp only [axisSpansInWords_eq, StateT.run_bind, StateT.run_get,
      StateT.run_modify, pure_eq_ok, ok_bind]
    let spans : RegionMap := { m with
      columns := axisSpans d.sourceWidth.toNat d.outputWidth.toNat
      rows := axisSpans d.sourceHeight.toNat d.outputHeight.toNat }
    -- what the counts and the reciprocals were is gone before the first row
    change ((spans.rows.forM pushRow).run { spans with counts := #[], reciprocals := #[] } >>=
      fun p => Except.ok (true, { p.2 with dims := some d })) = _
    rw [run_pushRows]
    cases countCells spans.columns spans.rows <;> rfl

/-! ### What a map holds -/

/-- A map holds what belongs to given dimensions, and nothing else. -/
structure IsMapOf (m : RegionMap) (d : Dimensions) : Prop where
  /-- It remembers them. -/
  dims : m.dims = some d
  /-- Its columns are the pieces of the width of the source. -/
  columns : axisSpansInWords d.sourceWidth d.outputWidth = .ok m.columns
  /-- Its rows are the pieces of the height. -/
  rows : axisSpansInWords d.sourceHeight d.outputHeight = .ok m.rows
  /-- There is a count for each cell, and none besides. -/
  size_counts : m.counts.size = d.outputHeight.toNat * d.outputWidth.toNat
  /-- There are as many reciprocals. -/
  size_reciprocals : m.reciprocals.size = m.counts.size
  /-- The count of a cell is the product of the lengths of its row and its column. -/
  count : ∀ column < d.outputWidth.toNat, ∀ row < d.outputHeight.toNat, ∃ s t : Span,
    m.columns[column]? = some s ∧ m.rows[row]? = some t ∧
      m.counts[row * d.outputWidth.toNat + column]? = some (t.length * s.length)
  /-- Each reciprocal is that of the count at its position. -/
  inverse : ∀ i n : Nat, m.counts[i]? = some n →
    m.reciprocals[i]? = some (if n = 0 ∨ 65536 < n then 0 else 65536 / n)
  /-- A reciprocal is looked up at the position of its cell. -/
  lookup : ∀ column row, m.reciprocalAt column row =
    fetch m.reciprocals (row * d.outputWidth.toNat + column)

theorem isMapOf_exact (hw : 0 < d.outputWidth.toNat) (hh : 0 < d.outputHeight.toNat) :
    (exact d).IsMapOf d where
  dims := rfl
  columns := axisSpansInWords_eq _ _
  rows := axisSpansInWords_eq _ _
  size_counts := size_firstValues _ _
  size_reciprocals := Array.size_map
  count := by
    intro column hc row hr
    refine ⟨_, _, (getElem?_axisSpans hw).2 ⟨hc, rfl⟩, (getElem?_axisSpans hh).2 ⟨hr, rfl⟩, ?_⟩
    have hcount := getElem?_firstValues (fun i => (d.regionAt i).count) (d.position_lt hc hr)
    rw [Dimensions.regionAt_position row hc] at hcount
    exact hcount.trans (congrArg some (Nat.mul_comm _ _))
  inverse := by
    intro i n hn
    rw [← reciprocal_eq]
    exact Array.getElem?_map.trans (congrArg (Option.map reciprocal) hn)
  lookup := by
    intro column row
    rw [reciprocalAt, position]
    exact congrArg (fun n => fetch _ (row * n + column)) (size_axisSpans_of_pos hw)

/-! ### Histories -/

/-- A call in place. -/
def perform : Call → InPlace RegionMap Unit
  | .build d => do let _ ← rebuild d
  | .release => set empty

theorem run_perform (m : RegionMap) (call : Call) :
    (perform call).run m = (fun m => ((), m)) <$> m.after call := by
  cases call with
  | build d =>
    rw [perform, StateT.run_bind, run_rebuild, after]
    cases m.build d <;> rfl
  | release => rfl

/-- A history in place leads to the map that the history leads to. -/
theorem run_performAll (m : RegionMap) (history : List Call) :
    (forM history perform).run m = (fun m => ((), m)) <$> m.afterAll history :=
  run_forM run_perform history m

/-- A call that builds a map builds one with cells, of a source of fewer than `2 ^ 32` pixels. -/
def Call.IsBuildable : Call → Prop
  | .build d => d.IsBuildable
  | .release => True

instance (call : Call) : Decidable call.IsBuildable :=
  match call with
  | .build d => inferInstanceAs (Decidable d.IsBuildable)
  | .release => inferInstanceAs (Decidable True)

/-- The dimensions that a call leaves in a map. -/
def Call.dims? : Call → Option Dimensions
  | .build d => some d
  | .release => none

/-- The dimensions of the last build since the last release, if there is one. -/
def lastBuilt? (history : List Call) : Option Dimensions :=
  history.foldl (fun _ call => call.dims?) none

/-- What a current map becomes, and what it answers. -/
theorem IsCurrent.build_eq (hm : m.IsCurrent) (hd : d.IsBuildable) :
    m.build d = .ok (decide (m.dims ≠ some d), exact d) := by
  have hexact : ofDimensions d = .ok (exact d) :=
    ofDimensions_eq_exact hd.outputWidth_pos hd.outputHeight_pos fun _ _ _ _ =>
      Nat.lt_of_le_of_lt Region.count_ofCell_le hd.source_lt
  unfold RegionMap.build
  by_cases hdims : m.dims = some d
  · -- a current map that has the dimensions is the one that they would give
    have hkept : m = exact d := Except.ok.inj ((hm d hdims).symm.trans hexact)
    rw [if_pos hdims, decide_eq_false fun h => h hdims]
    exact congrArg (fun m => Except.ok (false, m)) hkept
  · rw [if_neg hdims, decide_eq_true hdims, hexact]
    rfl

theorem IsCurrent.exists_after (hm : m.IsCurrent) {call : Call} (hcall : call.IsBuildable) :
    ∃ m', m.after call = .ok m' ∧ m'.IsCurrent ∧ m'.dims = call.dims? := by
  cases call with
  | build d =>
    have hbuild := hm.build_eq hcall
    exact ⟨exact d, by rw [RegionMap.after, hbuild]; rfl, hm.of_build hbuild, rfl⟩
  | release => exact ⟨empty, rfl, isCurrent_empty, rfl⟩

theorem IsCurrent.exists_afterAll (hm : m.IsCurrent) {history : List Call}
    (hhistory : ∀ call ∈ history, call.IsBuildable) :
    ∃ m', m.afterAll history = .ok m' ∧ m'.IsCurrent ∧
      m'.dims = history.foldl (fun _ call => call.dims?) m.dims := by
  induction history generalizing m with
  | nil => exact ⟨m, rfl, hm, rfl⟩
  | cons call history ih =>
    obtain ⟨m₁, hcall, hm₁, hdims⟩ := hm.exists_after (hhistory call List.mem_cons_self)
    obtain ⟨m', hrest, hm', hdims'⟩ :=
      ih hm₁ fun call' h => hhistory call' (List.mem_cons_of_mem _ h)
    refine ⟨m', ?_, hm', ?_⟩
    · rw [RegionMap.afterAll, List.foldlM_cons, hcall, ok_bind]
      exact hrest
    · rw [hdims', hdims]
      rfl

/-- **A build tells whether the dimensions are new, and leaves the map that a new one would
become.**  After any history of builds and releases in place, none of which faults, a build says
that the map was built anew exactly if its dimensions are not those of the last build since the last
release.  Either way the map then has the spans, the counts and the reciprocals of its dimensions, a
count and a reciprocal for each cell at the position of the cell and none besides, just as if no map
had been there before. -/
theorem keeps_or_rebuilds {history : List Call} (hhistory : ∀ call ∈ history, call.IsBuildable)
    (hd : d.IsBuildable) : ∃ m rebuilt m',
      (forM history perform).run empty = .ok ((), m) ∧ empty.afterAll history = .ok m ∧
      (rebuild d).run m = .ok (rebuilt, m') ∧ m.build d = .ok (rebuilt, m') ∧
      (rebuilt = true ↔ lastBuilt? history ≠ some d) ∧
      m'.IsMapOf d ∧ (rebuild d).run empty = .ok (true, m') := by
  obtain ⟨m, hafter, hm, hdims⟩ := isCurrent_empty.exists_afterAll hhistory
  have hbuild := hm.build_eq hd
  have hnew := isCurrent_empty.build_eq hd
  refine ⟨m, _, exact d, ?_, hafter, (run_rebuild m d).trans hbuild, hbuild, ?_,
    isMapOf_exact hd.outputWidth_pos hd.outputHeight_pos, (run_rebuild _ d).trans hnew⟩
  · rw [run_performAll, hafter, map_ok]
  · rw [decide_eq_true_iff, hdims]
    rfl

/-- After a map with more cells and a release, three by two cells are kept when they are asked for
again, and give way to one cell over more than 65536 pixels. -/
theorem keeps_or_rebuilds_smaller : ∃ m m₁ m₂,
    (forM [.build ⟨320, 200, 40, 25⟩, .release, .build ⟨7, 5, 3, 2⟩] perform).run empty =
      .ok ((), m) ∧
    (rebuild ⟨7, 5, 3, 2⟩).run m = .ok (false, m₁) ∧ m₁.counts.size = 6 ∧
    (rebuild ⟨512, 512, 1, 1⟩).run m = .ok (true, m₂) ∧ m₂.counts.size = 1 ∧
    m₂.counts[0]? = some 262144 ∧ m₂.reciprocals[0]? = some 0 := by
  have hhistory : ∀ call ∈ [Call.build ⟨320, 200, 40, 25⟩, .release, .build ⟨7, 5, 3, 2⟩],
      call.IsBuildable := by decide
  obtain ⟨m, rebuilt₁, m₁, hm, hafter, hkept, -, hanswer₁, hmap₁, -⟩ :=
    keeps_or_rebuilds hhistory (d := ⟨7, 5, 3, 2⟩) (by decide)
  obtain ⟨m', rebuilt₂, m₂, -, hafter', hnew, -, hanswer₂, hmap₂, -⟩ :=
    keeps_or_rebuilds hhistory (d := ⟨512, 512, 1, 1⟩) (by decide)
  obtain rfl : m = m' := Except.ok.inj (hafter.symm.trans hafter')
  obtain rfl : rebuilt₁ = false := Bool.eq_false_iff.2 fun h => hanswer₁.1 h rfl
  obtain rfl : rebuilt₂ = true := hanswer₂.2 (by decide)
  obtain ⟨s, t, hs, ht, hcount⟩ := hmap₂.count 0 (by decide) 0 (by decide)
  rw [← Except.ok.inj ((axisSpansInWords_eq _ _).symm.trans hmap₂.columns)] at hs
  rw [← Except.ok.inj ((axisSpansInWords_eq _ _).symm.trans hmap₂.rows)] at ht
  obtain ⟨-, rfl⟩ := (getElem?_axisSpans (by decide)).1 hs
  obtain ⟨-, rfl⟩ := (getElem?_axisSpans (by decide)).1 ht
  exact ⟨m, m₁, m₂, hm, hkept, hmap₁.size_counts, hnew, hmap₂.size_counts,
    hcount, hmap₂.inverse 0 _ hcount⟩

end RegionMap

end GlyphMosaic
