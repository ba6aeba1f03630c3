import GlyphMosaic.Converter.Call
import GlyphMosaic.Proofs.Source.Lending

/-!
# Frames pulled from a source

* `FrameSource.pull` : the first frames of a source, as many as are asked for or as there are.
* `FrameSource.IsModerate` : a source never faults, and all its frames have fewer pixels than fit 32
  bits.
* `FrameSource.Shows` : a source shows one frame after the other, without end.
* `Source.pull_sequence`, `Source.shows_still`, `Source.shows_pattern` : what the three kinds of
  sources yield; the pool of a pattern yields one picture after the other, whatever handles are out.
-/

namespace GlyphMosaic

/-- The frame has fewer pixels than fit 32 bits. -/
def Frame.IsModerate (f : Frame) : Prop := Converter.IsModerate f.pixels f.width f.height

namespace FrameSource

variable {σ : Type} [FrameSource σ]

/-- The first `n` frames of a source, or all of them where there are fewer, and the source behind
them. -/
def pull : (n : Nat) → σ → Except Fault (List Frame × σ)
  | 0, s => .ok ([], s)
  | n + 1, s => do
    match ← next s with
    | none => return ([], s)
    | some (f, s) =>
      let (frames, s) ← pull n s
      return (f :: frames, s)

/-- However many frames are pulled from the source, there is no fault and they are moderate. -/
def IsModerate (s : σ) : Prop :=
  ∀ n, ∃ frames s', pull n s = .ok (frames, s') ∧ ∀ f ∈ frames, f.IsModerate

/-- The source shows the frames of a sequence, one after the other. -/
def Shows (s : σ) (u : Nat → Frame) : Prop :=
  ∀ n, ∃ s', pull n s = .ok ((List.range n).map u, s')

variable {s s₁ s' : σ} {f : Frame} {frames : List Frame} {n : Nat} {u : Nat → Frame}

theorem pull_of_none (h : next s = .ok none) (n : Nat) : pull n s = .ok ([], s) := by
  cases n with
  | zero => rfl
  | succ n => rw [pull, h]; rfl

theorem pull_eq_ok_of_some (h : next s = .ok (some (f, s₁))) : pull (n + 1) s = .ok (frames, s') ↔
    ∃ rest, pull n s₁ = .ok (rest, s') ∧ frames = f :: rest := by
  rw [pull, h, ok_bind]
  constructor
  · intro hpull
    obtain ⟨rest, hrest, hpull⟩ := bind_eq_ok.1 hpull
    cases hpull
    exact ⟨_, hrest, rfl⟩
  · rintro ⟨rest, hrest, rfl⟩
    exact bind_eq_ok.2 ⟨_, hrest, rfl⟩

theorem next_of_pull (h : pull (n + 1) s = .ok (frames, s')) : next s = .ok none ∨
    ∃ f s₁ rest, next s = .ok (some (f, s₁)) ∧ pull n s₁ = .ok (rest, s') ∧ frames = f :: rest := by
  obtain ⟨answer, hnext, -⟩ := bind_eq_ok.1 h
  cases answer with
  | none => exact .inl hnext
  | some pulled =>
    obtain ⟨rest, hrest, hframes⟩ := (pull_eq_ok_of_some hnext).1 h
    exact .inr ⟨_, _, rest, hnext, hrest, hframes⟩

theorem length_le_of_pull (h : pull n s = .ok (frames, s')) : frames.length ≤ n := by
  induction n generalizing s frames with
  | zero => cases h; exact Nat.le_refl 0
  | succ n ih =>
    obtain hnone | ⟨f, s₁, rest, -, hrest, rfl⟩ := next_of_pull h
    · rw [pull_of_none hnone] at h
      cases h
      exact Nat.zero_le _
    · exact Nat.succ_le_succ (ih hrest)

/-! ### Moderate sources -/

theorem IsModerate.next (hs : IsModerate s) : FrameSource.next s = .ok none ∨
    ∃ f s', FrameSource.next s = .ok (some (f, s')) ∧ f.IsModerate ∧ IsModerate s' := by
  obtain ⟨frames, s₁, h₁, hframes⟩ := hs 1
  obtain hnone | ⟨f, s', rest, hsome, -, rfl⟩ := next_of_pull h₁
  · exact .inl hnone
  · refine .inr ⟨f, s', hsome, hframes f List.mem_cons_self, fun n => ?_⟩
    obtain ⟨frames', s'', hpull, hframes'⟩ := hs (n + 1)
    obtain ⟨rest', hrest, rfl⟩ := (pull_eq_ok_of_some hsome).1 hpull
    exact ⟨rest', s'', hrest, fun g hg => hframes' g (List.mem_cons_of_mem f hg)⟩

theorem IsModerate.of_mem_pull (hs : IsModerate s) (h : pull n s = .ok (frames, s')) :
    ∀ f ∈ frames, f.IsModerate := by
  obtain ⟨frames', s'', h', hframes⟩ := hs n
  rw [h] at h'
  cases h'
  exact hframes

theorem IsModerate.of_pull (hs : IsModerate s) (h : pull n s = .ok (frames, s')) :
    IsModerate s' := by
  induction n generalizing s frames with
  | zero => cases h; exact hs
  | succ n ih =>
    obtain hnone | ⟨f, s₁, hsome, -, hs₁⟩ := hs.next
    · rw [pull_of_none hnone] at h
      cases h
      exact hs
    · obtain ⟨rest, hrest, -⟩ := (pull_eq_ok_of_some hsome).1 h
      exact ih hs₁ hrest

/-! ### Sources without end -/

theorem map_range_succ (u : Nat → Frame) (n : Nat) :
    (List.range (n + 1)).map u = u 0 :: (List.range n).map fun k => u (k + 1) := by
  rw [List.range_succ_eq_map, List.map_cons, List.map_map]
  rfl

/-- A source shows a sequence if it yields frame `k` of it whenever it is as it may be after `k`
frames. -/
theorem shows_of_step {I : Nat → σ → Prop}
    (hstep : ∀ k s, I k s → ∃ s', next s = .ok (some (u k, s')) ∧ I (k + 1) s') (hs : I 0 s) :
    Shows s u := by
  have hfrom : ∀ n k s, I k s →
      ∃ s', pull n s = .ok ((List.range n).map fun i => u (k + i), s') := by
    intro n
    induction n with
    | zero => exact fun k s _ => ⟨s, rfl⟩
    | succ n ih =>
      intro k s hs
      obtain ⟨s₁, hnext, hs₁⟩ := hstep k s hs
      obtain ⟨s', hrest⟩ := ih (k + 1) s₁ hs₁
      refine ⟨s', (pull_eq_ok_of_some hnext).2 ⟨_, hrest, ?_⟩⟩
      rw [map_range_succ]
      simp only [Nat.add_zero, Nat.add_right_comm, Nat.add_assoc]
  intro n
  simpa using hfrom n 0 s hs

theorem Shows.next (hs : Shows s u) : ∃ s', FrameSource.next s = .ok (some (u 0, s')) ∧
    Shows s' fun k => u (k + 1) := by
  obtain ⟨s₁, h₁⟩ := hs 1
  obtain hnone | ⟨f, s', rest, hsome, -, hcons⟩ := next_of_pull h₁
  · rw [pull_of_none hnone] at h₁
    cases h₁
  · obtain rfl : f = u 0 := (List.cons.inj hcons).1.symm
    refine ⟨s', hsome, fun n => ?_⟩
    obtain ⟨s'', hpull⟩ := hs (n + 1)
    obtain ⟨rest', hrest, hframes⟩ := (pull_eq_ok_of_some hsome).1 hpull
    rw [map_range_succ, List.cons.injEq] at hframes
    exact ⟨s'', hframes.2 ▸ hrest⟩

theorem Shows.of_pull (hs : Shows s u) (h : pull n s = .ok (frames, s')) :
    Shows s' fun k => u (n + k) := by
  induction n generalizing s u frames with
  | zero => cases h; simpa using hs
  | succ n ih =>
    obtain ⟨s₁, hnext, hs₁⟩ := hs.next
    obtain ⟨rest, hrest, -⟩ := (pull_eq_ok_of_some hnext).1 h
    simpa only [Nat.add_right_comm] using ih hs₁ hrest

theorem Shows.isModerate (hs : Shows s u) (hu : ∀ k, (u k).IsModerate) : IsModerate s := by
  intro n
  obtain ⟨s', hpull⟩ := hs n
  exact ⟨_, s', hpull, by simpa using fun k _ => hu k⟩

end FrameSource

/-! ### The kinds of sources -/

namespace Source

open FrameSource (pull)

theorem pull_sequence (frames : List Frame) (size : UInt32 × UInt32) (n : Nat) :
    pull n (.sequence frames size : Source) =
      .ok (frames.take n, .sequence (frames.drop n) size) := by
  induction n generalizing frames with
  | zero => rfl
  | succ n ih =>
    cases frames with
    | nil => exact FrameSource.pull_of_none rfl _
    | cons f frames =>
      have hnext : FrameSource.next (Source.sequence (f :: frames) size) =
          .ok (some (f, .sequence frames size)) := rfl
      exact (FrameSource.pull_eq_ok_of_some hnext).2 ⟨_, ih frames, rfl⟩

theorem isModerate_sequence {frames : List Frame} (h : ∀ f ∈ frames, f.IsModerate)
    (size : UInt32 × UInt32) : FrameSource.IsModerate (Source.sequence frames size) :=
  fun n => ⟨_, _, pull_sequence frames size n, fun f hf => h f (List.mem_of_mem_take hf)⟩

theorem shows_still (f : Frame) : FrameSource.Shows (Source.still f) fun _ => f :=
  FrameSource.shows_of_step (I := fun _ s => s = .still f)
    (by rintro _ s rfl; exact ⟨.still f, rfl, rfl⟩) rfl

/-- The pool of a pattern shows one picture after the other, from the number of frames drawn on. -/
theorem shows_pattern {pool : FramePool} (hpool : pool.IsSound)
    (hcompletes : pool.pattern.Completes pool.width pool.height) {u : Nat → Frame}
    (hu : ∀ k, pool.pattern.picture pool.width pool.height (pool.drawn + .ofNat k) = .ok (u k)) :
    FrameSource.Shows (Source.pattern pool) u := by
  -- the handle is given back at once, so that the pool stays as it is but for its frames and its
  -- count
  refine FrameSource.shows_of_step (I := fun k s => ∃ p : FramePool, s = .pattern p ∧ p.IsSound ∧
    p.pattern = pool.pattern ∧ p.width = pool.width ∧ p.height = pool.height ∧
    p.drawn = pool.drawn + .ofNat k) ?_ ⟨pool, rfl, hpool, rfl, rfl, rfl, by simp⟩
  rintro k s ⟨p, rfl, hp, hpattern, hwidth, hheight, hdrawn⟩
  have hcompletes' : p.pattern.Completes p.width p.height := by rwa [hpattern, hwidth, hheight]
  obtain ⟨i, f, frames, slots, hnext, hpicture, -, -, -, hframe, -, hsound⟩ := hp.next hcompletes'
  rw [hpattern, hwidth, hheight, hdrawn, hu, Except.ok.injEq] at hpicture
  subst hpicture
  have hreleased : (i :: p.held).erase i = p.held := List.erase_cons_head i p.held
  have hyield : FrameSource.next (Source.pattern p) = .ok (some (u k, .pattern
      { p with frames, slots, held := p.held, drawn := p.drawn + 1 })) := by
    have hfetch : fetch frames i = .ok (u k) := fetch_eq_ok.2 hframe
    change Source.next (.pattern p) = _
    simp only [Source.next, FramePool.nextFrame, hnext, ok_bind, hfetch, pure_eq_ok,
      FramePool.release, hreleased]
  refine ⟨_, hyield, _, rfl, ?_, hpattern, hwidth, hheight, ?_⟩
  · exact hsound.withHeld fun j hj => hsound.held_lt j (List.mem_cons_of_mem i hj)
  · change p.drawn + 1 = _
    rw [hdrawn, UInt64.ofNat_add, ← UInt64.add_assoc]
    rfl

end Source

end GlyphMosaic
