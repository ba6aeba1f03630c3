import GlyphMosaic.Proofs.Runs
import GlyphMosaic.Proofs.Source.Painting
import GlyphMosaic.Source.FrameSource
import GlyphMosaic.Source.Lending
import Mathlib.Data.List.GetD
import Mathlib.Data.List.Perm.Basic

/-!
# Pools and the frames on loan

A pool draws into a frame only while no handle on it is out.

* `FramePool.IsSound` : three slots with frames of their own, all frames full and of the size of the
  pool.
* `FramePool.IsSound.claim` : the frame that is claimed is not in use, and no other one changes.
* `FramePool.IsSound.next` : the next frame is the next picture, frames in use stay what they are.
* `Lending.IsSound`, `Lending.IsSound.after` : each handle shows the picture of its draw, whatever
  the consumer does next.
* `Lending.shows_every_draw` : **so it is after any moves of the consumer**.
-/

namespace GlyphMosaic

namespace FramePool

variable {p : FramePool}

/-- The pool has three slots, and its frames are full frames of its size. -/
structure IsSound (p : FramePool) : Prop where
  slots_length : p.slots.length = 3
  slots_nodup : p.slots.Nodup
  slots_lt : ∀ i ∈ p.slots, i < p.frames.size
  held_lt : ∀ i ∈ p.held, i < p.frames.size
  frames : ∀ f ∈ p.frames, f.width = p.width ∧ f.height = p.height ∧ f.IsFull

theorem isSound_start (pattern : Pattern) (width height : UInt32) :
    (start pattern width height).IsSound where
  slots_length := rfl
  slots_nodup := by simp [start]
  slots_lt := by simp [start]
  held_lt := by simp [start]
  frames := by
    intro f hf
    obtain rfl := (Array.mem_replicate.1 hf).2
    exact ⟨rfl, rfl, Frame.isFull_uniform width height _⟩

theorem IsSound.withHeld (hp : p.IsSound) {held : List Nat}
    (hheld : ∀ i ∈ held, i < p.frames.size) : ({ p with held } : FramePool).IsSound :=
  ⟨hp.slots_length, hp.slots_nodup, hp.slots_lt, hheld, hp.frames⟩

theorem freeSlot?_eq_some {slot : Nat} (h : p.freeSlot? = some slot) :
    p.slots.getD slot 0 ∈ p.slots ∧ p.slots.getD slot 0 ∉ p.held := by
  obtain ⟨hlt, hfree, -⟩ := List.findIdx?_eq_some_iff_getElem.1 h
  rw [List.getD_eq_getElem _ _ hlt]
  exact ⟨List.getElem_mem hlt, by simpa using hfree⟩

theorem IsSound.replaceFirst (hp : p.IsSound) {frame : Frame} (hwidth : frame.width = p.width)
    (hheight : frame.height = p.height) (hfull : frame.IsFull) :
    (p.replaceFirst frame).IsSound := by
  obtain ⟨hlength, hnodup, hslots, hheld, hframes⟩ := hp
  obtain ⟨a, b, c, habc⟩ := List.length_eq_three.1 hlength
  simp only [habc, List.mem_cons, List.not_mem_nil, or_false, forall_eq_or_imp, forall_eq] at hslots
  obtain ⟨-, hb, hc⟩ := hslots
  rw [habc] at hnodup
  have hset : (p.replaceFirst frame).slots = [p.frames.size, b, c] := by
    rw [FramePool.replaceFirst, habc, List.set_cons_zero]
  have hsize : (p.replaceFirst frame).frames.size = p.frames.size + 1 := Array.size_push _
  refine ⟨by rw [hset]; rfl, ?_, ?_, ?_, ?_⟩
  · -- the new frame has a number of its own
    rw [hset, List.nodup_cons]
    refine ⟨?_, (List.nodup_cons.1 hnodup).2⟩
    simp only [List.mem_cons, List.not_mem_nil, or_false, not_or]
    omega
  · intro i hi
    rw [hset] at hi
    simp only [List.mem_cons, List.not_mem_nil, or_false] at hi
    omega
  · intro i hi
    have := hheld i hi
    omega
  · intro f hf
    rcases Array.mem_push.1 hf with hf | rfl
    · exact hframes f hf
    · exact ⟨hwidth, hheight, hfull⟩

/-- The frame that is claimed is not in use, and those that were there are still the same. -/
theorem IsSound.claim (hp : p.IsSound) (hroom : p.width.toNat * p.height.toNat < 2 ^ 61) :
    ∃ i frames slots, p.claim = .ok (i, { p with frames, slots }) ∧ i ∉ p.held ∧ i < frames.size ∧
      (∀ j < p.frames.size, frames[j]? = p.frames[j]?) ∧
      ({ p with frames, slots } : FramePool).IsSound := by
  unfold FramePool.claim
  cases hfree : p.freeSlot? with
  | some slot =>
    obtain ⟨hmem, hheld⟩ := freeSlot?_eq_some hfree
    exact ⟨_, p.frames, p.slots, rfl, hheld, hp.slots_lt _ hmem, fun _ _ => rfl, hp⟩
  | none =>
    refine ⟨p.frames.size, p.frames.push (.uniform p.width p.height Frame.blackPixel),
      p.slots.set 0 p.frames.size, ?_, fun hi => Nat.lt_irrefl _ (hp.held_lt _ hi), by simp,
      fun j hj => ?_, hp.replaceFirst rfl rfl (Frame.isFull_uniform _ _ _)⟩
    · simp only [Frame.black, Frame.filled_of_lt hroom, ok_bind, pure_eq_ok]
      rfl
    · rw [Array.getElem?_push, if_neg (Nat.ne_of_lt hj)]

/-- **The next frame is the next picture**, drawn where no handle is out. -/
theorem IsSound.next (hp : p.IsSound) (hcompletes : p.pattern.Completes p.width p.height) :
    ∃ i f frames slots,
      p.next = .ok (i, { p with frames, slots, held := i :: p.held, drawn := p.drawn + 1 }) ∧
      p.pattern.picture p.width p.height p.drawn = .ok f ∧ f.width = p.width ∧ f.height = p.height ∧
      i ∉ p.held ∧ frames[i]? = some f ∧ (∀ j ∈ p.held, frames[j]? = p.frames[j]?) ∧
      ({ p with
        frames, slots, held := i :: p.held, drawn := p.drawn + 1 } : FramePool).IsSound := by
  obtain ⟨i, frames, slots, hclaim, hfree, hlt, hkept, hsound⟩ := hp.claim hcompletes.room
  obtain ⟨hwidth, hheight, hfull⟩ := hsound.frames frames[i] (Array.getElem_mem hlt)
  simp only at hwidth hheight
  obtain ⟨f, hpicture, hfwidth, hfheight, hffull⟩ := hcompletes.exists_picture p.drawn
  -- whatever the claimed frame showed, the picture is drawn over it
  have hrender : p.pattern.render p.drawn frames[i] = .ok f := by
    have hcompletes' : p.pattern.Completes frames[i].width frames[i].height := by
      rwa [hwidth, hheight]
    rw [hcompletes'.render_eq hfull, hwidth, hheight, hpicture]
  have hsize : (frames.setIfInBounds i f).size = frames.size := Array.size_setIfInBounds
  refine ⟨i, f, frames.setIfInBounds i f, slots, ?_, hpicture, hfwidth, hfheight, hfree, ?_,
    fun j hj => ?_, ⟨hsound.slots_length, hsound.slots_nodup, ?_, ?_, ?_⟩⟩
  · have hfetch : fetch frames i = .ok frames[i] := fetch_eq_ok.2 (Array.getElem?_eq_getElem hlt)
    simp only [FramePool.next, hclaim, ok_bind, hfetch, hrender, pure_eq_ok]
  · exact Array.getElem?_setIfInBounds_self_of_lt hlt
  · have hne : i ≠ j := fun h => hfree (h ▸ hj)
    rw [Array.getElem?_setIfInBounds_ne hne, hkept j (hp.held_lt j hj)]
  · intro j hj
    simp only [hsize]
    exact hsound.slots_lt j hj
  · intro j hj
    simp only [hsize]
    rcases List.mem_cons.1 hj with rfl | hj
    · exact hlt
    · exact hsound.held_lt j hj
  · intro g hg
    rcases Array.mem_or_eq_of_mem_setIfInBounds hg with hg | rfl
    · exact hsound.frames g hg
    · exact ⟨hfwidth, hfheight, hffull⟩

end FramePool

namespace Lending

variable {pattern : Pattern} {width height : UInt32} {l : Lending}

/-- The handle shows the picture of its draw. -/
def Shows (pattern : Pattern) (width height : UInt32) (pool : FramePool) (loan : Loan) : Prop :=
  ∃ f, pattern.picture width height (.ofNat loan.draw) = .ok f ∧
    f.width = width ∧ f.height = height ∧ pool.frame? loan.frame = some f

/-- The pool knows which handles are out, and each of them shows the picture of its draw. -/
structure IsSound (pattern : Pattern) (width height : UInt32) (l : Lending) : Prop where
  pattern_eq : l.pool.pattern = pattern
  width_eq : l.pool.width = width
  height_eq : l.pool.height = height
  drawn : l.pool.drawn = .ofNat l.draws
  pool : l.pool.IsSound
  held : l.pool.held.Perm (l.loans.map Loan.frame)
  shows : ∀ loan ∈ l.loans, Shows pattern width height l.pool loan

/-- A new pool of which nothing is out. -/
def start (pattern : Pattern) (width height : UInt32) : Lending :=
  ⟨.start pattern width height, [], 0⟩

theorem ofPattern_of_lt (h : width.toNat * height.toNat < 2 ^ 61) (pattern : Pattern) :
    ofPattern pattern width height = .ok (start pattern width height) := by
  rw [ofPattern, FramePool.ofPattern_of_lt h]
  rfl

theorem isSound_start (pattern : Pattern) (width height : UInt32) :
    (start pattern width height).IsSound pattern width height where
  pattern_eq := rfl
  width_eq := rfl
  height_eq := rfl
  drawn := rfl
  pool := FramePool.isSound_start pattern width height
  held := List.Perm.refl []
  shows := by simp [start]

theorem IsSound.mem_held (hl : l.IsSound pattern width height) {loan : Loan} (h : loan ∈ l.loans) :
    loan.frame ∈ l.pool.held :=
  hl.held.mem_iff.2 (List.mem_map_of_mem h)

/-- The next frame is the picture of its number; no handle on it is out and no handle shows anything
else than before. -/
theorem IsSound.next (hl : l.IsSound pattern width height)
    (hcompletes : pattern.Completes width height) :
    ∃ i pool, l.pool.next = .ok (i, pool) ∧ (∀ loan ∈ l.loans, loan.frame ≠ i) ∧
      Shows pattern width height pool ⟨i, l.draws⟩ ∧
      (∀ loan ∈ l.loans, pool.frame? loan.frame = l.pool.frame? loan.frame) ∧
      IsSound pattern width height ⟨pool, ⟨i, l.draws⟩ :: l.loans, l.draws + 1⟩ := by
  have hcompletes' : l.pool.pattern.Completes l.pool.width l.pool.height := by
    rwa [hl.pattern_eq, hl.width_eq, hl.height_eq]
  obtain ⟨i, f, frames, slots, hnext, hpicture, hwidth, hheight, hfree, hframe, hkept, hsound⟩ :=
    hl.pool.next hcompletes'
  rw [hl.pattern_eq, hl.width_eq, hl.height_eq, hl.drawn] at hpicture
  have hshows : Shows pattern width height
      { l.pool with frames, slots, held := i :: l.pool.held, drawn := l.pool.drawn + 1 }
      ⟨i, l.draws⟩ :=
    ⟨f, hpicture, hwidth.trans hl.width_eq, hheight.trans hl.height_eq, hframe⟩
  refine ⟨i, _, hnext, fun loan hloan h => hfree (h ▸ hl.mem_held hloan), hshows,
    fun loan hloan => hkept _ (hl.mem_held hloan),
    ⟨hl.pattern_eq, hl.width_eq, hl.height_eq, ?_, hsound, ?_, ?_⟩⟩
  · simp only [hl.drawn]
    exact (UInt64.ofNat_add l.draws 1).symm
  · exact hl.held.cons i
  · intro loan hloan
    rcases List.mem_cons.1 hloan with rfl | hloan
    · exact hshows
    · obtain ⟨g, hg, hgwidth, hgheight, hgframe⟩ := hl.shows loan hloan
      exact ⟨g, hg, hgwidth, hgheight, (hkept _ (hl.mem_held hloan)).trans hgframe⟩

theorem IsSound.after (hl : l.IsSound pattern width height)
    (hcompletes : pattern.Completes width height)
    (move : Move) : ∃ l', l.after move = .ok l' ∧ l'.IsSound pattern width height := by
  cases move with
  | next =>
    obtain ⟨i, pool, hnext, -, -, -, hsound⟩ := hl.next hcompletes
    exact ⟨_, by rw [Lending.after, hnext]; rfl, hsound⟩
  | share place =>
    cases hloan : l.loans[place]? with
    | none => exact ⟨l, by rw [Lending.after, hloan], hl⟩
    | some loan =>
      have hmem := List.mem_of_getElem? hloan
      have hpool : (l.pool.share loan.frame).IsSound := hl.pool.withHeld
        (List.forall_mem_cons.2 ⟨hl.pool.held_lt _ (hl.mem_held hmem), hl.pool.held_lt⟩)
      have hshows : ∀ other ∈ loan :: l.loans, Shows pattern width height l.pool other :=
        List.forall_mem_cons.2 ⟨hl.shows loan hmem, hl.shows⟩
      have hsound : IsSound pattern width height
          { l with pool := l.pool.share loan.frame, loans := loan :: l.loans } :=
        ⟨hl.pattern_eq, hl.width_eq, hl.height_eq, hl.drawn, hpool, hl.held.cons loan.frame, hshows⟩
      exact ⟨_, by rw [Lending.after, hloan], hsound⟩
  | release place =>
    cases hloan : l.loans[place]? with
    | none => exact ⟨l, by rw [Lending.after, hloan], hl⟩
    | some loan =>
      obtain ⟨hlt, rfl⟩ := List.getElem?_eq_some_iff.1 hloan
      have hpool : (l.pool.release l.loans[place].frame).IsSound :=
        hl.pool.withHeld fun i hi => hl.pool.held_lt i (List.mem_of_mem_erase hi)
      -- one handle on the frame is given back, not all of them
      have hheld : (l.pool.held.erase l.loans[place].frame).Perm
          ((l.loans.eraseIdx place).map Loan.frame) := by
        have hperm := (List.getElem_cons_eraseIdx_perm hlt).symm.map Loan.frame
        have herase := (hl.held.trans hperm).erase l.loans[place].frame
        rwa [List.map_cons, List.erase_cons_head] at herase
      have hsound : IsSound pattern width height
          { l with pool := l.pool.release l.loans[place].frame, loans := l.loans.eraseIdx place } :=
        ⟨hl.pattern_eq, hl.width_eq, hl.height_eq, hl.drawn, hpool, hheld,
          fun other hother => hl.shows other (List.mem_of_mem_eraseIdx hother)⟩
      exact ⟨_, by rw [Lending.after, hloan], hsound⟩

theorem IsSound.afterAll (hl : l.IsSound pattern width height)
    (hcompletes : pattern.Completes width height)
    (moves : List Move) : ∃ l', l.afterAll moves = .ok l' ∧ l'.IsSound pattern width height :=
  run_induction (P := fun _ => True) (fun _ move hl _ => hl.after hcompletes move) hl
    fun _ _ => trivial

theorem draws_after {l' : Lending} {move : Move} (h : l.after move = .ok l') :
    l'.draws = l.draws + if move = .next then 1 else 0 := by
  cases move with
  | next =>
    obtain ⟨_, -, h⟩ := bind_eq_ok.1 h
    cases h
    rfl
  | share place =>
    rw [Lending.after] at h
    cases hloan : l.loans[place]? <;> rw [hloan] at h <;> cases h <;> rfl
  | release place =>
    rw [Lending.after] at h
    cases hloan : l.loans[place]? <;> rw [hloan] at h <;> cases h <;> rfl

theorem draws_afterAll {l' : Lending} {moves : List Move} (h : l.afterAll moves = .ok l') :
    l'.draws = l.draws + moves.count .next := by
  induction moves generalizing l with
  | nil =>
    cases h
    rfl
  | cons move moves ih =>
    rw [Lending.afterAll, List.foldlM_cons] at h
    obtain ⟨l₁, hmove, h⟩ := bind_eq_ok.1 h
    rw [ih h, draws_after hmove, List.count_cons]
    simp only [beq_iff_eq]
    omega

/-- **Every handle shows the picture of its draw, as long as it is out.**  There is room for the
pool of a pattern that can be drawn at a size.  After any moves of its consumer it has three slots,
knows which handles are out, and has counted its draws, without a wrap if there were fewer than
`2 ^ 64`.  It can draw the next frame, which is the picture with the number of draws before it, as
it is on a new frame; no handle on that frame was out, and no handle that was shows anything else
than before.  Nor does it after any more moves for as long as it is not given back. -/
theorem shows_every_draw (pattern : Pattern) (width height : UInt32)
    (hcompletes : pattern.Completes width height) (moves : List Move) :
    ∃ new l, ofPattern pattern width height = .ok new ∧ new.afterAll moves = .ok l ∧
      l.pool.slots.length = 3 ∧ l.pool.slots.Nodup ∧ l.pool.held.Perm (l.loans.map Loan.frame) ∧
      (moves.count .next < 2 ^ 64 → l.pool.drawn.toNat = moves.count .next) ∧
      (∀ loan ∈ l.loans, Shows pattern width height l.pool loan) ∧
      (∃ i pool f, l.pool.next = .ok (i, pool) ∧ (∀ loan ∈ l.loans, loan.frame ≠ i) ∧
        pattern.picture width height (.ofNat (moves.count .next)) = .ok f ∧ f.width = width ∧
        f.height = height ∧ pool.frame? i = some f ∧
        ∀ loan ∈ l.loans, pool.frame? loan.frame = l.pool.frame? loan.frame) ∧
      ∀ more, ∃ l', l.afterAll more = .ok l' ∧ ∀ loan ∈ l.loans, loan ∈ l'.loans →
        l'.pool.frame? loan.frame = l.pool.frame? loan.frame := by
  obtain ⟨l, hafter, hl⟩ := (isSound_start pattern width height).afterAll hcompletes moves
  have hdraws : l.draws = moves.count .next := (draws_afterAll hafter).trans (Nat.zero_add _)
  obtain ⟨i, pool, hnext, hfree, ⟨f, hpicture, hwidth, hheight, hframe⟩, hkept, -⟩ :=
    hl.next hcompletes
  have hdrawn : l.pool.drawn = .ofNat (moves.count .next) := by rw [hl.drawn, hdraws]
  rw [hdraws] at hpicture
  refine ⟨_, l, ofPattern_of_lt hcompletes.room pattern, hafter, hl.pool.slots_length,
    hl.pool.slots_nodup, hl.held, fun hlt => hdrawn ▸ UInt64.toNat_ofNat_of_lt' hlt, hl.shows,
    ⟨i, pool, f, hnext, hfree, hpicture, hwidth, hheight, hframe, hkept⟩, fun more => ?_⟩
  obtain ⟨l', hmore, hl'⟩ := hl.afterAll hcompletes more
  refine ⟨l', hmore, fun loan hloan hloan' => ?_⟩
  -- the picture of its draw is the same then and now
  obtain ⟨g, hg, -, -, hgframe⟩ := hl.shows loan hloan
  obtain ⟨g', hg', -, -, hgframe'⟩ := hl'.shows loan hloan'
  rw [hgframe, hgframe', Except.ok.inj (hg.symm.trans hg')]

/-- A consumer that holds four frames, more than there are slots, copies the handle on the last of
them and gives the handle on the first one back. -/
theorem shows_every_draw_of_four : Pattern.gradient.Completes 3 2 ∧ ∃ new l i pool f,
    ofPattern .gradient 3 2 = .ok new ∧
    new.afterAll [.next, .next, .next, .next, .share 0, .release 4] = .ok l ∧
    l.pool.slots.length = 3 ∧ l.pool.drawn = 4 ∧ l.pool.next = .ok (i, pool) ∧
    (∀ loan ∈ l.loans, loan.frame ≠ i) ∧
    Pattern.gradient.picture 3 2 4 = .ok f ∧ pool.frame? i = some f := by
  have hcompletes : Pattern.gradient.Completes 3 2 := ⟨0, _, rfl⟩
  obtain ⟨new, l, hnew, hafter, hslots, -, -, hdrawn, -,
      ⟨i, pool, f, hnext, hfree, hpicture, -, -, hframe, -⟩, -⟩ :=
    shows_every_draw .gradient 3 2 hcompletes [.next, .next, .next, .next, .share 0, .release 4]
  exact ⟨hcompletes, new, l, i, pool, f, hnew, hafter, hslots,
    UInt64.toNat_inj.1 (hdrawn (by decide)), hnext, hfree, hpicture, hframe⟩

end Lending

end GlyphMosaic
