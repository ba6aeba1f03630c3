import GlyphMosaic.Proofs.Timing.Counts

/-!
# What frame statistics add up to

Each frame comes with the warm-up in force, which may go up and down between two frames, so that
frames may be only counted again after some were measured.

* `FrameStats.recordInWords_eq` : the counts stay in their words, and so does their difference.
* `FrameStats.measuredAmong` : which of some frames are measured.
* `FrameStats.IsFoldOf` : the aggregates are those of some times.
* `FrameStats.IsFoldOf.record` : a frame adds its time or nothing; `FrameStats.IsFoldOf.recordEach`
  : so do some frames in a row.
* `FrameStats.recordEach_folds` : **the aggregates of any frames are those of the measured ones**.
-/

namespace GlyphMosaic

/-- A frame that is recorded. -/
structure Recording where
  /-- What the clocks said when it was done. -/
  reading : Reading
  /-- The warm-up in force. -/
  warmup : UInt32

/-- The time of the frame. -/
def Recording.milliseconds (f : Recording) : Float := f.reading.elapsed.toMilliseconds

namespace FrameStats

/-- Records some frames, each with its own warm-up. -/
def recordEach (s : FrameStats) (frames : List Recording) : FrameStats :=
  frames.foldl (fun s f => s.record f.reading f.warmup.toNat) s

/-- `recordEach` with both counts in words of 32 bits. -/
def recordEachInWords (s : FrameStats) (frames : List Recording) : Except Fault FrameStats :=
  frames.foldlM (fun s f => s.recordInWords f.reading f.warmup.toNat) s

/-- The frames that are measured, of some frames behind `warmups` others that were only counted: all
but those that find fewer of these than their warm-up asks for. -/
def measuredAmong : (warmups : Nat) → List Recording → List Recording
  | _, [] => []
  | warmups, f :: frames =>
    if warmups < f.warmup.toNat then measuredAmong (warmups + 1) frames
    else f :: measuredAmong warmups frames

/-- The least of some times, in their order; `0` if there are none. -/
def leastTime : List Float → Float
  | [] => 0
  | ms :: times => times.foldl (fun least ms => if ms < least then ms else least) ms

/-- The greatest of some times, in their order, and of `0`. -/
def greatestTime (times : List Float) : Float :=
  times.foldl (fun greatest ms => if greatest < ms then ms else greatest) 0

/-- The sum of some times, from the first one on. -/
def totalTime (times : List Float) : Float := times.foldl (· + ·) 0

/-- The aggregates are those of some times. -/
structure IsFoldOf (s : FrameStats) (times : List Float) : Prop where
  measured : s.measured = times.length
  total : s.totalMs = totalTime times
  least : s.minMs = leastTime times
  greatest : s.maxMs = greatestTime times
  /-- There is a mean once there is a time. -/
  mean : times ≠ [] → s.avgMs = s.totalMs / times.length.toUInt64.toFloat

variable {s : FrameStats} {times : List Float} {ms : Float} {warmup : Nat}

/-! ### Words -/

/-- Sound counts never leave their words. -/
theorem recordInWords_eq (hs : s.IsSound) (r : Reading) (hw : warmup ≤ frameLimit) :
    s.recordInWords r warmup = .ok (s.record r warmup) := by
  obtain ⟨hle, hlimit⟩ := hs
  unfold recordInWords recordTimeInWords record recordTime
  dsimp only
  split
  · rw [fitting_of_lt (by unfold frameLimit at hw; omega)]
    rfl
  · have hcounted : s.warmupCount ≤ min (s.frameCount + 1) frameLimit := by omega
    rw [measuredInWords, difference_of_le hcounted]
    rfl

theorem isSound_recordEach (hs : s.IsSound) (frames : List Recording) :
    (s.recordEach frames).IsSound := by
  induction frames generalizing s with
  | nil => exact hs
  | cons f frames ih => exact ih (hs.record f.reading (Nat.le_sub_one_of_lt f.warmup.toNat_lt))

theorem recordEachInWords_eq (hs : s.IsSound) (frames : List Recording) :
    s.recordEachInWords frames = .ok (s.recordEach frames) := by
  induction frames generalizing s with
  | nil => rfl
  | cons f frames ih =>
    have hw : f.warmup.toNat ≤ frameLimit := Nat.le_sub_one_of_lt f.warmup.toNat_lt
    unfold recordEachInWords
    rw [List.foldlM_cons, recordInWords_eq hs f.reading hw, ok_bind]
    exact ih (hs.record f.reading hw)

/-! ### One frame -/

theorem leastTime_concat (hne : times ≠ []) (ms : Float) :
    leastTime (times ++ [ms]) = if ms < leastTime times then ms else leastTime times := by
  cases times with
  | nil => exact absurd rfl hne
  | cons first times =>
    rw [List.cons_append, leastTime, List.foldl_append]
    rfl

theorem greatestTime_concat (times : List Float) (ms : Float) :
    greatestTime (times ++ [ms]) = if greatestTime times < ms then ms else greatestTime times := by
  rw [greatestTime, List.foldl_append]
  rfl

theorem totalTime_concat (times : List Float) (ms : Float) :
    totalTime (times ++ [ms]) = totalTime times + ms := by
  rw [totalTime, List.foldl_append]
  rfl

theorem IsFoldOf.recordInstant (h : s.IsFoldOf times) (now : Nat) :
    (s.recordInstant now).IsFoldOf times := by
  obtain ⟨hmeasured, htotal, hleast, hgreatest, hmean⟩ := h
  unfold FrameStats.recordInstant
  dsimp only
  split
  · exact ⟨hmeasured, htotal, hleast, hgreatest, hmean⟩
  · split <;> exact ⟨hmeasured, htotal, hleast, hgreatest, hmean⟩

theorem IsFoldOf.recordTime_of_lt (h : s.IsFoldOf times) (hlimit : s.frameCount < frameLimit)
    (hw : s.warmupCount < warmup) (ms : Float) : (s.recordTime ms warmup).IsFoldOf times := by
  unfold recordTime
  dsimp only
  rw [if_pos hw]
  -- both counts grow, their difference does not
  have hmeasured : min (s.frameCount + 1) frameLimit - (s.warmupCount + 1) = s.measured := by
    unfold FrameStats.measured
    omega
  exact {
    measured := hmeasured.trans h.measured
    total := h.total
    least := h.least
    greatest := h.greatest
    mean := h.mean }

theorem IsFoldOf.recordTime_of_le (h : s.IsFoldOf times) (hs : s.IsSound)
    (hlimit : s.frameCount < frameLimit) (hw : warmup ≤ s.warmupCount) (ms : Float) :
    (s.recordTime ms warmup).IsFoldOf (times ++ [ms]) := by
  unfold recordTime
  dsimp only
  rw [if_neg (Nat.not_lt.2 hw)]
  have hle := hs.warmup_le
  have hlength := h.measured
  have hmeasured : min (s.frameCount + 1) frameLimit - s.warmupCount = times.length + 1 := by
    unfold FrameStats.measured at hlength
    omega
  simp only [FrameStats.measured, hmeasured]
  constructor
  · rw [List.length_append]
    exact hmeasured
  · rw [totalTime_concat, ← h.total]
  · by_cases hnil : times = []
    · subst hnil
      rfl
    · -- the difference of the counts is one at the first measured frame only
      have hone : (times.length + 1 == 1) = false := by simpa using hnil
      rw [leastTime_concat hnil, ← h.least, hone]
      simp only [Bool.false_or, decide_eq_true_eq]
  · rw [greatestTime_concat, ← h.greatest]
  · intro _
    rw [List.length_append, List.length_singleton]

theorem IsFoldOf.record (h : s.IsFoldOf times) (hs : s.IsSound) (hlimit : s.frameCount < frameLimit)
    (f : Recording) : (s.record f.reading f.warmup.toNat).IsFoldOf
      (times ++ (measuredAmong s.warmupCount [f]).map Recording.milliseconds) := by
  unfold measuredAmong
  split
  · rename_i hw
    rw [measuredAmong, List.map_nil, List.append_nil]
    exact (h.recordTime_of_lt hlimit hw _).recordInstant _
  · rename_i hw
    rw [measuredAmong, List.map_singleton]
    exact (h.recordTime_of_le hs hlimit (Nat.not_lt.1 hw) _).recordInstant _

/-! ### Some frames in a row -/

theorem recordEach_append (s : FrameStats) (before behind : List Recording) :
    s.recordEach (before ++ behind) = (s.recordEach before).recordEach behind := List.foldl_append

/-- Which frames are measured behind some others is a matter of the warm-up frames among these. -/
theorem measuredAmong_append (s : FrameStats) (before behind : List Recording) :
    measuredAmong s.warmupCount (before ++ behind) =
      measuredAmong s.warmupCount before ++
        measuredAmong (s.recordEach before).warmupCount behind := by
  induction before generalizing s with
  | nil => rfl
  | cons f before ih =>
    have hwarmups := (s.counts_record f.reading f.warmup.toNat).2
    have hrest := ih (s.record f.reading f.warmup.toNat)
    rw [hwarmups] at hrest
    rw [List.cons_append, measuredAmong, measuredAmong]
    by_cases hw : s.warmupCount < f.warmup.toNat
    · rw [if_pos hw] at hrest
      rw [if_pos hw, if_pos hw, hrest]
      rfl
    · rw [if_neg hw] at hrest
      rw [if_neg hw, if_neg hw, hrest]
      rfl

/-- Frames add the times of the measured ones, as long as all of them are counted. -/
theorem IsFoldOf.recordEach (h : s.IsFoldOf times) (hs : s.IsSound) {frames : List Recording}
    (hlimit : s.frameCount + frames.length ≤ frameLimit) : (s.recordEach frames).IsFoldOf
      (times ++ (measuredAmong s.warmupCount frames).map Recording.milliseconds) := by
  induction frames generalizing s times with
  | nil => exact (List.append_nil times).symm ▸ h
  | cons f frames ih =>
    rw [List.length_cons] at hlimit
    have hframes := (s.counts_record f.reading f.warmup.toNat).1
    have hfirst := h.record hs (by omega) f
    have hrest :=
      ih hfirst (hs.record f.reading (Nat.le_sub_one_of_lt f.warmup.toNat_lt)) (by omega)
    have hmeasured : measuredAmong s.warmupCount (f :: frames) = measuredAmong s.warmupCount [f] ++
        measuredAmong (s.record f.reading f.warmup.toNat).warmupCount frames :=
      measuredAmong_append s [f] frames
    rwa [List.append_assoc, ← List.map_append, ← hmeasured] at hrest

theorem frameCount_recordEach (frames : List Recording) (hlimit : s.frameCount ≤ frameLimit) :
    (s.recordEach frames).frameCount = min (s.frameCount + frames.length) frameLimit := by
  induction frames generalizing s with
  | nil => exact (Nat.min_eq_left hlimit).symm
  | cons f frames ih =>
    have hframes := (s.counts_record f.reading f.warmup.toNat).1
    refine (ih (s := s.record f.reading f.warmup.toNat) (by omega)).trans ?_
    rw [hframes, List.length_cons]
    generalize frameLimit = limit
    omega

/-- A frame is only counted: the aggregates stay what they are. -/
structure IsOnlyCounted (s s' : FrameStats) : Prop where
  warmups : s'.warmupCount = s.warmupCount + 1
  total : s'.totalMs = s.totalMs
  least : s'.minMs = s.minMs
  greatest : s'.maxMs = s.maxMs
  mean : s'.avgMs = s.avgMs

theorem isOnlyCounted_record (hw : s.warmupCount < warmup) (r : Reading) :
    s.IsOnlyCounted (s.record r warmup) := by
  unfold record recordTime recordInstant
  dsimp only
  rw [if_pos hw]
  split
  · exact ⟨rfl, rfl, rfl, rfl, rfl⟩
  · split <;> exact ⟨rfl, rfl, rfl, rfl, rfl⟩

theorem isFoldOf_zero : zero.IsFoldOf [] := ⟨rfl, rfl, rfl, rfl, fun h => absurd rfl h⟩

/-- **The aggregates of any frames are those of the measured ones.**  However many frames are
recorded, each with its own time and its own warm-up, no count leaves its word and fewer frames were
only counted than were seen, or as many.  One frame more is only counted if fewer frames than its
warm-up were so before it, and then it leaves the aggregates alone; otherwise it is measured.  As
long as the frames seen fit their word, there are as many as were recorded, and the total, the
extremes and the mean are those of the times of the measured frames in their order. -/
theorem recordEach_folds (frames : List Recording) :
    (zero.recordEachInWords frames = .ok (zero.recordEach frames) ∧
      (zero.recordEach frames).warmupCount ≤ (zero.recordEach frames).frameCount ∧
      (zero.recordEach frames).measuredInWords = .ok (zero.recordEach frames).measured) ∧
    (∀ f : Recording,
      ((zero.recordEach frames).warmupCount < f.warmup.toNat →
        (zero.recordEach frames).IsOnlyCounted (zero.recordEach (frames ++ [f])) ∧
        measuredAmong 0 (frames ++ [f]) = measuredAmong 0 frames) ∧
      (f.warmup.toNat ≤ (zero.recordEach frames).warmupCount →
        (zero.recordEach (frames ++ [f])).warmupCount = (zero.recordEach frames).warmupCount ∧
        measuredAmong 0 (frames ++ [f]) = measuredAmong 0 frames ++ [f])) ∧
    (frames.length < 2 ^ 32 →
      (zero.recordEach frames).frameCount = frames.length ∧
      (zero.recordEach frames).IsFoldOf ((measuredAmong 0 frames).map Recording.milliseconds)) := by
  have hsound := isSound_recordEach isSound_zero frames
  refine ⟨⟨recordEachInWords_eq isSound_zero frames, hsound.warmup_le,
    difference_of_le hsound.warmup_le⟩, fun f => ?_, fun hlength => ?_⟩
  · have hmeasured : measuredAmong 0 (frames ++ [f]) =
        measuredAmong 0 frames ++ measuredAmong (zero.recordEach frames).warmupCount [f] :=
      measuredAmong_append zero frames [f]
    have hrecord : zero.recordEach (frames ++ [f]) =
        (zero.recordEach frames).record f.reading f.warmup.toNat :=
      recordEach_append zero frames [f]
    rw [hmeasured, hrecord, measuredAmong, measuredAmong, measuredAmong]
    constructor
    · intro hw
      rw [if_pos hw, List.append_nil]
      exact ⟨isOnlyCounted_record hw f.reading, rfl⟩
    · intro hw
      rw [(counts_record _ _ _).2, if_neg (Nat.not_lt.2 hw), if_neg (Nat.not_lt.2 hw)]
      exact ⟨rfl, rfl⟩
  · have hlimit : zero.frameCount + frames.length ≤ frameLimit := by
      rw [frameLimit]
      change 0 + frames.length ≤ _
      omega
    refine ⟨?_, isFoldOf_zero.recordEach isSound_zero hlimit⟩
    rw [frameCount_recordEach frames (Nat.zero_le _), Nat.min_eq_left hlimit]
    exact Nat.zero_add _

/-- A frame of some milliseconds. -/
def frameOf (milliseconds : Nat) (warmup : UInt32) : Recording :=
  ⟨⟨⟨0, 1000000 * milliseconds⟩, 0, 0⟩, warmup⟩

/-- The warm-up goes down, so that the second frame is measured, and then up, so that two more are
only counted. -/
def unsteadyFrames : List Recording :=
  [frameOf 50 1, frameOf 40 0, frameOf 30 3, frameOf 4 3, frameOf 2 1]

/-- Of five frames the second and the last one are measured; the fourth one is only counted. -/
theorem recordEach_folds_unsteady : unsteadyFrames.length < 2 ^ 32 ∧
    (zero.recordEach unsteadyFrames).frameCount = 5 ∧
    (zero.recordEach unsteadyFrames).IsFoldOf
      [(frameOf 40 0).milliseconds, (frameOf 2 1).milliseconds] ∧
    (zero.recordEach (unsteadyFrames.take 3)).IsOnlyCounted
      (zero.recordEach (unsteadyFrames.take 4)) := by
  obtain ⟨-, -, hall⟩ := recordEach_folds unsteadyFrames
  obtain ⟨-, hnext, -⟩ := recordEach_folds (unsteadyFrames.take 3)
  obtain ⟨hframes, hfold⟩ := hall (by decide)
  obtain ⟨honly, -⟩ := (hnext (frameOf 4 3)).1 (by decide)
  exact ⟨by decide, hframes, hfold, honly⟩

end FrameStats

end GlyphMosaic
