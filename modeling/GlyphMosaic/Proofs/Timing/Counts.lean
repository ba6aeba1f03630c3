import GlyphMosaic.Timing.Meter

/-!
# The frame counts of a meter

The number of measured frames is the difference of two counts, both of which fit 32 bits.

* `FrameStats.IsSound` : the difference is not negative and the counts fit.
* `FrameStats.counts_record` : what a recorded frame does to the counts.
* `FrameStats.IsSound.record` : a recorded frame keeps them sound, for a warm-up that fits 32 bits.
* `Meter.IsSound` : both statistics are sound and so is the warm-up; each operation of a meter keeps
  it.
* `Meter.stats_record` : which statistics a frame is recorded in.
* `Meter.stats_recordAll`, `FrameStats.counts_recordAll` : so it is for some frames in a row, and
  then the counts are known.
-/

namespace GlyphMosaic

namespace FrameStats

/-- No more frames were only counted than were seen, and those fit 32 bits. -/
structure IsSound (s : FrameStats) : Prop where
  /-- The number of measured frames is not negative. -/
  warmup_le : s.warmupCount ≤ s.frameCount
  /-- The frames seen are at most the greatest count. -/
  frames_le : s.frameCount ≤ frameLimit

theorem isSound_zero : zero.IsSound := ⟨Nat.le_refl 0, Nat.zero_le _⟩

variable {s : FrameStats}

theorem counts_recordTime (s : FrameStats) (ms : Float) (warmup : Nat) :
    (s.recordTime ms warmup).frameCount = min (s.frameCount + 1) frameLimit ∧
      (s.recordTime ms warmup).warmupCount =
        if s.warmupCount < warmup then s.warmupCount + 1 else s.warmupCount := by
  unfold recordTime
  dsimp only
  by_cases h : s.warmupCount < warmup
  · simp only [if_pos h, and_self]
  · simp only [if_neg h, and_self]

theorem counts_recordInstant (s : FrameStats) (now : Nat) :
    (s.recordInstant now).frameCount = s.frameCount ∧
      (s.recordInstant now).warmupCount = s.warmupCount := by
  unfold recordInstant
  dsimp only
  split
  · exact ⟨rfl, rfl⟩
  · split <;> exact ⟨rfl, rfl⟩

theorem counts_record (s : FrameStats) (r : Reading) (warmup : Nat) :
    (s.record r warmup).frameCount = min (s.frameCount + 1) frameLimit ∧
      (s.record r warmup).warmupCount =
        if s.warmupCount < warmup then s.warmupCount + 1 else s.warmupCount := by
  obtain ⟨hframes, hwarmups⟩ := counts_recordTime s r.elapsed.toMilliseconds warmup
  obtain ⟨hframes', hwarmups'⟩ :=
    counts_recordInstant (s.recordTime r.elapsed.toMilliseconds warmup) r.instant
  exact ⟨hframes'.trans hframes, hwarmups'.trans hwarmups⟩

/-- Records some frames. -/
def recordAll (s : FrameStats) (warmup : Nat) (readings : List Reading) : FrameStats :=
  readings.foldl (fun s r => s.record r warmup) s

theorem counts_recordAll {warmup : Nat} (hframes : s.frameCount ≤ frameLimit)
    (hwarmup : s.warmupCount ≤ warmup) (readings : List Reading) :
    (s.recordAll warmup readings).frameCount = min (s.frameCount + readings.length) frameLimit ∧
      (s.recordAll warmup readings).warmupCount = min (s.warmupCount + readings.length) warmup := by
  induction readings generalizing s with
  | nil => exact ⟨(Nat.min_eq_left hframes).symm, (Nat.min_eq_left hwarmup).symm⟩
  | cons r readings ih =>
    obtain ⟨hframes₁, hwarmup₁⟩ := counts_record s r warmup
    obtain ⟨hframes', hwarmup'⟩ := ih (s := s.record r warmup) (by rw [hframes₁]; omega)
      (by rw [hwarmup₁]; split <;> omega)
    refine ⟨hframes'.trans ?_, hwarmup'.trans ?_⟩
    · rw [hframes₁, List.length_cons]
      generalize frameLimit = limit
      omega
    · rw [hwarmup₁, List.length_cons]
      split <;> omega

/-- From no frame on, the counts are exact as far as they fit. -/
theorem counts_recordAll_zero {readings : List Reading} (hlength : readings.length ≤ frameLimit)
    (warmup : Nat) : (zero.recordAll warmup readings).frameCount = readings.length ∧
      (zero.recordAll warmup readings).warmupCount = min readings.length warmup := by
  obtain ⟨hframes, hwarmup⟩ :=
    counts_recordAll (s := zero) (Nat.zero_le _) (Nat.zero_le warmup) readings
  have hframes₀ : zero.frameCount + readings.length = readings.length := Nat.zero_add _
  have hwarmup₀ : zero.warmupCount + readings.length = readings.length := Nat.zero_add _
  rw [hframes₀, Nat.min_eq_left hlength] at hframes
  rw [hwarmup₀] at hwarmup
  exact ⟨hframes, hwarmup⟩

theorem IsSound.record (hs : s.IsSound) (r : Reading) {warmup : Nat} (hw : warmup ≤ frameLimit) :
    (s.record r warmup).IsSound := by
  obtain ⟨hle, hlimit⟩ := hs
  obtain ⟨hframes, hwarmups⟩ := counts_record s r warmup
  constructor
  · rw [hframes, hwarmups]
    split <;> omega
  · rw [hframes]
    omega

end FrameStats

namespace Meter

/-- The statistics of both modes are sound, and the warm-up fits 32 bits. -/
structure IsSound (m : Meter) : Prop where
  /-- Of the vectorized mode. -/
  vectorized : m.vectorized.IsSound
  /-- Of the scalar mode. -/
  scalar : m.scalar.IsSound
  /-- The warm-up is at most the greatest count. -/
  warmup_le : m.warmup ≤ FrameStats.frameLimit

theorem isSound_ofWarmup {n : Nat} (hn : n ≤ FrameStats.frameLimit) : (ofWarmup n).IsSound :=
  ⟨FrameStats.isSound_zero, FrameStats.isSound_zero, hn⟩

variable {m : Meter}

theorem isSound_of_stats (hstats : ∀ mode, (m.stats mode).IsSound)
    (hwarmup : m.warmup ≤ FrameStats.frameLimit) : m.IsSound :=
  ⟨hstats .vectorized, hstats .scalar, hwarmup⟩

theorem IsSound.stats (hm : m.IsSound) : ∀ mode, (m.stats mode).IsSound
  | .vectorized => hm.vectorized
  | .scalar => hm.scalar

theorem IsSound.reset (hm : m.IsSound) : m.reset.IsSound :=
  ⟨FrameStats.isSound_zero, FrameStats.isSound_zero, hm.warmup_le⟩

theorem IsSound.setEnabled (hm : m.IsSound) (on : Bool) : (m.setEnabled on).IsSound := by
  cases on with
  | true => exact ⟨FrameStats.isSound_zero, FrameStats.isSound_zero, hm.warmup_le⟩
  | false => exact ⟨hm.vectorized, hm.scalar, hm.warmup_le⟩

theorem IsSound.setWarmup (hm : m.IsSound) {n : Nat} (hn : n ≤ FrameStats.frameLimit) :
    (m.setWarmup n).IsSound := ⟨hm.vectorized, hm.scalar, hn⟩

theorem IsSound.record (hm : m.IsSound) (mode : Mode) (r : Reading) :
    (m.record mode r).IsSound := by
  unfold Meter.record
  split
  · cases mode with
    | vectorized => exact ⟨hm.vectorized.record r hm.warmup_le, hm.scalar, hm.warmup_le⟩
    | scalar => exact ⟨hm.vectorized, hm.scalar.record r hm.warmup_le, hm.warmup_le⟩
  · exact hm

/-! ### Statistics by mode -/

/-- A frame is recorded for the mode it is given for, while the meter is on. -/
theorem stats_record (m : Meter) (mode mode' : Mode) (r : Reading) :
    (m.record mode r).stats mode' =
      if m.enabled && mode == mode' then (m.stats mode').record r m.warmup else m.stats mode' := by
  unfold record
  split <;> cases mode <;> cases mode' <;> simp_all [stats]

theorem switches_record (m : Meter) (mode : Mode) (r : Reading) :
    (m.record mode r).enabled = m.enabled ∧ (m.record mode r).warmup = m.warmup := by
  unfold record
  split
  · cases mode <;> exact ⟨rfl, rfl⟩
  · exact ⟨rfl, rfl⟩

/-- Records some frames of a mode. -/
def recordAll (m : Meter) (mode : Mode) (readings : List Reading) : Meter :=
  readings.foldl (fun m r => m.record mode r) m

theorem switches_recordAll (m : Meter) (mode : Mode) (readings : List Reading) :
    (m.recordAll mode readings).enabled = m.enabled ∧
    (m.recordAll mode readings).warmup = m.warmup := by
  induction readings generalizing m with
  | nil => exact ⟨rfl, rfl⟩
  | cons r readings ih =>
    obtain ⟨henabled, hwarmup⟩ := m.switches_record mode r
    exact ⟨(ih (m.record mode r)).1.trans henabled, (ih (m.record mode r)).2.trans hwarmup⟩

theorem stats_recordAll (m : Meter) (mode mode' : Mode) (readings : List Reading) :
    (m.recordAll mode readings).stats mode' =
      if m.enabled && mode == mode' then (m.stats mode').recordAll m.warmup readings
      else m.stats mode' := by
  induction readings generalizing m with
  | nil => exact (ite_self _).symm
  | cons r readings ih =>
    obtain ⟨henabled, hwarmup⟩ := m.switches_record mode r
    refine (ih (m.record mode r)).trans ?_
    rw [henabled, hwarmup, stats_record]
    split <;> rfl

theorem stats_reset (m : Meter) (mode : Mode) : m.reset.stats mode = .zero := by
  cases mode <;> rfl

theorem stats_setEnabled (m : Meter) (on : Bool) (mode : Mode) :
    (m.setEnabled on).stats mode = if on then .zero else m.stats mode := by
  cases on <;> cases mode <;> rfl

theorem switches_setEnabled (m : Meter) (on : Bool) :
    (m.setEnabled on).enabled = on ∧ (m.setEnabled on).warmup = m.warmup := by
  cases on <;> exact ⟨rfl, rfl⟩

end Meter

end GlyphMosaic
