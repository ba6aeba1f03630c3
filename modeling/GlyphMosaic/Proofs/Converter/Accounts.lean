import GlyphMosaic.Converter.Journal
import GlyphMosaic.Proofs.Converter.Conversions

/-!
# The accounts of a converter

The frame number and the frame counts of a converter are what its journal says.

* `Converter.EntersAs` : all that a call does to the switches, the frame number and the statistics,
  as far as the entry for it tells; `Converter.answer_entersAs` says that each call does so.
* `Journal.IsBalanced` : the frame number is the number of conversions, and the counts of a mode are
  those of its recent conversions; `Journal.IsBalanced.after` says that each call keeps a journal
  balanced.
* `Converter.HasHistory.hasOwnWarmup` : the warm-up in force is that of the settings.
* `warmupsAmong_eq_min` : the warm-up frames where the warm-up stays what it is.
* `Journal.accounts_afterAll` : **after any history the accounts are those of the journal**, and no
  call but a conversion in a mode, or one with which all statistics start anew, changes its
  statistics.
-/

namespace GlyphMosaic

namespace Converter

variable {c c' : Converter} {j : Job} {r : Reading} {outcome : Outcome}

/-! ### Conversions -/

/-- A frame was entered into the accounts. -/
structure IsSettledBy (c : Converter) (r : Reading) (c' : Converter) : Prop where
  vectorized : c'.vectorized = c.vectorized
  meter : c'.meter = c.meter.record c.mode r
  clock : c'.clock = c.clock.tick r.wallMilliseconds

/-- A frame was skipped and the converter is the same, or it was converted and entered into the
accounts. -/
def Answers (c : Converter) (r : Reading) (outcome : Outcome) (c' : Converter) : Prop :=
  (outcome.isConverted = false ∧ c' = c) ∨ (outcome.isConverted = true ∧ c.IsSettledBy r c')

theorem answers_convert (h : c.convert j r = .ok (outcome, c')) : c.Answers r outcome c' := by
  obtain ⟨hskipped, rfl⟩ | ⟨cells, reducer, rfl, rfl⟩ := convert_cases h
  · exact .inl ⟨hskipped, rfl⟩
  · exact .inr ⟨rfl, rfl, rfl, rfl⟩

theorem answers_convertInto {out out' : Array Cell}
    (h : c.convertInto j out r = .ok (outcome, out', c')) : c.Answers r outcome c' := by
  obtain ⟨hskipped, rfl⟩ | ⟨cells, reducer, rfl, rfl⟩ := convertInto_cases h
  · exact .inl ⟨hskipped, rfl⟩
  · exact .inr ⟨rfl, rfl, rfl, rfl⟩

/-! ### Entries -/

theorem Entry.countsFor_of_converted {e : Entry} (h : e.isConverted = true) (mode : Mode) :
    e.countsFor mode = (e.switches.measuring && e.switches.mode == mode) := by
  rw [countsFor, h, Bool.true_and]

theorem Entry.countsFor_of_skipped {e : Entry} (h : e.isConverted = false) (mode : Mode) :
    e.countsFor mode = false := by
  rw [countsFor, h, Bool.false_and, Bool.false_and]

/-- The switches of a converter. -/
def switches (c : Converter) : Switches := ⟨c.mode, c.meter.enabled, c.meter.warmup⟩

/-- What an entry tells of the change that its call made to the accounts. -/
structure EntersAs (c : Converter) (e : Entry) (c' : Converter) : Prop where
  /-- The switches follow the call. -/
  switches : c'.switches = e.switches.after e.call
  /-- The clock ticks at a conversion. -/
  ticks : e.isConverted = true → ∃ ms, c'.clock = c.clock.tick ms
  /-- It stands still otherwise. -/
  stands : e.isConverted = false → c'.clock = c.clock
  /-- All statistics start anew at some calls. -/
  anew : e.call.startsAnew = true → ∀ mode, c'.meter.stats mode = .zero
  /-- A frame is recorded where the entry counts. -/
  records : e.call.startsAnew = false → ∀ mode, e.countsFor mode = true →
    ∃ r, c'.meter.stats mode = (c.meter.stats mode).record r e.switches.warmup
  /-- Nothing is recorded elsewhere. -/
  keeps : e.call.startsAnew = false → ∀ mode, e.countsFor mode = false →
    c'.meter.stats mode = c.meter.stats mode

variable {call : Call}

theorem Answers.entersAs {outcome : Outcome} (h : c.Answers r outcome c')
    (hswitches : c.switches.after call = c.switches) (hanew : call.startsAnew = false) :
    c.EntersAs ⟨c.switches, call, some outcome⟩ c' := by
  rcases h with ⟨hskipped, rfl⟩ | ⟨hconverted, hvectorized, hmeter, hclock⟩
  · have hentry : (⟨c'.switches, call, some outcome⟩ : Entry).isConverted = false := hskipped
    exact {
      switches := hswitches.symm
      ticks := fun h => absurd (hentry.symm.trans h) Bool.false_ne_true
      stands := fun _ => rfl
      anew := fun h => absurd (hanew.symm.trans h) Bool.false_ne_true
      records := fun _ mode h =>
        absurd ((Entry.countsFor_of_skipped hentry mode).symm.trans h) Bool.false_ne_true
      keeps := fun _ _ _ => rfl }
  · have hentry : (⟨c.switches, call, some outcome⟩ : Entry).isConverted = true := hconverted
    have hcounts : ∀ mode, (⟨c.switches, call, some outcome⟩ : Entry).countsFor mode =
        (c.meter.enabled && c.mode == mode) := fun mode => Entry.countsFor_of_converted hentry mode
    have hstats := fun mode => hmeter ▸ Meter.stats_record c.meter c.mode mode r
    have hmode : c'.mode = c.mode := by rw [mode, hvectorized, mode]
    obtain ⟨henabled, hwarmup⟩ := Meter.switches_record c.meter c.mode r
    have hkept : c'.switches = c.switches := by
      rw [switches, hmode, hmeter, henabled, hwarmup, switches]
    exact {
      switches := hkept.trans hswitches.symm
      ticks := fun _ => ⟨_, hclock⟩
      stands := fun h => absurd (hentry.symm.trans h) Bool.true_eq_false.mp
      anew := fun h => absurd (hanew.symm.trans h) Bool.false_ne_true
      records := fun _ mode h => ⟨r, (hstats mode).trans (if_pos (hcounts mode ▸ h))⟩
      keeps := fun _ mode h => (hstats mode).trans (if_neg (by rw [← hcounts mode, h]; decide)) }

theorem entersAs_of_none (hswitches : c'.switches = c.switches.after call)
    (hclock : c'.clock = c.clock)
    (hstats : ∀ mode, c'.meter.stats mode = if call.startsAnew then .zero else c.meter.stats mode) :
    c.EntersAs ⟨c.switches, call, none⟩ c' where
  switches := hswitches
  ticks := fun h => nomatch h
  stands := fun _ => hclock
  anew := fun h mode => by rw [hstats, if_pos h]
  records := fun _ _ h => nomatch h
  keeps := fun h mode _ => by
    rw [hstats, if_neg]
    simpa using h

/-- Each call is entered into the accounts. -/
theorem answer_entersAs {outcome : Option Outcome} (h : c.answer call = .ok (outcome, c')) :
    c.EntersAs ⟨c.switches, call, outcome⟩ c' := by
  cases call with
  | init =>
    cases h
    unfold Converter.init
    split <;> exact entersAs_of_none rfl rfl fun _ => rfl
  | shutdown =>
    cases h
    unfold Converter.shutdown
    split <;> exact entersAs_of_none rfl rfl fun _ => rfl
  | convert job reading =>
    -- a skipped frame leaves the converter, a converted one is settled
    obtain ⟨_, hconvert, h⟩ := bind_eq_ok.1 h
    cases h
    exact (answers_convert hconvert).entersAs rfl rfl
  | convertInto job out reading =>
    obtain ⟨_, hconvert, h⟩ := bind_eq_ok.1 h
    cases h
    exact (answers_convertInto hconvert).entersAs rfl rfl
  | convertFrame frame reading =>
    obtain ⟨_, hconvert, h⟩ := bind_eq_ok.1 h
    cases h
    exact (answers_convert hconvert).entersAs rfl rfl
  | setPalette charset gamma =>
    unfold answer at h
    cases hset : c.setPalette charset gamma with
    | error _ =>
      simp only [hset] at h
      cases h
      exact entersAs_of_none rfl rfl fun _ => rfl
    | ok _ =>
      simp only [hset] at h
      cases h
      obtain ⟨tables, rfl⟩ := setPalette_eq_ok hset
      exact entersAs_of_none rfl rfl fun _ => rfl
  | setVectorized on =>
    cases h
    exact entersAs_of_none rfl rfl fun _ => rfl
  | setBenchmark on =>
    cases h
    obtain ⟨henabled, hwarmup⟩ := c.meter.switches_setEnabled on
    have hswitches : (c.setBenchmark on).switches = ⟨c.mode, on, c.meter.warmup⟩ :=
      congrArg₂ (Switches.mk c.mode) henabled hwarmup
    exact entersAs_of_none hswitches rfl (c.meter.stats_setEnabled on)
  | setWarmup n =>
    cases h
    exact entersAs_of_none rfl rfl fun mode => by cases mode <;> rfl
  | resetStats =>
    cases h
    exact entersAs_of_none rfl rfl (Meter.stats_reset c.meter)

theorem EntersAs.keeps_of_ne {outcome : Option Outcome}
    (h : c.EntersAs ⟨c.switches, call, outcome⟩ c') (hanew : call.startsAnew = false) {mode : Mode}
    (hmode : outcome.any Outcome.isConverted = true → c.meter.enabled = true → c.mode ≠ mode) :
    c'.meter.stats mode = c.meter.stats mode := by
  refine h.keeps hanew mode (Bool.eq_false_iff.2 fun hcounts => ?_)
  simp only [Entry.countsFor, Bool.and_eq_true, beq_iff_eq] at hcounts
  exact hmode hcounts.1.1 hcounts.1.2 hcounts.2

theorem EntersAs.isSound {e : Entry} (h : c.EntersAs e c') (he : e.switches = c.switches)
    (hc : c.meter.IsSound) : c'.meter.IsSound := by
  refine Meter.isSound_of_stats (fun mode => ?_) ?_
  · cases hanew : e.call.startsAnew with
    | true => exact h.anew hanew mode ▸ FrameStats.isSound_zero
    | false =>
      cases hcounts : e.countsFor mode with
      | true =>
        obtain ⟨r, hrecord⟩ := h.records hanew mode hcounts
        rw [hrecord, he]
        exact (hc.stats mode).record r hc.warmup_le
      | false => exact h.keeps hanew mode hcounts ▸ hc.stats mode
  · have hwarmup : c'.meter.warmup = (c.switches.after e.call).warmup := by
      rw [← he, ← h.switches]
      rfl
    rw [hwarmup]
    cases e.call with
    | setWarmup n => exact toNat_le_frameLimit n
    | _ => exact hc.warmup_le

/-! ### Warm-up frames -/

/-- The warm-up is that of the settings. -/
def HasOwnWarmup (c : Converter) : Prop := c.meter.warmup = c.settings.warmupFrames.toNat

theorem hasOwnWarmup_ofSettings {settings : Settings} (h : ofSettings settings = .ok c) :
    c.HasOwnWarmup := by
  obtain ⟨_, -, h⟩ := bind_eq_ok.1 h
  cases h
  exact ((Meter.ofWarmup settings.warmupFrames.toNat).switches_setEnabled settings.benchmark).2

/-- No call parts the warm-up from that of the settings. -/
theorem HasOwnWarmup.of_becomes (hc : c.HasOwnWarmup) (h : c.Becomes c') : c'.HasOwnWarmup := by
  cases h with
  | kept | ready | stopped | palette | vectorized | reset => exact hc
  | drawn grid reducer r => exact (c.meter.switches_record c.mode r).2.trans hc
  | benchmark on => exact (c.meter.switches_setEnabled on).2.trans hc
  | warmup n => rfl

theorem HasHistory.hasOwnWarmup (hc : c.HasHistory) : c.HasOwnWarmup := by
  obtain ⟨settings, start, history, hstart, hafter⟩ := hc
  exact run_invariant (fun _ _ _ hd h => HasOwnWarmup.of_becomes hd (becomes_of_after h))
    (hasOwnWarmup_ofSettings hstart) hafter

theorem warmupsAmong_concat (warmups : List Nat) (warmup : Nat) :
    warmupsAmong (warmups ++ [warmup]) =
      if warmupsAmong warmups < warmup then warmupsAmong warmups + 1 else warmupsAmong warmups := by
  rw [warmupsAmong, List.foldl_append]
  rfl

/-- Where the warm-up stays what it is, the warm-up frames are the first ones. -/
theorem warmupsAmong_eq_min {warmups : List Nat} {warmup : Nat} (h : ∀ w ∈ warmups, w = warmup) :
    warmupsAmong warmups = min warmups.length warmup := by
  have hreplicate (n : Nat) : warmupsAmong (List.replicate n warmup) = min n warmup := by
    induction n with
    | zero => exact (Nat.zero_min warmup).symm
    | succ n ih =>
      rw [List.replicate_succ', warmupsAmong_concat, ih]
      split <;> omega
  conv_lhs => rw [List.eq_replicate_iff.2 ⟨rfl, h⟩]
  exact hreplicate _

/-! ### Balanced journals -/

/-- The counts of frames are those of the entries that count. -/
structure IsCountOf (s : FrameStats) (counted : List Entry) : Prop where
  /-- All of them are frames seen. -/
  frames : s.frameCount = min counted.length FrameStats.frameLimit
  /-- Some of them were warm-up frames. -/
  warmups : s.warmupCount = warmupsAmong (counted.map fun e => e.switches.warmup)

theorem isCountOf_zero : IsCountOf .zero [] := ⟨rfl, rfl⟩

theorem IsCountOf.record {s : FrameStats} {counted : List Entry} (h : IsCountOf s counted)
    (e : Entry) (r : Reading) : IsCountOf (s.record r e.switches.warmup) (counted ++ [e]) := by
  obtain ⟨hframes, hwarmups⟩ := s.counts_record r e.switches.warmup
  constructor
  · rw [hframes, h.frames, List.length_append, List.length_singleton]
    omega
  · rw [hwarmups, h.warmups, List.map_append, List.map_singleton, warmupsAmong_concat]

/-- Where the warm-up stays what it is, the frames seen after it are measured. -/
theorem IsCountOf.of_constant {s : FrameStats} {counted : List Entry} (h : IsCountOf s counted)
    {warmup : Nat} (hwarmup : ∀ e ∈ counted, e.switches.warmup = warmup) (hs : s.IsSound) :
    s.warmupCount = min s.frameCount warmup ∧ s.measured = s.frameCount - warmup := by
  have hmin : s.warmupCount = min counted.length warmup := by
    rw [h.warmups, warmupsAmong_eq_min (by simpa using hwarmup), List.length_map]
  have hframes := h.frames
  have hle := hs.warmup_le
  -- beyond the greatest count, the warm-up frames are frames only if the warm-up is within it
  have hwarmups : s.warmupCount = min s.frameCount warmup := by omega
  exact ⟨hwarmups, by rw [FrameStats.measured]; omega⟩

namespace Journal

/-- The accounts of a converter are those of its journal. -/
structure IsBalanced (j : Journal) : Prop where
  /-- The switches are those of the converter. -/
  switches : j.switches = j.converter.switches
  /-- The frame number counts the conversions. -/
  frames : j.converter.clock.frameId.toNat = j.conversions % 2 ^ 32
  /-- The statistics of a mode count its recent conversions. -/
  counts : ∀ mode, IsCountOf (j.converter.meter.stats mode) (j.counted mode)
  /-- Warm-up frames are frames. -/
  sound : j.converter.meter.IsSound

variable {j j' : Journal}

theorem after_eq_ok (h : j.after call = .ok j') : ∃ outcome,
    j.converter.answer call = .ok (outcome, j'.converter) ∧ j'.switches = j.switches.after call ∧
      j'.entries = j.entries ++ [⟨j.switches, call, outcome⟩] := by
  obtain ⟨⟨outcome, c'⟩, hanswer, h⟩ := bind_eq_ok.1 h
  cases h
  exact ⟨outcome, hanswer, rfl, rfl⟩

section Entries

variable {e : Entry} (h : j'.entries = j.entries ++ [e])

include h

theorem conversions_of_entries :
    j'.conversions = j.conversions + if e.isConverted then 1 else 0 := by
  rw [conversions, h, List.countP_append, List.countP_singleton]
  rfl

theorem recent_of_entries : j'.recent = if e.call.startsAnew then [] else j.recent ++ [e] := by
  rw [recent, h, List.reverse_append, List.reverse_singleton, List.singleton_append,
    List.takeWhile_cons]
  cases e.call.startsAnew
  · exact List.reverse_cons
  · rfl

theorem counted_of_entries (mode : Mode) : j'.counted mode =
    if e.call.startsAnew then [] else if e.countsFor mode then j.counted mode ++ [e]
    else j.counted mode := by
  rw [counted, recent_of_entries h]
  split
  · rfl
  · rw [List.filter_append, List.filter_singleton]
    cases e.countsFor mode with
    | true => rfl
    | false => exact List.append_nil _

end Entries

theorem ofSettings_eq_ok {settings : Settings} (h : Journal.ofSettings settings = .ok j) :
    ∃ c, Converter.ofSettings settings = .ok c ∧ j = ⟨c, .ofSettings settings, []⟩ := by
  obtain ⟨c, hc, h⟩ := bind_eq_ok.1 h
  cases h
  exact ⟨c, hc, rfl⟩

theorem isBalanced_ofSettings {settings : Settings} (h : Journal.ofSettings settings = .ok j) :
    j.IsBalanced := by
  obtain ⟨c, hc, rfl⟩ := ofSettings_eq_ok h
  have hsound := (isCoherent_ofSettings hc).meter
  obtain ⟨_, -, hc⟩ := bind_eq_ok.1 hc
  cases hc
  obtain ⟨henabled, hwarmup⟩ :=
    (Meter.ofWarmup settings.warmupFrames.toNat).switches_setEnabled settings.benchmark
  refine ⟨?_, rfl, fun mode => ?_, hsound⟩
  · simp only [Converter.switches, henabled, hwarmup]
    rfl
  · have hzero : (Meter.ofWarmup settings.warmupFrames.toNat).stats mode = .zero := by
      cases mode <;> rfl
    rw [Meter.stats_setEnabled, hzero, ite_self]
    exact isCountOf_zero

/-- Each call keeps a journal balanced. -/
theorem IsBalanced.after (hj : j.IsBalanced) (h : j.after call = .ok j') : j'.IsBalanced := by
  obtain ⟨outcome, hanswer, hswitches, hentries⟩ := after_eq_ok h
  have henters := answer_entersAs hanswer
  rw [← hj.switches] at henters
  have hcounted := counted_of_entries hentries
  -- the entry says what happened to the clock and to the statistics of each mode
  refine ⟨hswitches.trans henters.switches.symm, ?_, fun mode => ?_, ?_⟩
  · rw [conversions_of_entries hentries]
    cases hconverted : (⟨j.switches, call, outcome⟩ : Entry).isConverted with
    | true =>
      obtain ⟨ms, hclock⟩ := henters.ticks hconverted
      rw [hclock, FrameClock.tick, UInt32.toNat_add, hj.frames]
      simp
    | false =>
      rw [henters.stands hconverted, hj.frames]
      rfl
  · rw [hcounted]
    cases hanew : call.startsAnew with
    | true =>
      rw [henters.anew hanew]
      exact isCountOf_zero
    | false =>
      cases hcounts : (⟨j.switches, call, outcome⟩ : Entry).countsFor mode with
      | true =>
        obtain ⟨r, hrecord⟩ := henters.records hanew mode hcounts
        rw [hrecord]
        exact (hj.counts mode).record _ r
      | false =>
        rw [henters.keeps hanew mode hcounts]
        exact hj.counts mode
  · exact henters.isSound hj.switches hj.sound

/-! ### Histories -/

theorem converter_after (j : Journal) (call : Call) :
    Journal.converter <$> j.after call = j.converter.after call := by
  unfold Journal.after Converter.after
  cases j.converter.answer call <;> rfl

/-- Keeping a journal makes no difference to a converter. -/
theorem converter_afterAll (j : Journal) (history : List Call) :
    Journal.converter <$> j.afterAll history = j.converter.afterAll history := by
  induction history generalizing j with
  | nil => rfl
  | cons call history ih =>
    rw [afterAll, Converter.afterAll, List.foldlM_cons, List.foldlM_cons, ← converter_after]
    cases j.after call with
    | error e => rfl
    | ok j₁ => exact ih j₁

theorem calls_afterAll {start : Journal} {history : List Call}
    (h : start.afterAll history = .ok j) :
    j.entries.map Entry.call = start.entries.map Entry.call ++ history := by
  induction history generalizing start with
  | nil => cases h; exact (List.append_nil _).symm
  | cons call history ih =>
    rw [afterAll, List.foldlM_cons] at h
    obtain ⟨j₁, hcall, h⟩ := bind_eq_ok.1 h
    obtain ⟨outcome, -, -, hentries⟩ := after_eq_ok hcall
    simp [ih h, hentries]

/-- **The accounts of any run.**  After any history of calls to a new converter the frame number is
the number of conversions modulo `2 ^ 32`.  For each mode the frame count is the number of
conversions in it that were measured since the statistics last started anew, up to the greatest
count; the warm-up count has grown at those of them where it was below the warm-up then in force,
and never exceeds the frame count.  With one warm-up for all of them it is the lesser of both, and
what is measured is the rest.

The next call changes the statistics of a mode only by starting all statistics anew or by a
conversion in this mode that is measured, and the clock only by a conversion. -/
theorem accounts_afterAll {settings : Settings} {start : Journal}
    (hstart : Journal.ofSettings settings = .ok start) (history : List Call) :
    Journal.converter <$> start.afterAll history = start.converter.afterAll history ∧
    ((∀ call ∈ history, call.IsModerate) → ∃ j, start.afterAll history = .ok j) ∧
    ∀ j, start.afterAll history = .ok j →
      j.entries.map Entry.call = history ∧
      j.converter.clock.frameId.toNat = j.conversions % 2 ^ 32 ∧
      (∀ mode, let stats := j.converter.meter.stats mode
        stats.frameCount = min (j.counted mode).length FrameStats.frameLimit ∧
        stats.warmupCount = warmupsAmong ((j.counted mode).map fun e => e.switches.warmup) ∧
        stats.warmupCount ≤ stats.frameCount ∧
        ∀ warmup, (∀ e ∈ j.counted mode, e.switches.warmup = warmup) →
          stats.warmupCount = min stats.frameCount warmup ∧
          stats.measured = stats.frameCount - warmup) ∧
      ∀ call outcome c', j.converter.answer call = .ok (outcome, c') →
        (outcome.any Outcome.isConverted = false → c'.clock = j.converter.clock) ∧
        ∀ mode, call.startsAnew = false →
          (outcome.any Outcome.isConverted = true → j.converter.meter.enabled = true →
            j.converter.mode ≠ mode) →
          c'.meter.stats mode = j.converter.meter.stats mode := by
  obtain ⟨c, hc, rfl⟩ := ofSettings_eq_ok hstart
  refine ⟨converter_afterAll _ history, fun hmoderate => ?_, fun j hj => ?_⟩
  · -- the converter has such a run, so the journal has
    obtain ⟨c', hafter, -⟩ := (isCoherent_ofSettings hc).afterAll hmoderate
    have hrun := (converter_afterAll ⟨c, .ofSettings settings, []⟩ history).trans hafter
    cases h : afterAll ⟨c, .ofSettings settings, []⟩ history with
    | error e => rw [h] at hrun; cases hrun
    | ok j => exact ⟨j, rfl⟩
  · have hbalanced : j.IsBalanced :=
      run_invariant (fun _ _ _ h hcall => h.after hcall) (isBalanced_ofSettings hstart) hj
    exact ⟨calls_afterAll hj, hbalanced.frames, fun mode => ⟨(hbalanced.counts mode).frames,
      (hbalanced.counts mode).warmups, (hbalanced.sound.stats mode).warmup_le,
      fun _ hwarmup => (hbalanced.counts mode).of_constant hwarmup (hbalanced.sound.stats mode)⟩,
      fun _ _ _ hanswer => ⟨(answer_entersAs hanswer).stands, fun _ hanew hmode =>
        (answer_entersAs hanswer).keeps_of_ne hanew hmode⟩⟩

/-- A frame after the statistics were switched on with a warm-up of none is measured for its
mode. -/
theorem accounts_afterAll_one : ∃ start j : Journal, Journal.ofSettings .default = .ok start ∧
    start.afterAll [.setWarmup 0, .setBenchmark true,
      .convert ⟨#[1, 2], 2, 1, 1, 1⟩ stillReading] = .ok j ∧
    j.converter.clock.frameId.toNat = 1 ∧ (j.converter.meter.stats .vectorized).measured = 1 ∧
    (j.converter.meter.stats .scalar).measured = 0 := by
  obtain ⟨start, j, hstart, hj, hconverter, hcapacity, hswitches, hentries⟩ : ∃ start j : Journal,
      Journal.ofSettings .default = .ok start ∧
      start.afterAll [.setWarmup 0, .setBenchmark true] = .ok j ∧ j.converter.HasHistory ∧
      j.converter.capacity = 19200 ∧ j.switches = ⟨.vectorized, true, 0⟩ ∧
      j.entries = [⟨⟨.vectorized, false, 3⟩, .setWarmup 0, none⟩,
        ⟨⟨.vectorized, false, 0⟩, .setBenchmark true, none⟩] :=
    ⟨_, _, rfl, rfl, ⟨.default, _, [.setWarmup 0, .setBenchmark true], rfl, rfl⟩, rfl, rfl, rfl⟩
  -- the frame has room, so that the third call converts it
  obtain ⟨c', hconvert, -⟩ := hconverter.isCoherent.convert
    (j := ⟨#[1, 2], 2, 1, 1, 1⟩) (by rw [hcapacity]; decide) rfl (Job.isModerate_of_lt (by decide))
    stillReading
  have hrun : start.afterAll [.setWarmup 0, .setBenchmark true,
      .convert ⟨#[1, 2], 2, 1, 1, 1⟩ stillReading] = .ok ⟨c', ⟨.vectorized, true, 0⟩, j.entries ++
        [⟨⟨.vectorized, true, 0⟩, .convert ⟨#[1, 2], 2, 1, 1, 1⟩ stillReading,
          some (.converted 1)⟩]⟩ := by
    have hconcat := run_concat Journal.after hj (.convert ⟨#[1, 2], 2, 1, 1, 1⟩ stillReading)
    refine hconcat.trans ?_
    rw [Journal.after, answer, hconvert, hswitches]
    rfl
  rw [hentries] at hrun
  obtain ⟨-, -, haccounts⟩ := accounts_afterAll hstart [.setWarmup 0, .setBenchmark true,
    .convert ⟨#[1, 2], 2, 1, 1, 1⟩ stillReading]
  obtain ⟨-, hframes, hmodes, -⟩ := haccounts _ hrun
  obtain ⟨hframe, -, -, hmeasured⟩ := hmodes .vectorized
  obtain ⟨hframe', -, -, hmeasured'⟩ := hmodes .scalar
  refine ⟨start, _, hstart, hrun, hframes, ?_, ?_⟩
  · have hwarmup := hmeasured 0 fun e he => by rw [List.mem_singleton.1 he]
    rw [hwarmup.2, hframe]
    rfl
  · have hwarmup := hmeasured' 0 fun e he => absurd he List.not_mem_nil
    rw [hwarmup.2, hframe']
    rfl

end Journal

end Converter

end GlyphMosaic
