import GlyphMosaic.Proofs.Converter.Conversions
import GlyphMosaic.Proofs.Converter.Histories

/-!
# Changes of palette

A converter changes its palette in place and in several steps.  The tables come first, and only they
can be refused, so that a change that is refused has changed nothing.  The tables it keeps between
frames never belong to another charset or exponent than its settings.

* `Palette.ofString_eq_error` : a charset is refused for the number of its characters alone.
* `Tables.run_refresh` and `Converter.run_changePalette` : what the steps come to.
* `Converter.IsAtomicChange` : a palette is changed as a whole or not at all.
* `Converter.HasHistory.changes_palette` : **this is how a converter changes its palette**, whatever
  came before, and the tables that it has are those that its settings give.
-/

namespace GlyphMosaic

/-! ### Charsets -/

namespace Palette

variable {charset : String} {refusal : Refusal}

/-- What is wrong with the number of characters of a charset. -/
def Refusal.Concerns (charset : String) : Refusal → Prop
  | .tooShort size => charset.length = size ∧ size < 2
  | .tooLong size => charset.length = size ∧ 256 < size

/-- A charset is refused for the number of its characters alone. -/
theorem ofString_eq_error : ofString charset = .error refusal ↔ refusal.Concerns charset := by
  have hsize : charset.toList.toArray.size = charset.length := by
    rw [List.size_toArray, String.length_toList]
  unfold ofString
  simp only [hsize]
  cases refusal <;> split
  case tooShort.isTrue | tooLong.isTrue => simp [Refusal.Concerns]; omega
  all_goals split <;> simp [Refusal.Concerns] <;> omega

end Palette

/-! ### Steps in place -/

namespace Palette.Change

theorem run_get_bind {σ α : Type} (f : σ → Change σ α) (s : σ) :
    (get >>= f).run.run s = (f s).run.run s := rfl

end Palette.Change

namespace Tables

theorem ofCharset_eq_error {charset : String} (gamma : Binary32) {refusal : Palette.Refusal} :
    ofCharset charset gamma = .error refusal ↔ refusal.Concerns charset := by
  rw [← Palette.ofString_eq_error, ofCharset]
  cases Palette.ofString charset <;> simp [bind, Except.bind, pure, Except.pure]

theorem run_refresh (t : Tables) (charset : String) (gamma : Binary32) :
    (refresh charset gamma).run.run t =
      match t.ensure charset gamma with
      | .ok (rebuilt, t') => (.ok rebuilt, t')
      | .error refusal => (.error refusal, t) := by
  rw [refresh, Palette.Change.run_get_bind, ensure]
  by_cases hfor : t.isFor charset gamma = true
  · rw [if_pos hfor, if_pos hfor]
    rfl
  · rw [if_neg hfor, if_neg hfor]
    cases ofCharset charset gamma <;> rfl

end Tables

namespace Converter

variable {c : Converter}

/-- The steps of a change come to what is set at once, and to nothing where that is refused. -/
theorem run_changePalette (c : Converter) (charset : String) (gamma : Binary32) :
    (changePalette charset gamma).run.run c =
      match c.setPalette charset gamma with
      | .ok c' => (.ok (), c')
      | .error refusal => (.error refusal, c) := by
  rw [changePalette, Palette.Change.run_get_bind, setPalette]
  cases ht : c.tables with
  | none => cases Tables.ofCharset charset gamma <;> rfl
  | some t =>
    dsimp only
    rw [Tables.run_refresh]
    cases t.ensure charset gamma with
    | ok answer => rfl
    | error refusal =>
      -- the tables that are put back are those that were there
      change (Except.error refusal, { c with tables := some t }) = _
      rw [← ht]
      rfl

theorem after_setPalette (c : Converter) (charset : String) (gamma : Binary32) :
    c.after (.setPalette charset gamma) = .ok ((changePalette charset gamma).run.run c).2 := by
  rw [run_changePalette, after, answer]
  cases c.setPalette charset gamma <;> rfl

/-! ### Changes -/

/-- A palette is changed as a whole or not at all. -/
structure IsAtomicChange (c : Converter) (charset : String) (gamma : Binary32)
    (answer : Except Palette.Refusal Unit) (c' : Converter) : Prop where
  /-- It is refused exactly for what is wrong with the number of characters. -/
  refused_iff : ∀ refusal, answer = .error refusal ↔ refusal.Concerns charset
  /-- Then nothing has changed. -/
  unchanged : ∀ refusal, answer = .error refusal → c' = c
  /-- Else the charset and the exponent of the settings have changed, and the tables with them. -/
  changed : answer = .ok () → ∃ t, Tables.ofCharset charset gamma = .ok t ∧
    c' = { c with tables := some t, settings := { c.settings with charset, gamma } }

/-- A coherent converter changes a palette so. -/
theorem IsCoherent.isAtomicChange (hc : c.IsCoherent) (charset : String) (gamma : Binary32) :
    c.IsAtomicChange charset gamma ((changePalette charset gamma).run.run c).1
      ((changePalette charset gamma).run.run c).2 := by
  rw [run_changePalette, hc.setPalette_eq]
  cases ht : Tables.ofCharset charset gamma with
  | ok t =>
    refine ⟨fun refusal => ?_, fun _ h => (nomatch h), fun _ => ⟨t, ht, rfl⟩⟩
    rw [← Tables.ofCharset_eq_error gamma, ht]
    exact ⟨fun h => (nomatch h), fun h => (nomatch h)⟩
  | error refusal₀ =>
    refine ⟨fun refusal => ?_, fun _ _ => rfl, fun h => nomatch h⟩
    rw [← Tables.ofCharset_eq_error gamma, ht]
    exact ⟨fun h => by cases h; rfl, fun h => by cases h; rfl⟩

/-- **A palette is changed as a whole or not at all, and the tables are never stale.**  After any
history, before `init` as well as after `shutdown`, the tables of a converter, if it has any, are
those that its charset and its exponent give, compared by its bits; if it has none, they can be
built.  A change to any charset and exponent is refused exactly if the charset has fewer than 2 or
more than 256 characters, and has then changed nothing; else it changes the charset, the exponent
and the tables, and nothing else. -/
theorem HasHistory.changes_palette (hc : c.HasHistory) (charset : String) (gamma : Binary32) :
    (∀ t, c.tables = some t → Tables.ofCharset c.settings.charset c.settings.gamma = .ok t) ∧
    Tables.ofCharset c.settings.charset c.settings.gamma = .ok c.currentTables ∧
    ∃ answer c', (changePalette charset gamma).run.run c = (answer, c') ∧
      c.after (.setPalette charset gamma) = .ok c' ∧ c.IsAtomicChange charset gamma answer c' := by
  have hcoherent := hc.isCoherent
  refine ⟨fun t ht => ?_, hcoherent.tables, _, _, rfl, after_setPalette c charset gamma,
    hcoherent.isAtomicChange charset gamma⟩
  have hcurrent : c.currentTables = t := by rw [currentTables, ht]
  exact hcurrent ▸ hcoherent.tables

/-- After a conversion and a shutdown, one glyph is refused with an exponent that is no number, and
two are accepted with a negative zero. -/
theorem HasHistory.changes_palette_stopped : ∃ start c t, ofSettings .default = .ok start ∧
    start.afterAll [.init, .convert unevenJob stillReading, .shutdown] = .ok c ∧
    (changePalette "x" ⟨0x7fc00000⟩).run.run c = (.error (.tooShort 1), c) ∧
    Tables.ofCharset " #" ⟨0x80000000⟩ = .ok t ∧
    (changePalette " #" ⟨0x80000000⟩).run.run c =
      (.ok (), { c with
        tables := some t
        settings := { c.settings with charset := " #", gamma := ⟨0x80000000⟩ } }) := by
  obtain ⟨start, hstart⟩ : ∃ start, ofSettings .default = .ok start := ⟨_, rfl⟩
  have hhistory : ∀ call ∈ [Call.init, .convert unevenJob stillReading, .shutdown],
      call.IsModerate := by
    simp [Call.IsModerate, IsModerate, unevenJob]
  obtain ⟨c, hafter, -⟩ := (isCoherent_ofSettings hstart).afterAll hhistory
  have change := HasHistory.changes_palette ⟨_, start, _, hstart, hafter⟩
  obtain ⟨-, -, answer, c₁, hshort, -, hatomic⟩ := change "x" ⟨0x7fc00000⟩
  have hanswer := (hatomic.refused_iff (.tooShort 1)).2 ⟨by decide, by decide⟩
  obtain ⟨-, -, answer₂, c₂, hpair, -, hatomic₂⟩ := change " #" ⟨0x80000000⟩
  have hanswer₂ : answer₂ = .ok () := by
    cases h : answer₂ with
    | ok => rfl
    | error refusal =>
      have hconcerns := (hatomic₂.refused_iff refusal).1 h
      have hlength : " #".length = 2 := by decide
      cases refusal <;> simp only [Palette.Refusal.Concerns, hlength] at hconcerns <;> omega
  obtain ⟨t, ht, rfl⟩ := hatomic₂.changed hanswer₂
  obtain rfl := hatomic.unchanged _ hanswer
  exact ⟨start, _, t, hstart, hafter, hanswer ▸ hshort, ht, hanswer₂ ▸ hpair⟩

end Converter

end GlyphMosaic
