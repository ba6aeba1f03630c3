import GlyphMosaic.Fault

/-!
# Runs

A run folds one step after another over a list of calls, and ends at the first fault.

* `run_induction` : if each step from a state with an invariant is defined and keeps it, so is and
  does the whole run.
* `run_invariant` : if each step that is defined keeps an invariant, so does a run that is defined.
* `run_concat` : a run with one call more.
* `run_forM` : a run in place is a run on what is in view.
* `run_fault` and `run_eq_error` : if all steps that fault have the same fault, so does the run, and
  it does fault if it has a call that faults in any state.
-/

namespace GlyphMosaic

variable {σ κ : Type} {step : σ → κ → Except Fault σ}

/-- A run is defined and keeps an invariant if every step does. -/
theorem run_induction {I : σ → Prop} {P : κ → Prop}
    (hstep : ∀ s k, I s → P k → ∃ s', step s k = .ok s' ∧ I s') {s : σ} (hs : I s) {calls : List κ}
    (hcalls : ∀ k ∈ calls, P k) : ∃ s', calls.foldlM step s = .ok s' ∧ I s' := by
  induction calls generalizing s with
  | nil => exact ⟨s, rfl, hs⟩
  | cons k calls ih =>
    obtain ⟨s₁, h₁, hs₁⟩ := hstep s k hs (hcalls k List.mem_cons_self)
    obtain ⟨s₂, h₂, hs₂⟩ := ih hs₁ fun k' hk' => hcalls k' (List.mem_cons_of_mem _ hk')
    exact ⟨s₂, by rw [List.foldlM_cons, h₁, ok_bind, h₂], hs₂⟩

/-- A run keeps an invariant, as far as it is defined, if every step does. -/
theorem run_invariant {I : σ → Prop} (hstep : ∀ s k s', I s → step s k = .ok s' → I s') {s s' : σ}
    (hs : I s) {calls : List κ} (h : calls.foldlM step s = .ok s') : I s' := by
  induction calls generalizing s with
  | nil => cases h; exact hs
  | cons k calls ih =>
    rw [List.foldlM_cons] at h
    obtain ⟨s₁, hk, h⟩ := bind_eq_ok.1 h
    exact ih (hstep s k s₁ hs hk) h

theorem run_concat (step : σ → κ → Except Fault σ) {s s' : σ} {calls : List κ}
    (h : calls.foldlM step s = .ok s') (k : κ) : (calls ++ [k]).foldlM step s = step s' k := by
  rw [List.foldlM_append, h, ok_bind, List.foldlM_cons]
  cases step s' k <;> rfl

/-! ### In place -/

section InPlace

variable {α τ : Type} {act : α → InPlace σ Unit} {step : τ → α → Except Fault τ} {view : τ → σ}

/-- Acts that take one view of a state to another, one for each element, fold over the elements. -/
theorem run_forM (h : ∀ t x, (act x).run (view t) = (fun t' => ((), view t')) <$> step t x)
    (xs : List α) (t : τ) :
    (forM xs act).run (view t) = (fun t' => ((), view t')) <$> xs.foldlM step t := by
  induction xs generalizing t with
  | nil => rfl
  | cons x xs ih =>
    rw [List.forM_cons, StateT.run_bind, h, List.foldlM_cons]
    cases step t x with
    | error e => rfl
    | ok t' => exact ih t'

theorem run_forM_array (h : ∀ t x, (act x).run (view t) = (fun t' => ((), view t')) <$> step t x)
    (xs : Array α) (t : τ) :
    (xs.forM act).run (view t) = (fun t' => ((), view t')) <$> xs.foldlM step t := by
  obtain ⟨xs⟩ := xs
  rw [Array.forM_eq_forM, List.forM_toArray, List.forM_eq_forM, ← Array.foldlM_toList]
  exact run_forM h xs t

end InPlace

section Faults

variable {e e' : Fault} {calls : List κ}

theorem run_fault (honly : ∀ s, ∀ k ∈ calls, ∀ e', step s k = .error e' → e' = e) {s : σ}
    (h : calls.foldlM step s = .error e') : e' = e := by
  induction calls generalizing s with
  | nil => cases h
  | cons k calls ih =>
    rw [List.foldlM_cons] at h
    cases hk : step s k with
    | error e₁ =>
      rw [hk, error_bind, Except.error.injEq] at h
      exact h ▸ honly s k List.mem_cons_self e₁ hk
    | ok s₁ =>
      rw [hk, ok_bind] at h
      exact ih (fun s k' hk' => honly s k' (List.mem_cons_of_mem _ hk')) h

theorem run_eq_error (step : σ → κ → Except Fault σ)
    (honly : ∀ s, ∀ k ∈ calls, ∀ e', step s k = .error e' → e' = e) {k : κ} (hk : k ∈ calls)
    (hfault : ∀ s, step s k = .error e) (s : σ) :
    calls.foldlM step s = .error e := by
  induction calls generalizing s with
  | nil => cases hk
  | cons k₁ calls ih =>
    rw [List.foldlM_cons]
    cases h₁ : step s k₁ with
    | error e₁ => rw [error_bind, honly s k₁ List.mem_cons_self e₁ h₁]
    | ok s₁ =>
      -- the call that faults is behind the first one, which does not
      rw [ok_bind]
      rcases List.mem_cons.1 hk with rfl | hk
      · rw [hfault] at h₁; cases h₁
      · exact ih (fun s k' hk' => honly s k' (List.mem_cons_of_mem _ hk')) hk s₁

end Faults

end GlyphMosaic
