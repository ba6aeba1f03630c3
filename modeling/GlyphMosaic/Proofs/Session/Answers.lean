import GlyphMosaic.Files.FileTree
import GlyphMosaic.Main
import Mathlib.Tactic.Choose

/-!
# Computations that answer

A session runs in whatever monad its clocks belong to, and what it computes should not depend on
them.

* `Gives` : a computation does not fault and its value has a property, whatever happens outside.
* `Stopwatch.IsFair` : the value of timed work is that of the work, and only the clocks are the
  stopwatch's own.  So it is with steady clocks, in scenes and on the machine.
* `gives_timed` : timed work gives its value.
-/

namespace GlyphMosaic

variable {m : Type → Type} [Monad m] {α β : Type}

/-- A computation does not fault, and its value has a property. -/
def Gives (x : ExceptT Fault m α) (P : α → Prop) : Prop :=
  ∃ y : m { a // P a }, x.run = (fun a => .ok a.1) <$> y

/-- A stopwatch hands on the value of the work; when it was done, the clocks alone decide. -/
def Stopwatch.IsFair (watch : Stopwatch m) : Prop :=
  ∀ (α : Type) (work : Unit → α), ∃ clocks : m Reading,
    watch.timed work = (fun reading => (work (), reading)) <$> clocks

section

variable [LawfulMonad m] {P P' : α → Prop} {Q : β → Prop} {x : ExceptT Fault m α}

theorem gives_pure {a : α} (h : P a) : Gives (pure a : ExceptT Fault m α) P :=
  ⟨pure ⟨a, h⟩, by simp⟩

theorem Gives.bind (hx : Gives x P) {f : α → ExceptT Fault m β} (hf : ∀ a, P a → Gives (f a) Q) :
    Gives (x >>= f) Q := by
  obtain ⟨y, hy⟩ := hx
  have hf' : ∀ a : { a // P a }, Gives (f a.1) Q := fun a => hf a.1 a.2
  choose g hg using hf'
  exact ⟨y >>= g, by simp only [ExceptT.run_bind, hy, bind_map_left, map_bind, hg]⟩

theorem Gives.mono (hx : Gives x P) (h : ∀ a, P a → P' a) : Gives x P' := by
  obtain ⟨y, hy⟩ := hx
  exact ⟨(fun a => ⟨a.1, h a.1 a.2⟩) <$> y, by simp [hy]⟩

theorem gives_of_eq_ok {x : Except Fault α} {a : α} (hx : x = .ok a) (h : P a) :
    Gives (liftM x : ExceptT Fault m α) P := by
  subst hx
  exact gives_pure h

theorem gives_timed {watch : Stopwatch m} (hwatch : watch.IsFair) (work : Unit → α) :
    Gives (liftM (watch.timed work) : ExceptT Fault m (α × Reading)) fun a => a.1 = work () := by
  obtain ⟨clocks, h⟩ := hwatch _ work
  refine ⟨(fun reading => ⟨(work (), reading), rfl⟩) <$> clocks, ?_⟩
  simp [h, Except.map]

end

/-- Where there is nothing outside, there is just one value. -/
theorem Gives.exists_eq {x : ExceptT Fault Id α} {P : α → Prop} (hx : Gives x P) :
    ∃ a, x.run = .ok a ∧ P a := by
  obtain ⟨y, hy⟩ := hx
  exact ⟨y.1, hy, y.2⟩

namespace Stopwatch

theorem isFair_steady (r : Reading) : (steady r).IsFair := fun _ _ => ⟨r, rfl⟩

theorem isFair_scene {watch : Stopwatch Id} (hwatch : watch.IsFair) :
    (Scene.host watch).watch.IsFair := by
  intro α work
  obtain ⟨clocks, h⟩ := hwatch _ work
  refine ⟨pure clocks, ?_⟩
  rw [map_pure]
  exact congrArg pure h

theorem isFair_realHost : realHost.watch.IsFair := by
  intro α work
  refine ⟨do
    let start ← IO.monoNanosNow
    let stop ← IO.monoNanosNow
    let passed := stop - start
    return ⟨⟨passed / 1000000000, passed % 1000000000⟩, stop, (stop / 1000000).toFloat⟩, ?_⟩
  funext world
  rfl

end Stopwatch

end GlyphMosaic
