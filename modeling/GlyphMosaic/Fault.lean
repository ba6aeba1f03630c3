import GlyphMosaic.Number.Power

/-!
# Breaches of a call's contract

Some operations are only defined where their arguments fit: an index must lie inside an array, a
32-bit product must not exceed its word.  Such an operation answers with a `Fault` where it is not
defined, so that a statement about it can say exactly where that is.
-/

namespace GlyphMosaic

/-- How a call left the domain of its operation. -/
inductive Fault where
  /-- An index past the end of an array. -/
  | outOfRange
  /-- A number that does not fit its word. -/
  | overflow
  /-- Fewer pixels than the dimensions call for. -/
  | shortSource
  /-- An array of `2 ^ 63` bytes or more. -/
  | noRoom
  deriving DecidableEq

/-- `n`, provided that it fits a word of `bits` bits. -/
def fitting (bits n : Nat) : Except Fault Nat :=
  if n < 2 ^ bits then .ok n else .error .overflow

/-- `a - b`, provided that it is not negative. -/
def difference (a b : Nat) : Except Fault Nat :=
  if b ≤ a then .ok (a - b) else .error .overflow

/-- `n`, provided that an array of `n` elements of `bytes` bytes each can be asked for. -/
def roomFor (bytes n : Nat) : Except Fault Nat :=
  if bytes * n < 2 ^ 63 then .ok n else .error .noRoom

/-- The element at an index, provided that there is one. -/
def fetch {α : Type} (xs : Array α) (i : Nat) : Except Fault α :=
  match xs[i]? with
  | some x => .ok x
  | none => .error .outOfRange

/-- A change in place of a state; a fault leaves none. -/
abbrev InPlace (σ : Type) := StateT σ (Except Fault)

/-! ### Where the operations are defined -/

@[simp] theorem fitting_eq_ok {bits n m : Nat} : fitting bits n = .ok m ↔ n < 2 ^ bits ∧ n = m := by
  unfold fitting; split <;> rename_i h <;> simp [h]

@[simp] theorem fetch_eq_ok {α : Type} {xs : Array α} {i : Nat} {x : α} :
    fetch xs i = .ok x ↔ xs[i]? = some x := by
  unfold fetch; split <;> simp_all

theorem fitting_of_lt {bits n : Nat} (h : n < 2 ^ bits) : fitting bits n = .ok n := if_pos h

theorem fitting_of_le {bits n : Nat} (h : 2 ^ bits ≤ n) : fitting bits n = .error .overflow :=
  if_neg (Nat.not_lt.2 h)

theorem roomFor_of_lt {bytes n : Nat} (h : bytes * n < 2 ^ 63) : roomFor bytes n = .ok n := if_pos h

theorem roomFor_of_le {bytes n : Nat} (h : 2 ^ 63 ≤ bytes * n) : roomFor bytes n = .error .noRoom :=
  if_neg (Nat.not_lt.2 h)

theorem difference_of_le {a b : Nat} (h : b ≤ a) : difference a b = .ok (a - b) := if_pos h

theorem fetch_of_lt {α : Type} {xs : Array α} {i : Nat} (h : i < xs.size) (d : α) :
    fetch xs i = .ok (xs.getD i d) := by
  simp [h]

theorem fetch_of_size_le {α : Type} {xs : Array α} {i : Nat} (h : xs.size ≤ i) :
    fetch xs i = .error .outOfRange := by
  unfold fetch; rw [Array.getElem?_eq_none h]

/-! ### Sequencing -/

section

variable {α β : Type}

@[simp] theorem ok_bind (a : α) (f : α → Except Fault β) : (Except.ok a >>= f) = f a := rfl

@[simp] theorem error_bind (e : Fault) (f : α → Except Fault β) :
    (Except.error e >>= f) = .error e := rfl

@[simp] theorem map_ok (f : α → β) (a : α) : f <$> (Except.ok a : Except Fault α) = .ok (f a) := rfl

@[simp] theorem map_error (f : α → β) (e : Fault) :
    f <$> (Except.error e : Except Fault α) = .error e := rfl

@[simp] theorem pure_eq_ok (a : α) : (pure a : Except Fault α) = .ok a := rfl

/-- A sequence is defined where its second part is, at what its first part gives. -/
theorem bind_eq_ok {ε : Type} {x : Except ε α} {f : α → Except ε β} {b : β} :
    (x >>= f) = .ok b ↔ ∃ a, x = .ok a ∧ f a = .ok b := by
  cases x with
  | error e => exact ⟨fun h => (nomatch h), fun ⟨_, h, _⟩ => (nomatch h)⟩
  | ok a => exact ⟨fun h => ⟨a, rfl, h⟩, fun ⟨_, ha, h⟩ => Except.ok.inj ha ▸ h⟩

theorem map_eq_ok {ε : Type} {x : Except ε α} {f : α → β} {b : β} :
    f <$> x = .ok b ↔ ∃ a, x = .ok a ∧ f a = b := by
  cases x with
  | error e => exact ⟨fun h => (nomatch h), fun ⟨_, h, _⟩ => (nomatch h)⟩
  | ok a => exact ⟨fun h => ⟨a, rfl, Except.ok.inj h⟩, fun ⟨_, ha, h⟩ => Except.ok.inj ha ▸ h ▸ rfl⟩

/-- A sequence fails where its first part does, or else its second part. -/
theorem bind_eq_error {ε : Type} {x : Except ε α} {f : α → Except ε β} {e : ε} :
    (x >>= f) = .error e ↔ x = .error e ∨ ∃ a, x = .ok a ∧ f a = .error e := by
  cases x with
  | error e' =>
    constructor
    · exact fun h => .inl (congrArg _ (Except.error.inj h))
    · rintro (h | ⟨_, h, -⟩)
      · cases h; rfl
      · cases h
  | ok a =>
    constructor
    · exact fun h => .inr ⟨a, rfl, h⟩
    · rintro (h | ⟨_, ha, h⟩)
      · cases h
      · cases ha; exact h

end

end GlyphMosaic
