import GlyphMosaic.Number.Integer

/-!
# Natural numbers in texts

Which texts a natural number is read from, and which number it is.

* `Integer.Writes` : a text is a natural number as it can be written.
* `Integer.Writes.repr` : the usual digits of a number are one way to write it.
* `Integer.readNatural_eq_ok` : **a number is read from the texts that write it, if it has few
  enough bits**, and from no others.
-/

namespace GlyphMosaic

namespace Numeral

variable {n : Nat} {c : Char}

/-- The number that digits write behind the digits of `n`. -/
def behind (n : Nat) (digits : List Char) : Nat := digits.foldl (fun n c => 10 * n + digitValue c) n

theorem ofDigits_eq_behind (digits : List Char) : ofDigits digits = behind 0 digits := rfl

@[simp] theorem behind_nil (n : Nat) : behind n [] = n := rfl

@[simp] theorem behind_cons (n : Nat) (c : Char) (digits : List Char) :
    behind n (c :: digits) = behind (10 * n + digitValue c) digits := by
  rw [behind, List.foldl_cons, behind]

theorem le_behind (n : Nat) (digits : List Char) : n ≤ behind n digits := by
  induction digits generalizing n with
  | nil => exact Nat.le_refl n
  | cons c digits ih =>
    calc n ≤ 10 * n + digitValue c := by omega
      _ ≤ behind (10 * n + digitValue c) digits := ih _

/-! ### The usual digits of a number -/

theorem repr_ne_nil (n : Nat) : n.repr.toList ≠ [] := by
  rw [Nat.toList_repr]
  exact Nat.toDigits_ne_nil

theorem isDigit_of_mem_repr (hc : c ∈ n.repr.toList) : c.isDigit := by
  rw [Nat.toList_repr] at hc
  exact Nat.isDigit_of_mem_toDigits (by decide) (by decide) hc

theorem ofDigits_repr (n : Nat) : ofDigits n.repr.toList = n := by
  rw [Nat.toList_repr]
  exact Nat.ofDigitChars_eq_foldl.symm.trans Nat.ofDigitChars_ten_toDigits

end Numeral

namespace Integer

variable {greatest bits n m : Nat} {beyond : Refusal} {c : Char} {cs digits : List Char}

/-! ### Digits -/

/-- Digits behind a number of the range are read as the number that they write there, which is no
greater than the greatest one only if none of the numbers on the way is. -/
theorem extend_eq_ok (hm : m ≤ greatest) : extend greatest beyond m digits = .ok n ↔
    (∀ c ∈ digits, c.isDigit) ∧ Numeral.behind m digits = n ∧ n ≤ greatest := by
  induction digits generalizing m with
  | nil =>
    have hnil : extend greatest beyond m [] = .ok m := rfl
    rw [hnil, Numeral.behind_nil, Except.ok.injEq]
    constructor
    · rintro rfl
      exact ⟨by simp, rfl, hm⟩
    · exact fun h => h.2.1
  | cons c digits ih =>
    by_cases hc : c.isDigit
    · by_cases hnext : greatest < 10 * m + Numeral.digitValue c
      · have hle := Numeral.le_behind (10 * m + Numeral.digitValue c) digits
        have hbeyond : extend greatest beyond m (c :: digits) = .error beyond := by
          simp [extend, hc, hnext]
        rw [hbeyond, Numeral.behind_cons]
        constructor
        · exact fun h => nomatch h
        · rintro ⟨-, rfl, hn⟩
          omega
      · simp [extend, hc, hnext, ih (Nat.not_lt.1 hnext)]
    · simp [extend, hc]

theorem magnitude_eq_ok : magnitude greatest beyond digits = .ok n ↔
    digits ≠ [] ∧ (∀ c ∈ digits, c.isDigit) ∧ Numeral.ofDigits digits = n ∧ n ≤ greatest := by
  cases digits with
  | nil => simp [magnitude]
  | cons c digits => simp [magnitude, Numeral.ofDigits_eq_behind, extend_eq_ok]

/-! ### Natural numbers -/

/-- A text writes a natural number: it is one digit or more, perhaps with a plus in front. -/
def Writes (cs : List Char) (n : Nat) : Prop :=
  ∃ digits, (cs = digits ∨ cs = '+' :: digits) ∧ digits ≠ [] ∧ (∀ c ∈ digits, c.isDigit) ∧
    Numeral.ofDigits digits = n

theorem Writes.repr (n : Nat) : Writes n.repr.toList n :=
  ⟨_, .inl rfl, Numeral.repr_ne_nil n, fun _ => Numeral.isDigit_of_mem_repr,
    Numeral.ofDigits_repr n⟩

theorem writes_plus : Writes ('+' :: digits) n ↔
    digits ≠ [] ∧ (∀ c ∈ digits, c.isDigit) ∧ Numeral.ofDigits digits = n := by
  constructor
  · rintro ⟨_, rfl | heq, hne, hdigits, hn⟩
    · exact absurd (hdigits '+' List.mem_cons_self) (by decide)
    · cases heq
      exact ⟨hne, hdigits, hn⟩
  · exact fun ⟨hne, hdigits, hn⟩ => ⟨digits, .inr rfl, hne, hdigits, hn⟩

theorem writes_of_ne_plus (h : ∀ digits, cs ≠ '+' :: digits) : Writes cs n ↔
    cs ≠ [] ∧ (∀ c ∈ cs, c.isDigit) ∧ Numeral.ofDigits cs = n := by
  constructor
  · rintro ⟨_, rfl | heq, hne, hdigits, hn⟩
    · exact ⟨hne, hdigits, hn⟩
    · exact absurd heq (h _)
  · exact fun ⟨hne, hdigits, hn⟩ => ⟨cs, .inl rfl, hne, hdigits, hn⟩

/-- A number is read from the texts that write it, if it has few enough bits, and from no others. -/
theorem readNatural_eq_ok : readNatural bits cs = .ok n ↔ Writes cs n ∧ n < 2 ^ bits := by
  have hpos := Nat.two_pow_pos bits
  have hle : n ≤ 2 ^ bits - 1 ↔ n < 2 ^ bits := by omega
  unfold readNatural
  split
  · simp [writes_of_ne_plus]
  · rw [magnitude_eq_ok, writes_plus, hle]
    simp only [and_assoc]
  · rename_i hne hplus
    rw [magnitude_eq_ok, writes_of_ne_plus fun digits h => hplus digits h, hle]
    simp only [and_assoc]

end Integer

end GlyphMosaic
