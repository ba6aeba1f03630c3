import GlyphMosaic.CommandLine.Size
import GlyphMosaic.Proofs.Number.Naturals
import GlyphMosaic.Proofs.Texts
import Mathlib.Data.List.TakeWhile

/-!
# Sizes in texts

The texts that a size is read from, and what the others are refused for.

* `Size.SplitsInto` : the texts in front of and behind the first separator of a text.
* `Size.WritesExtent` : a text writes a number of 32 bits, perhaps with blanks around it.
* `Size.readExtent_eq_ok` : such a text is what an extent is read from.
* `Size.read_accepts_or_refuses` : **a size is read from the texts that write it, and from no
  others.**  A text without a separator is refused for that, any other one for its width, its height
  or a zero, in this order.
-/

namespace GlyphMosaic

namespace Size

variable {text : String} {cs front behind : List Char} {w h : UInt32} {m n : Nat}

/-! ### What a size is made of -/

/-- A text has a first separator: what is in front of it, and what is behind it. -/
structure SplitsInto (cs front behind : List Char) : Prop where
  eq : ∃ separator, isSeparator separator ∧ cs = front ++ separator :: behind
  first : ∀ c ∈ front, isSeparator c = false

/-- A text writes a number of 32 bits: digits, perhaps with a plus in front, perhaps with blanks
around. -/
def WritesExtent (cs : List Char) (n : Nat) : Prop :=
  ∃ core, Text.IsTrimmed cs core ∧ Integer.Writes core n ∧ n < 2 ^ 32

theorem splitsInto_iff : SplitsInto cs front behind ↔ ∃ separator,
    (cs.takeWhile fun c => !isSeparator c) = front ∧
      (cs.dropWhile fun c => !isSeparator c) = separator :: behind := by
  simp only [span_eq_iff]
  constructor
  · rintro ⟨⟨separator, hseparator, heq⟩, hfirst⟩
    exact ⟨separator, heq, by simpa using hfirst, by simpa using hseparator⟩
  · rintro ⟨separator, heq, hfirst, hseparator⟩
    exact ⟨⟨separator, by simpa using hseparator, heq⟩, by simpa using hfirst⟩

/-- An extent is read from the texts that write it. -/
theorem readExtent_eq_ok : readExtent cs = .ok n ↔ WritesExtent cs n := by
  rw [readExtent, Integer.readNatural_eq_ok]
  constructor
  · intro hwrites
    exact ⟨_, Text.trim_eq_iff.1 rfl, hwrites⟩
  · rintro ⟨core, htrimmed, hwrites⟩
    rwa [Text.trim_eq_iff.2 htrimmed]

theorem writesExtent_iff_eq (hread : readExtent cs = .ok m) : WritesExtent cs n ↔ n = m := by
  rw [← readExtent_eq_ok, hread, Except.ok.injEq, eq_comm]

theorem not_writesExtent {cause : Integer.Refusal} (hread : readExtent cs = .error cause)
    (n : Nat) : ¬WritesExtent cs n := by
  rw [← readExtent_eq_ok, hread]
  simp

theorem exists_toNat_of_readExtent (hread : readExtent cs = .ok n) : ∃ w : UInt32, n = w.toNat := by
  obtain ⟨_, -, -, hn⟩ := readExtent_eq_ok.1 hread
  exact ⟨n.toUInt32, (UInt32.toNat_ofNat_of_lt' hn).symm⟩

theorem plain_of_isDigit {c : Char} (hc : c.isDigit) :
    Text.isBlank c = false ∧ isSeparator c = false := by
  have hrange : 48 ≤ c.toNat ∧ c.toNat ≤ 57 := by
    simpa [Char.isDigit, UInt32.le_iff_toNat_le] using hc
  constructor
  · simp only [Text.isBlank, Bool.or_eq_false_iff, Bool.and_eq_false_iff, decide_eq_false_iff_not]
    omega
  · have hx : c ≠ 'x' ∧ c ≠ 'X' := by
      constructor <;> rintro rfl <;> simp at hrange
    simp [isSeparator, hx]

theorem writesExtent_repr (hn : n < 2 ^ 32) : WritesExtent n.repr.toList n := by
  have hblank : ∀ c ∈ n.repr.toList, Text.isBlank c = false := by
    intro c hc
    exact (plain_of_isDigit (Numeral.isDigit_of_mem_repr hc)).1
  refine ⟨_, ⟨⟨[], [], by simp⟩, ?_, ?_⟩, .repr n, hn⟩
  · intro c hc
    exact hblank c (List.mem_of_mem_head? hc)
  · intro c hc
    exact hblank c (List.mem_of_mem_getLast? hc)

theorem splitsInto_repr (m n : Nat) :
    SplitsInto (m.repr ++ "x" ++ n.repr).toList m.repr.toList n.repr.toList := by
  refine ⟨⟨'x', by decide, by simp⟩, ?_⟩
  intro c hc
  exact (plain_of_isDigit (Numeral.isDigit_of_mem_repr hc)).2

/-! ### Where a text is split -/

theorem read_of_no_separator (hnone : ∀ c ∈ text.toList, isSeparator c = false) :
    read text = .error (.noSeparator text) := by
  have hdrop : (text.toList.dropWhile fun c => !isSeparator c) = [] := by
    simpa using hnone
  simp only [read, hdrop]

theorem exists_splitsInto (hsome : ¬∀ c ∈ cs, isSeparator c = false) :
    ∃ front behind, SplitsInto cs front behind := by
  cases hdrop : cs.dropWhile fun c => !isSeparator c with
  | nil => exact absurd (by simpa using hdrop) hsome
  | cons separator behind => exact ⟨_, _, splitsInto_iff.2 ⟨separator, rfl, hdrop⟩⟩

theorem not_splitsInto (hnone : ∀ c ∈ cs, isSeparator c = false) : ¬SplitsInto cs front behind := by
  rintro ⟨⟨separator, hseparator, heq⟩, -⟩
  have hmem : separator ∈ cs := by simp [heq]
  rw [hnone separator hmem] at hseparator
  cases hseparator

namespace SplitsInto

theorem exists_iff (hs : SplitsInto cs front behind) {P : List Char → List Char → Prop} :
    (∃ front behind, SplitsInto cs front behind ∧ P front behind) ↔ P front behind := by
  constructor
  · rintro ⟨front', behind', hs', hP⟩
    obtain ⟨c, htake, hdrop⟩ := splitsInto_iff.1 hs
    obtain ⟨c', htake', hdrop'⟩ := splitsInto_iff.1 hs'
    rw [htake] at htake'
    rw [hdrop] at hdrop'
    cases htake'
    cases hdrop'
    exact hP
  · intro hP
    exact ⟨front, behind, hs, hP⟩

/-! ### The cases of a text with a separator -/

section

variable {cause : Integer.Refusal}

theorem read_of_width (hs : SplitsInto text.toList front behind)
    (hwidth : readExtent front = .error cause) : read text = .error (.width cause) := by
  obtain ⟨separator, htake, hdrop⟩ := splitsInto_iff.1 hs
  simp only [read, htake, hdrop, hwidth]
  rfl

theorem read_of_height (hs : SplitsInto text.toList front behind)
    (hwidth : readExtent front = .ok m)
    (hheight : readExtent behind = .error cause) : read text = .error (.height cause) := by
  obtain ⟨separator, htake, hdrop⟩ := splitsInto_iff.1 hs
  simp only [read, htake, hdrop, hwidth, hheight]
  rfl

theorem read_of_extents (hs : SplitsInto text.toList front behind)
    (hwidth : readExtent front = .ok w.toNat) (hheight : readExtent behind = .ok h.toNat) :
    read text = if w.toNat = 0 ∨ h.toNat = 0 then .error .empty else .ok (w, h) := by
  obtain ⟨separator, htake, hdrop⟩ := splitsInto_iff.1 hs
  have hword (v : UInt32) : v.toNat.toUInt32 = v := UInt32.ofNat_toNat
  simp only [read, htake, hdrop, hwidth, hheight, Except.mapError, bind, Except.bind, pure,
    Except.pure, hword]
  simp

end

end SplitsInto

/-- The numbers of a size with a separator between them are read as this size. -/
theorem read_repr (hw : 0 < w) (hh : 0 < h) :
    read (w.toNat.repr ++ "x" ++ h.toNat.repr) = .ok (w, h) := by
  have hread (v : UInt32) : readExtent v.toNat.repr.toList = .ok v.toNat :=
    readExtent_eq_ok.2 (writesExtent_repr v.toNat_lt)
  have hne : ¬(w.toNat = 0 ∨ h.toNat = 0) := by
    simp only [UInt32.lt_iff_toNat_lt, UInt32.toNat_zero] at hw hh
    omega
  rw [(splitsInto_repr w.toNat h.toNat).read_of_extents (hread w) (hread h), if_neg hne]

/-- A size is read from the texts that write it, and from no others: two numbers of 32 bits, neither
of them zero, with a separator between them.  A text without a separator is refused for that, any
other one for what is in front of its first separator if that writes no number, or else for what is
behind it, or else for a zero.  The digits of two numbers with an `x` between them are one of the
texts of a size. -/
theorem read_accepts_or_refuses (text : String) :
    (∀ w h, read text = .ok (w, h) ↔ ∃ front behind, SplitsInto text.toList front behind ∧
      WritesExtent front w.toNat ∧ WritesExtent behind h.toNat ∧ 0 < w ∧ 0 < h) ∧
    (∀ t, read text = .error (.noSeparator t) ↔
      text = t ∧ ∀ c ∈ text.toList, isSeparator c = false) ∧
    ((∃ cause, read text = .error (.width cause)) ↔ ∃ front behind,
      SplitsInto text.toList front behind ∧ ∀ m, ¬WritesExtent front m) ∧
    ((∃ cause, read text = .error (.height cause)) ↔ ∃ front behind,
      SplitsInto text.toList front behind ∧ (∃ m, WritesExtent front m) ∧
      ∀ n, ¬WritesExtent behind n) ∧
    (read text = .error .empty ↔ ∃ front behind, SplitsInto text.toList front behind ∧
      ∃ m n, WritesExtent front m ∧ WritesExtent behind n ∧ (m = 0 ∨ n = 0)) ∧
    ∀ w h : UInt32, 0 < w → 0 < h → read (w.toNat.repr ++ "x" ++ h.toNat.repr) = .ok (w, h) := by
  have hprinted : ∀ w h : UInt32, 0 < w → 0 < h →
      read (w.toNat.repr ++ "x" ++ h.toNat.repr) = .ok (w, h) := fun w h => read_repr
  by_cases hnone : ∀ c ∈ text.toList, isSeparator c = false
  · have hread := read_of_no_separator hnone
    refine ⟨?_, fun t => ?unseparated, ?_, ?_, ?_, hprinted⟩
    case unseparated => simpa [hread] using fun _ => hnone
    all_goals simp [hread, not_splitsInto hnone]
  -- each part is now about the two texts of the one split, and about what is read from them
  · obtain ⟨front, behind, hs⟩ := exists_splitsInto hnone
    simp only [hs.exists_iff, hnone, and_false]
    cases hwidth : readExtent front with
    | error cause =>
      have hread := hs.read_of_width hwidth
      refine ⟨?_, ?_, ?_, ?_, ?_, hprinted⟩ <;> simp [hread, not_writesExtent hwidth]
    | ok m =>
      cases hheight : readExtent behind with
      | error cause =>
        have hread := hs.read_of_height hwidth hheight
        refine ⟨?_, ?_, ?_, ?_, ?_, hprinted⟩ <;>
          simp [hread, writesExtent_iff_eq hwidth, not_writesExtent hheight]
      | ok n =>
        obtain ⟨w, rfl⟩ := exists_toNat_of_readExtent hwidth
        obtain ⟨h, rfl⟩ := exists_toNat_of_readExtent hheight
        have hread := hs.read_of_extents hwidth hheight
        simp only [writesExtent_iff_eq hwidth, writesExtent_iff_eq hheight, UInt32.lt_iff_toNat_lt,
          UInt32.toNat_zero]
        by_cases hzero : w.toNat = 0 ∨ h.toNat = 0
        · rw [if_pos hzero] at hread
          refine ⟨fun w' h' => ?size, ?_, ?_, ?_, ?_, hprinted⟩
          case size =>
            simp only [hread, reduceCtorEq, false_iff]
            omega
          all_goals simp [hread, hzero]
        · rw [if_neg hzero] at hread
          refine ⟨fun w' h' => ?size, ?_, ?_, ?_, ?_, hprinted⟩
          case size =>
            simp only [hread, Except.ok.injEq, Prod.mk.injEq, ← UInt32.toNat_inj]
            omega
          all_goals simp [hread, hzero]

/-- Blanks, a plus and zeros in front of the digits, and a big letter between the numbers; and the
greatest number. -/
theorem read_accepts_or_refuses_spaced :
    read " +007X 8 " = .ok (7, 8) ∧
      read ((4294967295 : UInt32).toNat.repr ++ "x" ++ (1 : UInt32).toNat.repr) =
        .ok (4294967295, 1) := by
  have hs : SplitsInto " +007X 8 ".toList " +007".toList " 8 ".toList :=
    ⟨⟨'X', by decide, rfl⟩, by simp [isSeparator]⟩
  have hwidth : WritesExtent " +007".toList (7 : UInt32).toNat := readExtent_eq_ok.1 rfl
  have hheight : WritesExtent " 8 ".toList (8 : UInt32).toNat := readExtent_eq_ok.1 rfl
  exact ⟨((read_accepts_or_refuses _).1 7 8).2 ⟨_, _, hs, hwidth, hheight, by decide, by decide⟩,
    (read_accepts_or_refuses "").2.2.2.2.2 _ _ (by decide) (by decide)⟩

end Size

end GlyphMosaic
