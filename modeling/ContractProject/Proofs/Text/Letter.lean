import ContractProject.Text.Letter
import Mathlib.Tactic

/-!
Letters, digits and white space have no character in common.
-/

namespace ContractProject.Text

theorem isAsciiLetter_iff (c : Char) :
    isAsciiLetter c ↔ (0x61 ≤ c.toNat ∧ c.toNat ≤ 0x7A) ∨ (0x41 ≤ c.toNat ∧ c.toNat ≤ 0x5A) := by
  simp only [isAsciiLetter, Bool.or_eq_true, Bool.and_eq_true, decide_eq_true_eq, Char.le_def,
    UInt32.le_iff_toNat_le]
  rfl

theorem isAsciiDigit_iff (c : Char) : isAsciiDigit c ↔ 0x30 ≤ c.toNat ∧ c.toNat ≤ 0x39 := by
  simp only [isAsciiDigit, Bool.and_eq_true, decide_eq_true_eq, Char.le_def,
    UInt32.le_iff_toNat_le]
  rfl

theorem isBlank_iff (c : Char) :
    isBlank c ↔ ∃ r ∈ blankRanges, r.1 ≤ c.toNat ∧ c.toNat ≤ r.2 := by
  simp [isBlank]

theorem inRanges_iff (ranges : List (Nat × Nat)) (n : Nat) :
    inRanges ranges n ↔ ∃ r ∈ ranges, r.1 ≤ n ∧ n ≤ r.2 := by
  simp [inRanges]

theorem blankRanges_outside_ascii_graphic : ∀ r ∈ blankRanges, r.2 ≤ 0x20 ∨ 0x80 ≤ r.1 := by
  decide

theorem letterRanges_disjoint_blankRanges :
    ∀ r ∈ letterRanges, ∀ s ∈ blankRanges, r.2 < s.1 ∨ s.2 < r.1 := by
  decide +kernel

theorem not_isBlank_of_ascii_graphic {c : Char} (low : 0x20 < c.toNat) (high : c.toNat < 0x80) :
    isBlank c = false := by
  rw [← Bool.not_eq_true, isBlank_iff]
  rintro ⟨r, hr, h⟩
  have := blankRanges_outside_ascii_graphic r hr
  omega

theorem not_isBlank_of_isLetter {c : Char} (h : isLetter c) : isBlank c = false := by
  unfold isLetter at h
  split at h
  · rw [isAsciiLetter_iff] at h
    exact not_isBlank_of_ascii_graphic (by omega) (by omega)
  · obtain ⟨r, hr, hc⟩ := (inRanges_iff _ _).1 h
    rw [← Bool.not_eq_true, isBlank_iff]
    rintro ⟨s, hs, hb⟩
    have := letterRanges_disjoint_blankRanges r hr s hs
    omega

theorem not_isBlank_of_isAsciiDigit {c : Char} (h : isAsciiDigit c) : isBlank c = false := by
  rw [isAsciiDigit_iff] at h
  exact not_isBlank_of_ascii_graphic (by omega) (by omega)

theorem not_isBlank_of_isAsciiAlphanumeric {c : Char} (h : isAsciiAlphanumeric c) :
    isBlank c = false := by
  rcases (Bool.or_eq_true _ _).mp h with hl | hd
  · rw [isAsciiLetter_iff] at hl
    exact not_isBlank_of_ascii_graphic (by omega) (by omega)
  · exact not_isBlank_of_isAsciiDigit hd

theorem not_isLetter_of_isAsciiDigit {c : Char} (h : isAsciiDigit c) : isLetter c = false := by
  rw [isAsciiDigit_iff] at h
  rw [isLetter, if_pos (by omega), ← Bool.not_eq_true, isAsciiLetter_iff]
  omega

end ContractProject.Text
