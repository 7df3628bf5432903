/-
# Blanks and words

A set of code points is asked by bisection on the list of its boundaries.  Whatever the list is,
the bisection ends between two neighbours of the list that have the code point between them
(`isCut_countUpTo`), so a code point is inside a set only if it lies in one of the stretches of
the set (`exists_of_inside`).  The blanks lie in ten short stretches, and none of them is a
character of words (`isWord_of_isBlank`).
-/
import PageGrep.Text.Blank
import PageGrep.Text.Letter

namespace PageGrep.Text

/-- A code point belongs between the entries before `k` and `k` of a list, as far as those from
`lo` up to `hi` tell. -/
structure IsCut (boundaries : Array Nat) (c lo hi k : Nat) : Prop where
  lower : lo ≤ k
  upper : k ≤ hi
  before : lo < k → boundaries.getD (k - 1) 0 ≤ c
  after : k < hi → c < boundaries.getD k 0

theorem isCut_countUpTo (boundaries : Array Nat) (c lo hi : Nat) (h : lo ≤ hi) :
    IsCut boundaries c lo hi (countUpTo boundaries c lo hi) := by
  fun_induction countUpTo boundaries c lo hi with
  | case1 lo hi hlt mid hle ih =>
      have hmid : lo ≤ mid ∧ mid < hi := by omega
      have hcut := ih hmid.2
      refine ⟨by have := hcut.lower; omega, hcut.upper, fun _ => ?_, hcut.after⟩
      rcases Nat.eq_or_lt_of_le hcut.lower with heq | hbelow
      · rw [← heq, Nat.add_sub_cancel]
        exact hle
      · exact hcut.before hbelow
  | case2 lo hi hlt mid hgt ih =>
      have hmid : lo ≤ mid ∧ mid < hi := by omega
      have hcut := ih hmid.1
      refine ⟨hcut.lower, by have := hcut.upper; omega, hcut.before, fun _ => ?_⟩
      rcases Nat.eq_or_lt_of_le hcut.upper with heq | habove
      · rw [heq]
        exact Nat.not_le.mp hgt
      · exact hcut.after habove
  | case3 lo hi hge => exact ⟨Nat.le_refl lo, h, fun hlt => absurd hlt (Nat.lt_irrefl lo), hge.elim⟩

/-- What is inside a set lies between a boundary where the set starts and the next one. -/
theorem exists_of_inside {boundaries : Array Nat} {c : Nat} (h : inside boundaries c = true) :
    ∃ k < boundaries.size, k % 2 = 0 ∧ boundaries.getD k 0 ≤ c ∧
      (k + 1 < boundaries.size → c < boundaries.getD (k + 1) 0) := by
  have hodd := beq_iff_eq.mp h
  have hcut := isCut_countUpTo boundaries c 0 boundaries.size (Nat.zero_le _)
  generalize countUpTo boundaries c 0 boundaries.size = n at hodd hcut
  obtain ⟨k, rfl⟩ : ∃ k, n = k + 1 := Nat.exists_eq_add_one.mpr (by omega)
  exact ⟨k, hcut.upper, by omega, hcut.before (Nat.succ_pos k), hcut.after⟩

theorem isWord_of_isBlank {c : Nat} (h : isBlank c = true) : isWord c = false := by
  obtain ⟨k, hk, heven, hlow, hhigh⟩ := exists_of_inside h
  -- the list has an even number of entries, so every stretch has an end
  have hall : ∀ k < blankBoundaries.size, k % 2 = 0 → k + 1 < blankBoundaries.size ∧
      ∀ i < blankBoundaries.getD (k + 1) 0 - blankBoundaries.getD k 0,
        isWord (blankBoundaries.getD k 0 + i) = false := by
    decide +kernel
  obtain ⟨hend, hstretch⟩ := hall k hk heven
  have hword := hstretch (c - blankBoundaries.getD k 0) (by have := hhigh hend; omega)
  rwa [Nat.add_sub_cancel' hlow] at hword

end PageGrep.Text
