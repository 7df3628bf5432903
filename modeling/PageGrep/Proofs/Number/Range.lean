/-
# The range of whole numbers in the binary format

A whole number is rounded at the place that its length tells.  It is beyond the range of the
format just if it is not less than `2 ^ 1024 - 2 ^ 970`, half a step beyond the greatest number
of the format (`Binary64.ofInt?_eq_none_iff`): at that middle the even mantissa is the upper
one, which has one digit too many.
-/
import PageGrep.Number.Binary64

namespace PageGrep.Binary64

/-- The least size of a whole number that is beyond the range. -/
def rangeEnd : Nat := Nat.pow 2 1024 - Nat.pow 2 970

variable {n : Nat}

theorem scale_neg (n k : Nat) : scale n 1 (-(k : Int)) = (n, Nat.pow 2 k) := by
  rw [scale]
  split
  · rename_i hle
    obtain rfl : k = 0 := by omega
    exact congrArg (·, 1) (Nat.mul_one n)
  · rw [Int.neg_neg, Int.toNat_natCast, Nat.one_mul]

theorem floorLog2_one (hn : n ≠ 0) : floorLog2 n 1 = n.log2 := by
  have hle : Nat.pow 2 n.log2 ≤ n := Nat.log2_self_le hn
  have hone : (1 : Nat).log2 = 0 := by decide
  simp only [floorLog2, hone, Int.natCast_zero, Int.sub_zero, scale_neg]
  rw [if_pos hle]

/-- A quotient just below a power of two, which is odd, is rounded to the power from the middle
of its step on. -/
theorem roundDiv_eq_iff {step : Nat} (hstep : 0 < step) (h : n < Nat.pow 2 53 * (2 * step)) :
    roundDiv n (2 * step) = Nat.pow 2 53 ↔ Nat.pow 2 53 * (2 * step) - step ≤ n := by
  have hcount : Nat.pow 2 53 = 9007199254740992 := by decide
  have hdiv := Nat.div_add_mod n (2 * step)
  have hmod : n % (2 * step) < 2 * step := Nat.mod_lt n (by omega)
  have hquot : n / (2 * step) < Nat.pow 2 53 := Nat.div_lt_of_lt_mul (by rwa [Nat.mul_comm])
  rw [hcount] at h hquot ⊢
  rw [roundDiv]
  generalize n / (2 * step) = q at hdiv hquot ⊢
  generalize n % (2 * step) = r at hdiv hmod ⊢
  by_cases hlast : q = 9007199254740991
  · subst hlast
    split
    · omega
    · split
      all_goals
        simp
        omega
  · have hbelow : 2 * step * (q + 1) ≤ 2 * step * 9007199254740991 :=
      Nat.mul_le_mul_left _ (by omega)
    have hno : ¬ 9007199254740992 * (2 * step) - step ≤ n := by
      rw [Nat.mul_add] at hbelow
      omega
    refine iff_of_false ?_ hno
    split
    · omega
    · split
      · omega
      · split <;> omega

theorem ite_eq_infinite_iff {p : Prop} [Decidable p] (negative : Bool) (mantissa : Nat)
    (exponent : Int) :
    (if p then infinite negative else finite negative mantissa exponent) = infinite negative
      ↔ p := by
  by_cases hp : p
  · rw [if_pos hp]
    exact iff_of_true rfl hp
  · rw [if_neg hp]
    exact iff_of_false nofun hp

/-- A number of less than 1024 digits is in the range and one of more is not; of those between,
the ones that are rounded up to one more digit are not. -/
theorem round_eq_infinite_iff (negative : Bool) (hn : n ≠ 0) :
    round negative n 1 = .infinite negative ↔ rangeEnd ≤ n := by
  have hle : Nat.pow 2 n.log2 ≤ n := Nat.log2_self_le hn
  have hlt : n < Nat.pow 2 (n.log2 + 1) := Nat.lt_log2_self
  have hmono {i j : Nat} (h : i ≤ j) : Nat.pow 2 i ≤ Nat.pow 2 j :=
    Nat.pow_le_pow_right (by decide) h
  have hexponent : max ((n.log2 : Int) - 52) (-1074) = n.log2 - 52 := by omega
  rw [round, if_neg hn, floorLog2_one hn]
  simp only [hexponent]
  rw [ite_eq_infinite_iff]
  rcases Nat.lt_trichotomy n.log2 1023 with hshort | hlast | hlong
  · obtain ⟨power, hpow, hend⟩ : ∃ power, Nat.pow 2 (n.log2 + 1) ≤ power ∧ power ≤ rangeEnd :=
      ⟨_, hmono hshort, by decide +kernel⟩
    refine iff_of_false ?_ (Nat.not_le.mpr (Nat.lt_of_lt_of_le hlt (Nat.le_trans hpow hend)))
    clear hlt hpow hend
    split
    all_goals
      dsimp only
      omega
  · -- The middle of the last step is `step` below the number of 1025 digits.
    obtain ⟨step, top, hscale, hpos, htop, hend, hpow⟩ : ∃ step top,
        scale n 1 (-(971 : Int)) = (n, 2 * step) ∧ 0 < step ∧ Nat.pow 2 53 * (2 * step) = top ∧
        rangeEnd = top - step ∧ Nat.pow 2 (1023 + 1) = top := by
      refine ⟨Nat.pow 2 970, Nat.pow 2 1024, (scale_neg n 971).trans (congrArg (n, ·) ?_), ?_⟩
      all_goals decide +kernel
    have hdigits : (n.log2 : Int) - 52 = 971 := by omega
    rw [hlast, hpow, ← htop] at hlt
    rw [hdigits, hscale, hend, ← htop, ← roundDiv_eq_iff hpos hlt]
    by_cases hq : roundDiv n (2 * step) = Nat.pow 2 53
    · rw [if_pos hq]
      exact iff_of_true (show (971 : Int) < 972 by decide) hq
    · rw [if_neg hq]
      exact iff_of_false (show ¬ (971 : Int) < 971 by decide) hq
  · obtain ⟨power, hpow, hend⟩ : ∃ power, power ≤ Nat.pow 2 n.log2 ∧ rangeEnd ≤ power :=
      ⟨_, hmono hlong, by decide +kernel⟩
    refine iff_of_true ?_ (Nat.le_trans hend (Nat.le_trans hpow hle))
    clear hlt hpow hend hle
    split
    all_goals
      dsimp only
      omega

theorem sign_of_round {negative negative' : Bool} (h : round negative n 1 = .infinite negative') :
    negative' = negative := by
  have hite {p : Prop} [Decidable p] {mantissa : Nat} {exponent : Int}
      (h : (if p then infinite negative else finite negative mantissa exponent)
        = infinite negative') : negative' = negative := by
    split at h
    · exact (infinite.inj h).symm
    · nomatch h
  rw [round] at h
  split at h
  · nomatch h
  · exact hite h

/-- A whole number is converted just if its size is below the end of the range. -/
theorem ofInt?_eq_none_iff (i : Int) : ofInt? i = none ↔ rangeEnd ≤ i.natAbs := by
  have hinfinite : ofInt? i = none ↔ ofInt i = .infinite (decide (i < 0)) := by
    rw [ofInt?]
    split
    · rename_i negative h
      exact iff_of_true rfl (sign_of_round h ▸ h)
    · rename_i x hfinite
      exact iff_of_false nofun (hfinite _)
  rw [hinfinite]
  by_cases hzero : i.natAbs = 0
  · have hend : 0 < rangeEnd := by decide +kernel
    rw [ofInt, round, if_pos hzero]
    exact iff_of_false nofun (by omega)
  · exact round_eq_infinite_iff (decide (i < 0)) hzero

end PageGrep.Binary64
