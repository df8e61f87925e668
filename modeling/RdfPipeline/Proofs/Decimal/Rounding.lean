import RdfPipeline.Decimal.Binary64

/-!
# Rounding to binary numbers

Integers of 64 bits round to finite numbers.
-/

set_option autoImplicit false

namespace RdfPipeline.Binary64

theorem divideHalfEven_le (numerator denominator : Nat) :
    divideHalfEven numerator denominator ≤ numerator / denominator + 1 := by
  simp only [divideHalfEven]
  split
  · exact Nat.le_succ _
  · split
    · exact Nat.le_refl _
    · have parity : numerator / denominator % 2 < 2 := Nat.mod_lt _ (by decide)
      omega

theorem isFinite_ofRank {negative : Bool} {rank : Nat} (small : rank < 2047 * fractions) :
    (ofRank negative rank).isFinite = true := by
  have inRange : rank / fractions < 2047 := Nat.div_lt_of_lt_mul (by omega)
  rw [ofRank, dif_pos inRange]
  rfl

theorem floorLog2_one {numerator : Nat} (positive : numerator ≠ 0) :
    floorLog2 numerator 1 = numerator.log2 := by
  have logOfOne : Nat.log2 1 = 0 := by decide
  have reached : 1 * Nat.pow 2 numerator.log2 ≤ numerator := by
    rw [Nat.one_mul]
    exact Nat.log2_self_le positive
  simp only [floorLog2, logOfOne, Int.natCast_zero, Int.sub_zero, Int.toNat_natCast]
  rw [if_pos]
  rw [if_pos (Int.natCast_nonneg _)]
  exact reached

/-- The significand of a rounded integer may reach the next power of two. -/
theorem divideHalfEven_significand_le {magnitude : Nat} (wide : 52 ≤ magnitude.log2) :
    divideHalfEven magnitude (1 * Nat.pow 2 (magnitude.log2 - 52)) ≤ 2 * fractions := by
  have below : magnitude < Nat.pow 2 (magnitude.log2 - 52) * (2 * fractions) := by
    have power : Nat.pow 2 (magnitude.log2 - 52) * (2 * fractions) =
        Nat.pow 2 (magnitude.log2 + 1) := by
      have split : magnitude.log2 + 1 = magnitude.log2 - 52 + 53 := by omega
      rw [split]
      exact (Nat.pow_add 2 (magnitude.log2 - 52) 53).symm
    rw [power]
    exact Nat.lt_log2_self
  have quotient : magnitude / Nat.pow 2 (magnitude.log2 - 52) < 2 * fractions :=
    Nat.div_lt_of_lt_mul below
  rw [Nat.one_mul]
  exact Nat.le_trans (divideHalfEven_le _ _) quotient

theorem isFinite_ofInt {value : Int} (large : Nat.pow 2 52 ≤ value.natAbs)
    (small : value.natAbs < Nat.pow 2 64) : (ofInt value).isFinite = true := by
  have positive : value.natAbs ≠ 0 := by
    intro zero
    rw [zero] at large
    exact absurd large (by decide)
  have wide : 52 ≤ value.natAbs.log2 := (Nat.le_log2 positive).mpr large
  have narrow : value.natAbs.log2 < 64 := (Nat.log2_lt positive).mpr small
  have bounded := divideHalfEven_significand_le wide
  have power : max ((value.natAbs.log2 : Int) - 52) (-1074) =
      ((value.natAbs.log2 - 52 : Nat) : Int) := by
    omega
  rw [ofInt, ofRatio, if_neg (by omega), floorLog2_one positive]
  simp only [power, Int.natCast_nonneg, if_true, Int.toNat_natCast]
  apply isFinite_ofRank
  have rank : ((value.natAbs.log2 - 52 : Nat) + 1074 : Int).toNat ≤ 1085 := by omega
  have scaled := Nat.mul_le_mul_right fractions rank
  have slack : 1085 * fractions + 2 * fractions < 2047 * fractions := by decide
  exact Nat.lt_of_le_of_lt (Nat.add_le_add scaled bounded) slack

end RdfPipeline.Binary64
