import RdfPipeline.Proofs.Decimal.Integer
import RdfPipeline.Proofs.Decimal.Position
import RdfPipeline.Value.Json

/-!
# Integers read from documents

A document may hold unsigned integers that no signed word is. They are kept as the nearest float, and
what is read back from that float as an integer is the largest word.
-/

set_option autoImplicit false

namespace RdfPipeline.Value

open Binary64 (nearest nearest_mono isRepresentable_two_pow)
open Decimal (IsSigned)

/-- Integers beyond the words are cut to the closest one. -/
theorem toInt_clampInteger (value : Int) :
    (clampInteger value).toInt = max Int64.minValue.toInt (min value Int64.maxValue.toInt) := by
  have ordered : Int64.minValue.toInt < 0 ∧ 0 < Int64.maxValue.toInt := by decide
  unfold clampInteger
  split
  next word isWord =>
    have signed := Decimal.isSigned_toInt word
    rw [Decimal.int64?_eq_some_iff.mp isWord]
    unfold IsSigned at signed
    omega
  next isNone =>
    have beyond := Decimal.int64?_eq_none_iff.mp isNone
    unfold IsSigned at beyond
    split <;> omega

theorem nearest_two_pow_63 : nearest 0x8000000000000000 = 0x8000000000000000 :=
  (isRepresentable_two_pow (by decide : 63 ≤ 1024)).nearest_eq

theorem nearest_two_pow_64 : nearest 0x10000000000000000 = 0x10000000000000000 :=
  (isRepresentable_two_pow (by decide : 64 ≤ 1024)).nearest_eq

/-- Rounding to a float never brings an integer beyond the words back among them. -/
theorem maxValue_lt_nearest {value : Int} (beyond : Int64.maxValue.toInt < value) :
    Int64.maxValue.toInt < nearest value := by
  have ordered : 0x8000000000000000 ≤ value := beyond
  have rounded := nearest_mono ordered
  rw [nearest_two_pow_63] at rounded
  exact rounded

theorem natAbs_nearest_lt_overflow {value : Int} (nonneg : 0 ≤ value)
    (upper : value < 0x10000000000000000) : (nearest value).natAbs < Binary64.overflow := by
  obtain ⟨power, isLarge, overflowEq⟩ := Binary64.exists_overflow_eq
  have zero : nearest 0 = 0 := rfl
  have above := nearest_mono nonneg
  have below := nearest_mono (Int.le_of_lt upper)
  rw [zero] at above
  rw [nearest_two_pow_64] at below
  have bounded : (nearest value).natAbs ≤ 2 ^ 64 := by omega
  rw [overflowEq]
  exact Nat.lt_of_le_of_lt bounded (Nat.pow_lt_pow_right (by decide) (by omega : 64 < power))

/-- The integer that a document holds is read as an integer in every case: unchanged if it is that of
a word, and else as the largest word, which it is not. -/
theorem asInteger?_ofJson_integer (value : Int) (lower : -0x8000000000000000 ≤ value)
    (upper : value < 0x10000000000000000) :
    ∃ word, (ofJson (.number (.integer value lower upper))).asInteger? = some word ∧
      word.toInt = min value Int64.maxValue.toInt ∧ (word.toInt = value ↔ IsSigned value) := by
  have isLower : Int64.minValue.toInt ≤ value := lower
  simp only [ofJson, ofNumber]
  split
  next word isWord =>
    have isValue := Decimal.int64?_eq_some_iff.mp isWord
    have signed := Decimal.isSigned_toInt word
    refine ⟨word, rfl, ?_, iff_of_true isValue.symm (isValue ▸ signed)⟩
    rw [isValue, Int.min_eq_left signed.2]
  next isNone =>
    have notSigned := Decimal.int64?_eq_none_iff.mp isNone
    have beyond : Int64.maxValue.toInt < value :=
      Int.lt_of_not_ge fun upperWord => notSigned ⟨isLower, upperWord⟩
    have rounded := maxValue_lt_nearest beyond
    have nonneg : 0 < Int64.maxValue.toInt := by decide
    have read : (Binary64.ofInt value).toInt? = some (nearest value) :=
      Binary64.toInt?_ofInt_of_finite (natAbs_nearest_lt_overflow (by omega) upper)
    have cut : (clampInteger (nearest value)).toInt = min value Int64.maxValue.toInt := by
      rw [toInt_clampInteger, Int.min_eq_right (Int.le_of_lt rounded),
        Int.min_eq_right (Int.le_of_lt beyond)]
      decide
    refine ⟨clampInteger (nearest value), by rw [asInteger?, read]; rfl, cut, ?_⟩
    exact iff_of_false (by omega) notSigned

theorem asInteger?_ofJson_integer_firstUnsigned :
    ∃ word : Int64,
      (ofJson (.number (.integer 0x8000000000000000 (by decide) (by decide)))).asInteger? =
        some word ∧
      word.toInt = 0x7fffffffffffffff ∧ ¬IsSigned 0x8000000000000000 := by
  obtain ⟨word, read, cut, kept⟩ :=
    asInteger?_ofJson_integer 0x8000000000000000 (by decide) (by decide)
  refine ⟨word, read, cut, fun signed => ?_⟩
  exact absurd (cut.symm.trans (kept.mpr signed)) (by decide)

/-- The first integer beyond the words is read from a document as its predecessor, while its digits
are not read as an integer at all. -/
theorem asInteger?_ofJson_ne_firstUnsigned :
    (ofJson (.ofNat 0x8000000000000000)).asInteger? = some Int64.maxValue ∧
    Int64.maxValue.toInt ≠ 0x8000000000000000 ∧
    (Value.text "9223372036854775808").asInteger? = none := by
  decide +kernel

end RdfPipeline.Value
