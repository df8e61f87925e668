import RdfPipeline.Decimal.Reading
import RdfPipeline.Proofs.Text.Blank

/-!
# Decimal digits

The digits of written integers, the number that digits denote, and where a run of digits ends.
-/

set_option autoImplicit false

namespace RdfPipeline.Text

/-! ## Single digits -/

theorem isDigit_eq (c : Char) : isDigit c = c.isDigit := by
  unfold isDigit digitValue? Char.isDigit
  rw [Bool.eq_iff_iff, Option.isSome_ite, Bool.and_eq_true, decide_eq_true_eq, decide_eq_true_eq]
  rfl

theorem isDigit_of_mem_toDigits {c : Char} {value : Nat} (member : c ∈ Nat.toDigits 10 value) :
    isDigit c = true := by
  rw [isDigit_eq]
  exact Nat.isDigit_of_mem_toDigits (by decide) (by decide) member

theorem digitValue?_eq {c : Char} (digit : isDigit c = true) :
    digitValue? c = some (c.toNat - '0'.toNat) := by
  unfold isDigit at digit
  unfold digitValue? at digit ⊢
  split at digit
  next within => exact if_pos within
  next => cases digit

theorem not_isBlank_of_isDigit {c : Char} (digit : isDigit c = true) : isBlank c = false := by
  rw [isDigit_eq, Char.isDigit_iff_toNat] at digit
  have zero : '0'.toNat = 48 := rfl
  have nine : '9'.toNat = 57 := rfl
  exact not_isBlank_of_graphic (by omega) (by omega)

/-! ## Written integers -/

theorem decimalValue_eq {digits : List Char} (each : ∀ c ∈ digits, isDigit c = true) :
    decimalValue digits = Nat.ofDigitChars 10 digits 0 := by
  unfold decimalValue Nat.ofDigitChars
  apply List.foldl_ext
  intro value c member
  rw [digitValue?_eq (each c member)]
  rfl

theorem le_ofDigitChars (value : Nat) (digits : List Char) :
    value ≤ Nat.ofDigitChars 10 digits value := by
  induction digits generalizing value with
  | nil => exact Nat.le_refl value
  | cons c digits ih =>
      rw [Nat.ofDigitChars_cons]
      exact Nat.le_trans (by omega) (ih _)

theorem decimalValue_toDigits (value : Nat) : decimalValue (Nat.toDigits 10 value) = value := by
  rw [decimalValue_eq fun _ member => isDigit_of_mem_toDigits member, Nat.ofDigitChars_ten_toDigits]

theorem toList_toString (value : Int) :
    (toString value).toList =
      if value < 0 then '-' :: Nat.toDigits 10 value.natAbs else Nat.toDigits 10 value.natAbs := by
  rw [Int.toString_eq_repr, Int.repr_eq_if]
  split
  next nonnegative =>
    have magnitude : value.toNat = value.natAbs := by omega
    rw [if_neg (by omega), Nat.repr_eq_ofList_toDigits, String.toList_ofList, magnitude]
  next below =>
    have magnitude : (-value).toNat = value.natAbs := by omega
    have sign : "-".toList = ['-'] := rfl
    rw [if_pos (by omega), String.toList_append, sign, Nat.repr_eq_ofList_toDigits,
      String.toList_ofList, magnitude]
    rfl

/-! ## Runs of digits -/

/-- No run of digits goes on here. -/
def EndsDigits (rest : List Char) : Prop :=
  ∀ c ∈ rest.head?, isDigit c = false

section Runs

variable {digits rest : List Char}

theorem takeWhile_digits (each : ∀ c ∈ digits, isDigit c = true) (ends : EndsDigits rest) :
    (digits ++ rest).takeWhile isDigit = digits := by
  rw [List.takeWhile_append_of_pos each]
  cases rest with
  | nil => simp
  | cons c rest => simp [ends c rfl]

theorem dropWhile_digits (each : ∀ c ∈ digits, isDigit c = true) (ends : EndsDigits rest) :
    (digits ++ rest).dropWhile isDigit = rest := by
  rw [List.dropWhile_append_of_pos each]
  cases rest with
  | nil => rfl
  | cons c rest => simp [ends c rfl]

end Runs

end RdfPipeline.Text

namespace RdfPipeline.Decimal

theorem spanDigits_of_digits {digits : List Char} (each : ∀ c ∈ digits, Text.isDigit c = true) :
    spanDigits digits = (digits, []) := by
  have ends : Text.EndsDigits [] := by simp [Text.EndsDigits]
  have taken := Text.takeWhile_digits each ends
  have dropped := Text.dropWhile_digits each ends
  rw [List.append_nil] at taken dropped
  rw [spanDigits, taken, dropped]

end RdfPipeline.Decimal
