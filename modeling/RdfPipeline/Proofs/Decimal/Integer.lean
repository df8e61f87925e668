import RdfPipeline.Decimal.Integer
import RdfPipeline.Proofs.Rdf.LexicalForms

/-!
# Reading signed integers

A text is read as a signed integer of 64 bits if and only if it is a run of digits behind an optional
sign and the integer that it denotes has 64 bits.
-/

set_option autoImplicit false

namespace RdfPipeline.Decimal

open Rdf (DenotesInteger IsDigits)

/-! ## Words -/

/-- The integer is that of some signed word. -/
def IsSigned (value : Int) : Prop :=
  Int64.minValue.toInt ≤ value ∧ value ≤ Int64.maxValue.toInt

theorem isSigned_toInt (word : Int64) : IsSigned word.toInt :=
  ⟨Int64.minValue_le_toInt word, Int64.toInt_le word⟩

theorem int64?_eq_some_iff {value : Int} {word : Int64} :
    int64? value = some word ↔ value = word.toInt := by
  unfold int64?
  split
  next inRange => rw [Option.some_inj, ← Int64.toInt_inj, Int64.toInt_ofIntLE]
  next outOfRange =>
    refine iff_of_false nofun ?_
    rintro rfl
    exact outOfRange (isSigned_toInt word)

theorem int64?_eq_none_iff {value : Int} : int64? value = none ↔ ¬IsSigned value := by
  unfold int64?
  split
  next inRange => exact iff_of_false nofun fun outOfRange => outOfRange inRange
  next outOfRange => exact iff_of_true rfl outOfRange

/-! ## Digits -/

/-- The digits behind `start` are read up to the end exactly if the whole number is in range, as no
number on the way is larger. -/
theorem readDigits_eq_ok_iff {limit start value : Nat} {overflow : IntegerError}
    {chars : List Char} (small : start ≤ limit) :
    readDigits limit overflow start chars = .ok value ↔
      (∀ c ∈ chars, Text.isDigit c = true) ∧ Nat.ofDigitChars 10 chars start = value ∧
        value ≤ limit := by
  induction chars generalizing start with
  | nil =>
      rw [readDigits, Nat.ofDigitChars_nil, Except.ok.injEq]
      exact ⟨fun same => ⟨by simp, same, same ▸ small⟩, fun read => read.2.1⟩
  | cons c chars ih =>
      rw [readDigits, List.forall_mem_cons, Nat.ofDigitChars_cons]
      by_cases digit : Text.isDigit c = true
      · rw [Text.digitValue?_eq digit]
        dsimp only
        split
        next inRange => rw [ih inRange, and_assoc, and_iff_right digit]
        next outOfRange =>
          refine iff_of_false nofun ?_
          rintro ⟨-, rfl, bounded⟩
          have reached := Text.le_ofDigitChars (10 * start + (c.toNat - '0'.toNat)) chars
          omega
      · have noDigit : Text.digitValue? c = none := by
          simpa [Text.isDigit] using digit
        rw [noDigit]
        exact iff_of_false nofun fun read => digit read.1.1

theorem readDigits_zero_eq_ok_iff {limit value : Nat} {overflow : IntegerError}
    {chars : List Char} (nonempty : chars ≠ []) :
    readDigits limit overflow 0 chars = .ok value ↔
      IsDigits chars ∧ Text.decimalValue chars = value ∧ value ≤ limit := by
  rw [readDigits_eq_ok_iff (Nat.zero_le limit)]
  constructor
  · rintro ⟨each, same, bounded⟩
    exact ⟨⟨nonempty, each⟩, (Text.decimalValue_eq each).trans same, bounded⟩
  · rintro ⟨digits, same, bounded⟩
    exact ⟨digits.each, (Text.decimalValue_eq digits.each).symm.trans same, bounded⟩

/-! ## Signs -/

section Signs

variable {largest smallest : Nat} {digits : List Char} {value : Int}

/-- What is read is the integer that `convert` makes of the digits, if these are in range. -/
theorem map_readDigits_eq_ok_iff {limit : Nat} {overflow : IntegerError} (convert : Nat → Int)
    (nonempty : digits ≠ []) :
    (readDigits limit overflow 0 digits).map convert = .ok value ↔
      (IsDigits digits ∧ convert (Text.decimalValue digits) = value) ∧
        Text.decimalValue digits ≤ limit := by
  constructor
  · intro read
    cases found : readDigits limit overflow 0 digits with
    | error cause =>
        rw [found] at read
        cases read
    | ok natural =>
        rw [found] at read
        obtain ⟨isDigits, rfl, bounded⟩ := (readDigits_zero_eq_ok_iff nonempty).mp found
        exact ⟨⟨isDigits, Except.ok.inj read⟩, bounded⟩
  · rintro ⟨⟨isDigits, rfl⟩, bounded⟩
    rw [(readDigits_zero_eq_ok_iff nonempty).mpr ⟨isDigits, rfl, bounded⟩]
    rfl

theorem readSigned_eq_ok_iff {chars : List Char} :
    readSigned largest smallest chars = .ok value ↔
      DenotesInteger chars value ∧ -(smallest : Int) ≤ value ∧ value ≤ largest := by
  have natural {digits : List Char} :
      (IsDigits digits ∧ (Text.decimalValue digits : Int) = value) ∧
        Text.decimalValue digits ≤ largest ↔
      (IsDigits digits ∧ (Text.decimalValue digits : Int) = value) ∧
        -(smallest : Int) ≤ value ∧ value ≤ largest :=
    and_congr_right fun ⟨_, same⟩ => by omega
  have negated {digits : List Char} :
      (IsDigits digits ∧ -(Text.decimalValue digits : Int) = value) ∧
        Text.decimalValue digits ≤ smallest ↔
      (IsDigits digits ∧ -(Text.decimalValue digits : Int) = value) ∧
        -(smallest : Int) ≤ value ∧ value ≤ largest :=
    and_congr_right fun ⟨_, same⟩ => by omega
  unfold readSigned
  split
  next => exact iff_of_false nofun fun read => Rdf.not_denotesInteger_of_form rfl read.1
  next => exact iff_of_false nofun fun read => Rdf.not_denotesInteger_of_form rfl read.1
  next => exact iff_of_false nofun fun read => Rdf.not_denotesInteger_of_form rfl read.1
  next digits notAlone =>
    rw [Rdf.denotesInteger_plus_iff, ← natural]
    exact map_readDigits_eq_ok_iff Int.ofNat fun none => notAlone (none ▸ rfl)
  next digits notAlone =>
    rw [Rdf.denotesInteger_minus_iff, ← negated,
      ← map_readDigits_eq_ok_iff (fun natural => -(natural : Int)) fun none => notAlone (none ▸ rfl)]
    cases readDigits smallest .tooSmall 0 digits <;> exact Iff.rfl
  next _ nonempty _ _ noPlus noMinus =>
    have unsigned : Rdf.IsUnsigned chars := by
      intro c first
      obtain ⟨rest, rfl⟩ := List.head?_eq_some_iff.mp first
      constructor <;> rintro rfl
      · exact noPlus rest rfl
      · exact noMinus rest rfl
    rw [Rdf.denotesInteger_unsigned_iff unsigned, ← natural]
    exact map_readDigits_eq_ok_iff Int.ofNat nonempty

end Signs

/-- A signed integer is read from the texts that denote one of 64 bits, and from no others. -/
theorem parseInt64_eq_ok_iff {text : String} {word : Int64} :
    parseInt64 text = .ok word ↔ DenotesInteger text.toList word.toInt := by
  have inRange : -(Nat.pow 2 63 : Nat) ≤ word.toInt ∧ word.toInt ≤ (Nat.pow 2 63 - 1 : Nat) :=
    isSigned_toInt word
  have read : readSigned (Nat.pow 2 63 - 1) (Nat.pow 2 63) text.toList = .ok word.toInt ↔
      DenotesInteger text.toList word.toInt := by
    rw [readSigned_eq_ok_iff, and_iff_left inRange]
  rw [← read]
  unfold parseInt64
  cases readSigned (Nat.pow 2 63 - 1) (Nat.pow 2 63) text.toList with
  | error cause => exact iff_of_false nofun nofun
  | ok value =>
      rw [Except.ok.injEq, ← int64?_eq_some_iff]
      cases found : int64? value <;> simp [bind, Except.bind, pure, Except.pure, found]

end RdfPipeline.Decimal
