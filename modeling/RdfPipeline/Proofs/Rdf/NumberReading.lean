import RdfPipeline.Proofs.Rdf.LexicalForms

/-!
# Numbers read from lexical forms

Every text of the grammar of numbers is read as a number: the digits with their power of ten, or the
special value that it names.
-/

set_option autoImplicit false

namespace RdfPipeline

/-! ## Numbers that are not NaN -/

theorem Binary64.ofRatio_ne_nan (negative : Bool) (numerator denominator : Nat) :
    ofRatio negative numerator denominator ≠ .nan := by
  have rounded : ∀ rank, ofRank negative rank ≠ .nan := by
    intro rank
    unfold ofRank
    split <;> simp
  unfold ofRatio
  split
  · simp [zero]
  · exact rounded _

theorem Binary64.ofDecimal_ne_nan (negative : Bool) (digits : Nat) (exponent : Int) :
    ofDecimal negative digits exponent ≠ .nan := by
  have notZero : zero negative ≠ .nan := by simp [zero]
  unfold ofDecimal
  dsimp only
  split
  · exact notZero
  · split
    · simp
    · split
      · exact notZero
      · split <;> exact ofRatio_ne_nan _ _ _

namespace Rdf

/-! ## Parts of numbers -/

/-- Whether a sign is a minus. -/
def isMinus (sign : List Char) : Bool :=
  sign == ['-']

theorem splitSign_append {sign body : List Char} (isSign : IsSign sign)
    (unsigned : IsUnsigned body) : Decimal.splitSign (sign ++ body) = (isMinus sign, body) := by
  cases isSign with
  | none =>
      cases body with
      | nil => rfl
      | cons c rest =>
          obtain ⟨notPlus, notMinus⟩ := unsigned c rfl
          simp [Decimal.splitSign, notPlus, notMinus, isMinus]
  | plus => rfl
  | minus => rfl

theorem IsExponent.exists_power {exponent : List Char} (isExponent : IsExponent exponent) :
    ∃ power, Decimal.readExponent? exponent = some power := by
  cases isExponent with
  | none => exact ⟨0, rfl⟩
  | @power mark sign digits isMark isSign isDigits =>
      have allDigits : digits.all Text.isDigit = true := List.all_eq_true.mpr isDigits.each
      simp [Decimal.readExponent?, isMark, splitSign_append isSign isDigits.isUnsigned,
        isDigits.nonempty, allDigits]

theorem readMagnitude?_whole {digits rest : List Char} (isDigits : IsDigits digits)
    (ends : EndsMantissa rest) (negative : Bool) :
    Decimal.readMagnitude? negative (digits ++ rest) =
      (Decimal.readExponent? rest).map fun power =>
        Binary64.ofDecimal negative (Text.decimalValue digits) power := by
  simp only [Decimal.readMagnitude?, Decimal.spanDigits,
    Text.takeWhile_digits isDigits.each ends.endsDigits,
    Text.dropWhile_digits isDigits.each ends.endsDigits]
  split
  next => exact absurd rfl (ends '.' rfl).2
  next =>
    rw [if_neg fun none => isDigits.nonempty none.1]
    cases Decimal.readExponent? rest <;> simp

theorem readMagnitude?_pointed {whole fraction rest : List Char}
    (isDigits : IsDigits (whole ++ fraction)) (ends : EndsMantissa rest) (negative : Bool) :
    Decimal.readMagnitude? negative (whole ++ '.' :: fraction ++ rest) =
      (Decimal.readExponent? rest).map fun power =>
        Binary64.ofDecimal negative (Text.decimalValue (whole ++ fraction))
          (power - fraction.length) := by
  obtain ⟨inWhole, inFraction⟩ := List.forall_mem_append.mp isDigits.each
  have someDigit : ¬(whole = [] ∧ fraction = []) := by
    intro none
    exact isDigits.nonempty (List.append_eq_nil_iff.mpr none)
  rw [List.append_assoc, List.cons_append]
  simp only [Decimal.readMagnitude?, Decimal.spanDigits,
    Text.takeWhile_digits inWhole (endsDigits_point _),
    Text.dropWhile_digits inWhole (endsDigits_point _),
    Text.takeWhile_digits inFraction ends.endsDigits,
    Text.dropWhile_digits inFraction ends.endsDigits, if_neg someDigit]
  cases Decimal.readExponent? rest <;> rfl

theorem IsMantissa.exists_magnitude {mantissa exponent : List Char}
    (isMantissa : IsMantissa mantissa) (isExponent : IsExponent exponent) (negative : Bool) :
    ∃ x, Decimal.readMagnitude? negative (mantissa ++ exponent) = some x ∧ x ≠ .nan := by
  obtain ⟨power, read⟩ := isExponent.exists_power
  cases isMantissa with
  | whole digits =>
      rw [readMagnitude?_whole digits isExponent.endsMantissa, read]
      exact ⟨_, rfl, Binary64.ofDecimal_ne_nan _ _ _⟩
  | pointed digits =>
      rw [readMagnitude?_pointed digits isExponent.endsMantissa, read]
      exact ⟨_, rfl, Binary64.ofDecimal_ne_nan _ _ _⟩

/-! ## No blanks -/

theorem IsSign.not_isBlank {sign : List Char} (isSign : IsSign sign) :
    ∀ c ∈ sign, Text.isBlank c = false := by
  cases isSign <;> simp <;> decide

theorem IsMantissa.not_isBlank {mantissa : List Char} (isMantissa : IsMantissa mantissa) :
    ∀ c ∈ mantissa, Text.isBlank c = false := by
  cases isMantissa with
  | whole digits => exact fun c member => Text.not_isBlank_of_isDigit (digits.each c member)
  | pointed digits =>
      intro c member
      rw [List.mem_append, List.mem_cons, or_left_comm] at member
      obtain rfl | digit := member
      · decide
      · exact Text.not_isBlank_of_isDigit (digits.each c (List.mem_append.mpr digit))

theorem IsExponent.not_isBlank {exponent : List Char} (isExponent : IsExponent exponent) :
    ∀ c ∈ exponent, Text.isBlank c = false := by
  cases isExponent with
  | none => simp
  | power isMark isSign isDigits =>
      rw [List.forall_mem_cons, List.forall_mem_append]
      refine ⟨?_, isSign.not_isBlank, ?_⟩
      · obtain rfl | rfl := isMark <;> decide
      · exact fun c member => Text.not_isBlank_of_isDigit (isDigits.each c member)

theorem IsDouble.not_isBlank {chars : List Char} (double : IsDouble chars) :
    ∀ c ∈ chars, Text.isBlank c = false := by
  cases double with
  | number isSign isMantissa isExponent =>
      rw [List.forall_mem_append, List.forall_mem_append]
      exact ⟨isSign.not_isBlank, isMantissa.not_isBlank, isExponent.not_isBlank⟩
  | infinity isSign =>
      rw [List.forall_mem_append]
      exact ⟨isSign.not_isBlank, by simp [Text.isBlank]⟩
  | notANumber => simp [Text.isBlank]

theorem IsDouble.trim_eq {text : String} (double : IsDouble text.toList) :
    Text.trim text = text := by
  have trimmed : Text.IsTrimmed text.toList :=
    ⟨fun c first => double.not_isBlank c (List.mem_of_mem_head? first),
      fun c last => double.not_isBlank c (List.mem_of_mem_getLast? last)⟩
  rw [Text.trim, trimmed.trimChars_eq, String.ofList_toList]

/-! ## Whole texts -/

theorem toLower_ne_of_first {c : Char} (start : Text.isDigit c = true ∨ c = '.') :
    c.toLower ≠ 'i' ∧ c.toLower ≠ 'n' := by
  have code : c.toNat < 65 := by
    obtain digit | rfl := start
    · rw [Text.isDigit_eq, Char.isDigit_iff_toNat] at digit
      exact Nat.lt_of_le_of_lt digit.2 (by decide)
    · decide
  have same : c.toLower = c := by
    unfold Char.toLower
    split
    next upper => exact absurd (UInt32.le_iff_toNat_le.mp upper.1) (Nat.not_le.mpr code)
    next => rfl
  rw [same]
  constructor <;> rintro rfl <;> revert code <;> decide

theorem parse?_append {text : String} {sign mantissa rest : List Char} (isSign : IsSign sign)
    (isMantissa : IsMantissa mantissa) (whole : text.toList = sign ++ (mantissa ++ rest)) :
    Binary64.parse? text = Decimal.readMagnitude? (isMinus sign) (mantissa ++ rest) := by
  obtain ⟨c, more, starts, first⟩ := isMantissa.exists_first
  have notName : ∀ name : List Char, name.head? = some 'i' ∨ name.head? = some 'n' →
      (mantissa ++ rest).map Char.toLower ≠ name := by
    intro name named same
    rw [← same, starts] at named
    simp [toLower_ne_of_first first] at named
  simp only [Binary64.parse?, whole, splitSign_append isSign (isMantissa.isUnsigned_append rest),
    if_neg (not_or.mpr ⟨notName "inf".toList (.inl rfl), notName "infinity".toList (.inl rfl)⟩),
    if_neg (notName "nan".toList (.inr rfl))]

theorem readNumber?_append {text : String} {sign mantissa exponent : List Char}
    (isSign : IsSign sign) (isMantissa : IsMantissa mantissa) (isExponent : IsExponent exponent)
    (whole : text.toList = sign ++ (mantissa ++ exponent)) :
    readNumber? text = Decimal.readMagnitude? (isMinus sign) (mantissa ++ exponent) := by
  have double : IsDouble text.toList := whole ▸ .number isSign isMantissa isExponent
  have notInfinity : ∀ special : String, dropSign special.toList = "INF".toList →
      text ≠ special := by
    intro special named same
    rw [← same, whole, dropSign_append isSign (isMantissa.isUnsigned_append exponent)] at named
    obtain ⟨c, more, starts, first⟩ := isMantissa.exists_first
    rw [starts] at named
    cases (List.cons.inj named).1
    revert first
    decide
  simp only [readNumber?, double.trim_eq, notInfinity "INF" rfl, notInfinity "+INF" rfl,
    notInfinity "-INF" rfl, or_self, if_false]
  exact parse?_append isSign isMantissa whole

theorem readNumber?_digits {text : String} {sign digits : List Char} (isSign : IsSign sign)
    (isDigits : IsDigits digits) (whole : text.toList = sign ++ digits) :
    readNumber? text =
      some (Binary64.ofDecimal (isMinus sign) (Text.decimalValue digits) 0) := by
  rw [← List.append_nil digits] at whole
  rw [readNumber?_append isSign (.whole isDigits) .none whole,
    readMagnitude?_whole isDigits IsExponent.none.endsMantissa]
  rfl

/-- Only the text that says so is read as NaN. -/
theorem IsDouble.exists_number {text : String} (double : IsDouble text.toList) :
    ∃ x, readNumber? text = some x ∧ (x = .nan ↔ text = "NaN") := by
  generalize whole : text.toList = chars at double
  cases double with
  | number isSign isMantissa isExponent =>
      obtain ⟨x, read, notNaN⟩ := isMantissa.exists_magnitude isExponent _
      refine ⟨x, (readNumber?_append isSign isMantissa isExponent whole).trans read,
        iff_of_false notNaN ?_⟩
      rintro rfl
      obtain ⟨c, more, starts, first⟩ := isMantissa.exists_first
      cases isSign with
      | none =>
          rw [starts] at whole
          cases (List.cons.inj whole).1
          revert first
          decide
      | plus => exact absurd (List.cons.inj whole).1 (by decide)
      | minus => exact absurd (List.cons.inj whole).1 (by decide)
  | infinity isSign =>
      have text_eq := String.toList_injective (whole.trans String.toList_ofList.symm)
      subst text_eq
      cases isSign with
      | none => exact ⟨.infinite false, by decide +kernel, by decide⟩
      | plus => exact ⟨.infinite false, by decide +kernel, by decide⟩
      | minus => exact ⟨.infinite true, by decide +kernel, by decide⟩
  | notANumber =>
      have text_eq : text = "NaN" := String.toList_injective whole
      subst text_eq
      exact ⟨.nan, by decide +kernel, by decide⟩

end Rdf

end RdfPipeline
