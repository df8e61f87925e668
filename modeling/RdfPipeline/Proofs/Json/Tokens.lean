import RdfPipeline.Json.Printer
import RdfPipeline.Json.Reader
import RdfPipeline.Proofs.Text.Digits

/-!
# Strings and numbers in JSON texts

A written string is read up to its closing quote. A written integer is read up to the end of the
value, and so is any number that the reader takes to the end of a text of its own.
-/

set_option autoImplicit false

namespace RdfPipeline.Json

/-! ## Strings -/

theorem readString?_plain {c : Char} (noEnd : c ≠ '"') (noEscape : c ≠ '\\')
    (noControl : ¬ c.toNat < 0x20) (rest : List Char) :
    readString? (c :: rest) = (readString? rest).map fun read => (c :: read.1, read.2) := by
  rw [readString?]
  · rw [if_neg (not_or.mpr ⟨noControl, noEscape⟩)]
    cases readString? rest <;> rfl
  · exact noEnd
  · intro _ _ _ _ _ escape
    exact absurd escape noEscape
  · intro _ _ escape
    exact absurd escape noEscape

theorem controlDigits : ∀ code < 0x20,
    (Text.upperHex 4 code).map Char.toLower =
      ['0', '0', Nat.digitChar (code / 16), Nat.digitChar (code % 16)] ∧
    codeUnit? '0' '0' (Nat.digitChar (code / 16)) (Nat.digitChar (code % 16)) = some code := by
  decide

theorem charOfCode?_toNat (c : Char) : Text.charOfCode? c.toNat = some c := by
  have valid : c.toNat.isValidChar := c.valid
  rw [Text.charOfCode?, if_pos valid, Char.ofNat_toNat]

theorem readString?_escapeChar (c : Char) (rest : List Char) :
    readString? (escapeChar c ++ rest) =
      (readString? rest).map fun read => (c :: read.1, read.2) := by
  unfold escapeChar
  split
  -- Characters without a short escape are written by their code or as they are.
  case h_8 noEnd noEscape _ _ _ _ _ =>
    split
    next control =>
      obtain ⟨digits, unit⟩ := controlDigits c.toNat control
      rw [digits]
      simp only [List.cons_append, List.nil_append, readString?, unit, charOfCode?_toNat,
        Option.bind_eq_bind, Option.bind_some]
      cases readString? rest <;> rfl
    next noControl => exact readString?_plain noEnd noEscape noControl rest
  all_goals cases read : readString? rest <;> simp [readString?, simpleEscape?, read]

theorem readString?_written (text rest : List Char) :
    readString? (text.flatMap escapeChar ++ '"' :: rest) = some (text, rest) := by
  induction text with
  | nil => rfl
  | cons c text ih =>
      rw [List.flatMap_cons, List.append_assoc, readString?_escapeChar, ih]
      rfl

/-! ## What ends a value -/

/-- A value ends in front of a comma or a closing bracket and at the end of the text. -/
inductive EndsValue : List Char → Prop where
  | nil : EndsValue []
  | comma {rest} : EndsValue (',' :: rest)
  | bracket {rest} : EndsValue (']' :: rest)
  | brace {rest} : EndsValue ('\x7d' :: rest)

variable {rest : List Char}

theorem EndsValue.skipSpaces_eq (ends : EndsValue rest) : skipSpaces rest = rest := by
  cases ends <;> rfl

/-- A number stops at what is left of its text, or at the end of the value behind the text. -/
def Stops (left rest : List Char) : Prop :=
  left ≠ [] ∨ EndsValue rest

theorem Stops.of_suffix {chars left : List Char} (stops : Stops left rest) (suffix : left <:+ chars) :
    Stops chars rest := by
  cases stops with
  | inl some => exact .inl fun none => some (List.suffix_nil.mp (none ▸ suffix))
  | inr ends => exact .inr ends

theorem Stops.ends (stops : Stops [] rest) : EndsValue rest :=
  stops.resolve_left fun some => some rfl

theorem spanDigits_append {chars : List Char} (stops : Stops (Decimal.spanDigits chars).2 rest) :
    Decimal.spanDigits (chars ++ rest) =
      ((Decimal.spanDigits chars).1, (Decimal.spanDigits chars).2 ++ rest) := by
  induction chars with
  | nil => cases stops.ends <;> rfl
  | cons c chars ih =>
      simp only [Decimal.spanDigits] at ih stops
      simp only [Decimal.spanDigits, List.cons_append, List.takeWhile_cons, List.dropWhile_cons]
        at stops ⊢
      split
      next digit =>
        rw [if_pos digit] at stops
        obtain ⟨first, second⟩ := Prod.mk.inj (ih stops)
        rw [first, second]
      next => rfl

theorem splitSign_append {chars : List Char} (stops : Stops chars rest) :
    Decimal.splitSign (chars ++ rest) =
      ((Decimal.splitSign chars).1, (Decimal.splitSign chars).2 ++ rest) := by
  cases chars with
  | nil => cases stops.ends <;> rfl
  | cons c chars =>
      by_cases minus : c = '-'
      · subst minus
        rfl
      · by_cases plus : c = '+'
        · subst plus
          rfl
        · simp [Decimal.splitSign, minus, plus]

/-! ## Numbers in front of other texts -/

variable {negative : Bool} {chars left : List Char} {number : Number}

theorem suffix_spanDigits (chars : List Char) : (Decimal.spanDigits chars).2 <:+ chars :=
  List.dropWhile_suffix _

theorem suffix_splitSign (chars : List Char) : (Decimal.splitSign chars).2 <:+ chars := by
  unfold Decimal.splitSign
  split
  · exact List.suffix_cons _ _
  · exact List.suffix_cons _ _
  · exact List.suffix_refl _

theorem EndsValue.readScaled?_eq {significand : Nat} {exponent : Int} {x : Binary64}
    (ends : EndsValue rest) (scaled : scaled? negative significand exponent = some x) :
    readScaled? negative significand exponent rest = some (.float x, rest) := by
  cases ends <;> simp [readScaled?, scaled]

/-- What is left is the end of what was read, and what is behind makes no difference. -/
theorem readScaled?_spec {significand : Nat} {exponent : Int}
    (read : readScaled? negative significand exponent chars = some (number, left)) :
    left <:+ chars ∧ ∀ {rest}, Stops left rest →
      readScaled? negative significand exponent (chars ++ rest) = some (number, left ++ rest) := by
  cases chars with
  | nil =>
      simp only [readScaled?, Option.bind_eq_bind, Option.bind_eq_some_iff] at read
      obtain ⟨x, scaled, same⟩ := read
      cases same
      exact ⟨List.suffix_refl _, fun stops => stops.ends.readScaled?_eq scaled⟩
  | cons mark chars =>
      have afterSign := suffix_spanDigits (Decimal.splitSign chars).2
      have afterMark := afterSign.trans (suffix_splitSign chars)
      have afterDigits := afterMark.trans (List.suffix_cons mark chars)
      have appended : ∀ {rest}, Stops (Decimal.spanDigits (Decimal.splitSign chars).2).2 rest →
          Decimal.splitSign (chars ++ rest) =
              ((Decimal.splitSign chars).1, (Decimal.splitSign chars).2 ++ rest) ∧
            Decimal.spanDigits ((Decimal.splitSign chars).2 ++ rest) =
              ((Decimal.spanDigits (Decimal.splitSign chars).2).1,
                (Decimal.spanDigits (Decimal.splitSign chars).2).2 ++ rest) := by
        intro rest stops
        exact ⟨splitSign_append (stops.of_suffix afterMark), spanDigits_append stops⟩
      rw [readScaled?] at read
      simp only [List.cons_append, readScaled?]
      split at read
      next isMark =>
        -- An exponent beyond all others scales nothing: it gives zero or no number.
        simp only [if_pos isMark]
        simp only at read
        split at read
        next => cases read
        next someDigits =>
          split at read
          next huge =>
            split at read
            next => cases read
            next vanishes =>
              cases read
              refine ⟨afterDigits, fun stops => ?_⟩
              obtain ⟨signs, digits⟩ := appended stops
              rw [signs, digits, if_neg someDigits, if_pos huge, if_neg vanishes]
          next moderate =>
            simp only [Option.bind_eq_bind, Option.bind_eq_some_iff] at read
            obtain ⟨x, scaled, same⟩ := read
            cases same
            refine ⟨afterDigits, fun stops => ?_⟩
            obtain ⟨signs, digits⟩ := appended stops
            rw [signs, digits, if_neg someDigits, if_neg moderate]
            simp [scaled]
      next noMark =>
        simp only [Option.bind_eq_bind, Option.bind_eq_some_iff] at read
        obtain ⟨x, scaled, same⟩ := read
        cases same
        refine ⟨List.suffix_refl _, fun _ => ?_⟩
        rw [if_neg noMark]
        simp [scaled]

theorem suffix_spanDigits_of_readNumber? (read : readNumber? negative chars = some (number, left)) :
    left <:+ (Decimal.spanDigits chars).2 := by
  unfold readNumber? at read
  generalize Decimal.spanDigits chars = span at read ⊢
  obtain ⟨whole, after⟩ := span
  simp only at read ⊢
  split at read
  next => cases read
  next => cases read
  next =>
    split at read
    next after =>
      have afterPoint := (suffix_spanDigits after).trans (List.suffix_cons '.' after)
      split at read
      next => cases read
      next => exact (readScaled?_spec read).1.trans afterPoint
    next =>
      generalize (_ || _) = scaling at read
      cases scaling with
      | true => exact (readScaled?_spec read).1
      | false =>
          cases read
          exact List.suffix_refl _

theorem suffix_of_readNumber? (read : readNumber? negative chars = some (number, left)) :
    left <:+ chars :=
  (suffix_spanDigits_of_readNumber? read).trans (suffix_spanDigits chars)

theorem readNumber?_append (read : readNumber? negative chars = some (number, left))
    (stops : Stops left rest) :
    readNumber? negative (chars ++ rest) = some (number, left ++ rest) := by
  have afterWhole := stops.of_suffix (suffix_spanDigits_of_readNumber? read)
  unfold readNumber? at read ⊢
  rw [spanDigits_append afterWhole]
  generalize Decimal.spanDigits chars = span at read afterWhole ⊢
  obtain ⟨whole, after⟩ := span
  simp only at read afterWhole ⊢
  split at read
  next => cases read
  next => cases read
  next =>
    -- Without a point, the end of the value looks to the reader like the end of the text.
    have withoutPoint : ∀ scaling : Bool,
        (if scaling then readScaled? negative (absorbDigits 0 whole).1
            ↑(whole.length - (absorbDigits 0 whole).2) after
          else some (integerNumber negative (absorbDigits 0 whole).1, after)) =
          some (number, left) →
        (if scaling then readScaled? negative (absorbDigits 0 whole).1
            ↑(whole.length - (absorbDigits 0 whole).2) (after ++ rest)
          else some (integerNumber negative (absorbDigits 0 whole).1, after ++ rest)) =
          some (number, left ++ rest) := by
      intro scaling read
      cases scaling with
      | true => exact (readScaled?_spec read).2 stops
      | false =>
          cases read
          rfl
    cases after with
    | nil => cases afterWhole.ends <;> exact withoutPoint _ read
    | cons c after =>
        by_cases point : c = '.'
        · subst point
          simp only [List.cons_append] at read ⊢
          split at read
          next => cases read
          next someDigits =>
            have afterFraction := stops.of_suffix (readScaled?_spec read).1
            simp only [spanDigits_append afterFraction]
            rw [if_neg someDigits]
            exact (readScaled?_spec read).2 stops
        · rw [List.cons_append]
          split at read
          next same => exact absurd (List.cons.inj same).1 point
          next =>
            split
            next same => exact absurd (List.cons.inj same).1 point
            next => exact withoutPoint _ read

/-! ## Written integers -/

theorem absorbDigits_eq {value : Nat} {digits : List Char}
    (each : ∀ c ∈ digits, Text.isDigit c = true)
    (small : Nat.ofDigitChars 10 digits value < Nat.pow 2 64) :
    absorbDigits value digits = (Nat.ofDigitChars 10 digits value, digits.length) := by
  induction digits generalizing value with
  | nil => rfl
  | cons c digits ih =>
      obtain ⟨first, others⟩ := List.forall_mem_cons.mp each
      rw [Nat.ofDigitChars_cons] at small ⊢
      have next : 10 * value + (c.toNat - '0'.toNat) < Nat.pow 2 64 :=
        Nat.lt_of_le_of_lt (Text.le_ofDigitChars _ digits) small
      rw [absorbDigits, Text.digitValue?_eq first]
      simp only [Option.getD_some]
      rw [if_pos next, ih others small]
      rfl

theorem digitChar_ne_zero : ∀ value < 10, value ≠ 0 → Nat.digitChar value ≠ '0' := by
  decide

theorem head?_toDigits_ne {value : Nat} (positive : value ≠ 0) :
    (Nat.toDigits 10 value).head? ≠ some '0' := by
  induction value using Nat.strongRecOn with
  | ind value ih =>
      cases Nat.lt_or_ge value 10 with
      | inl small =>
          rw [Nat.toDigits_of_lt_base small]
          intro same
          exact digitChar_ne_zero value small positive (Option.some.inj same)
      | inr large =>
          rw [Nat.toDigits_of_base_le (by decide) large, List.head?_append]
          have earlier := ih (value / 10) (by omega) (by omega)
          cases digits : Nat.toDigits 10 (value / 10) with
          | nil => exact absurd digits Nat.toDigits_ne_nil
          | cons c digits =>
              rw [digits] at earlier
              exact earlier

theorem readNumber?_toDigits {magnitude : Nat} (small : magnitude < Nat.pow 2 64) :
    readNumber? negative (Nat.toDigits 10 magnitude) =
      some (integerNumber negative magnitude, []) := by
  have each : ∀ c ∈ Nat.toDigits 10 magnitude, Text.isDigit c = true :=
    fun c member => Text.isDigit_of_mem_toDigits member
  have absorbed : absorbDigits 0 (Nat.toDigits 10 magnitude) =
      (magnitude, (Nat.toDigits 10 magnitude).length) := by
    rw [absorbDigits_eq each] <;> rw [Nat.ofDigitChars_ten_toDigits]
    exact small
  unfold readNumber?
  rw [Decimal.spanDigits_of_digits each]
  simp only [absorbed]
  split
  next none => exact absurd none Nat.toDigits_ne_nil
  next c digits padded =>
    by_cases zero : magnitude = 0
    · rw [zero, Nat.toDigits_of_lt_base (by decide)] at padded
      cases padded
    · have leading := head?_toDigits_ne zero
      rw [padded] at leading
      exact absurd rfl leading
  next => simp

/-! ## Numbers as values -/

theorem exists_digit_of_readNumber? (read : readNumber? negative chars = some (number, left)) :
    ∃ c more, chars = c :: more ∧ Text.isDigit c = true := by
  unfold readNumber? at read
  cases chars with
  | nil => cases read
  | cons c more =>
      refine ⟨c, more, rfl, ?_⟩
      cases digit : Text.isDigit c with
      | true => rfl
      | false => simp [Decimal.spanDigits, digit] at read

theorem isSpace_of_digit {c : Char} (digit : Text.isDigit c = true) : isSpace c = false := by
  cases space : isSpace c with
  | false => rfl
  | true =>
      simp only [isSpace, Bool.or_eq_true, beq_iff_eq, or_assoc] at space
      obtain rfl | rfl | rfl | rfl := space <;> exact absurd digit (by decide)

theorem readValue?_digit {c : Char} (digit : Text.isDigit c = true) (fuel depth : Nat)
    (more : List Char) :
    readValue? (fuel + 1) depth (c :: more) =
      (readNumber? false (c :: more)).bind fun read => some (.number read.1, read.2) := by
  have noSpace : skipSpaces (c :: more) = c :: more := by
    rw [skipSpaces, List.dropWhile_cons, isSpace_of_digit digit]
    rfl
  rw [readValue?, noSpace]
  split
  case h_8 => rfl
  all_goals
    rename_i same
    rw [(List.cons.inj same).1] at digit
    exact absurd digit (by decide)

theorem readValue?_minus (fuel depth : Nat) (chars : List Char) :
    readValue? (fuel + 1) depth ('-' :: chars) =
      (readNumber? true chars).bind fun read => some (.number read.1, read.2) :=
  rfl

theorem readValue?_of_readNumber? (read : readNumber? negative chars = some (number, left))
    (fuel depth : Nat) :
    readValue? (fuel + 1) depth (if negative then '-' :: chars else chars) =
      some (.number number, left) := by
  cases negative with
  | true => rw [if_pos rfl, readValue?_minus, read, Option.bind_some]
  | false =>
      obtain ⟨c, more, rfl, digit⟩ := exists_digit_of_readNumber? read
      rw [if_neg Bool.false_ne_true, readValue?_digit digit, read, Option.bind_some]

theorem integerNumber_natAbs {value : Int} (lower : -0x8000000000000000 ≤ value)
    (upper : value < 0x10000000000000000) :
    integerNumber (decide (value < 0)) value.natAbs = .integer value lower upper := by
  have inRange : Number.ofInt value = .integer value lower upper := dif_pos ⟨lower, upper⟩
  rw [← inRange, integerNumber]
  by_cases below : value < 0
  · have fits : ¬ (value.natAbs = 0 ∨ 0x8000000000000000 < value.natAbs) := by omega
    have magnitude : -(value.natAbs : Int) = value := by omega
    rw [if_pos (decide_eq_true below), magnitude]
    exact if_neg fits
  · have magnitude : (value.natAbs : Int) = value := by omega
    rw [if_neg (by simp [below]), magnitude]

theorem readValue?_integer {value : Int} (lower : -0x8000000000000000 ≤ value)
    (upper : value < 0x10000000000000000) (ends : EndsValue rest) (fuel depth : Nat) :
    readValue? (fuel + 1) depth ((Number.integer value lower upper).chars ++ rest) =
      some (.number (.integer value lower upper), rest) := by
  have small : value.natAbs < Nat.pow 2 64 := by
    change value.natAbs < 0x10000000000000000
    omega
  have read : readNumber? (decide (value < 0)) (Nat.toDigits 10 value.natAbs ++ rest) =
      some (.integer value lower upper, rest) := by
    rw [readNumber?_append (readNumber?_toDigits small) (.inr ends), integerNumber_natAbs lower upper]
    rfl
  rw [← readValue?_of_readNumber? read fuel depth, Number.chars, Text.toList_toString]
  by_cases below : value < 0
  · rw [if_pos below, if_pos (decide_eq_true below)]
    rfl
  · rw [if_neg below, if_neg (by simp [below])]

/-! ## Texts of numbers alone -/

def NoSpaces (chars : List Char) : Prop :=
  ∀ c ∈ chars, isSpace c = false

theorem NoSpaces.append {front back : List Char} (frontNone : NoSpaces front)
    (backNone : NoSpaces back) : NoSpaces (front ++ back) :=
  List.forall_mem_append.mpr ⟨frontNone, backNone⟩

theorem NoSpaces.cons {c : Char} (noSpace : isSpace c = false) (others : NoSpaces chars) :
    NoSpaces (c :: chars) :=
  List.forall_mem_cons.mpr ⟨noSpace, others⟩

theorem NoSpaces.skipSpaces_eq (none : NoSpaces chars) : skipSpaces chars = chars := by
  cases chars with
  | nil => rfl
  | cons c chars =>
      rw [skipSpaces, List.dropWhile_cons, none c List.mem_cons_self]
      rfl

theorem noSpaces_zeros (count : Nat) : NoSpaces (List.replicate count '0') := by
  intro c member
  rw [List.eq_of_mem_replicate member]
  rfl

theorem noSpaces_toDigits (value : Nat) : NoSpaces (Nat.toDigits 10 value) :=
  fun _ member => isSpace_of_digit (Text.isDigit_of_mem_toDigits member)

theorem noSpaces_positionalText {digits : List Char} (none : NoSpaces digits) (leading : Int)
    (markWhole : Bool) : NoSpaces (Decimal.positionalText digits leading markWhole) := by
  simp only [Decimal.positionalText]
  split
  · exact .append (.cons rfl (.cons rfl (noSpaces_zeros _))) none
  · split
    · apply NoSpaces.append (.append none (noSpaces_zeros _))
      cases markWhole with
      | true => exact .cons rfl (.cons rfl (noSpaces_zeros 0))
      | false => exact noSpaces_zeros 0
    · apply NoSpaces.append
      · exact fun c member => none c (List.mem_of_mem_take member)
      · exact .cons rfl fun c member => none c (List.mem_of_mem_drop member)

theorem noSpaces_exponentText {digits : List Char} (none : NoSpaces digits) (leading : Int) :
    NoSpaces (Decimal.exponentText digits leading) := by
  simp only [Decimal.exponentText]
  apply NoSpaces.append
  · split
    next =>
      obtain ⟨first, others⟩ := List.forall_mem_cons.mp none
      exact .cons first (.cons rfl others)
    next => exact none
  · apply NoSpaces.cons rfl
    apply NoSpaces.cons
    · split <;> rfl
    · exact noSpaces_toDigits _

theorem noSpaces_floatChars (x : Binary64) : NoSpaces (floatChars x) := by
  have word : NoSpaces "null".toList := by
    intro c member
    simp only [String.reduceToList, List.mem_cons, List.not_mem_nil, or_false] at member
    rcases member with rfl | rfl | rfl | rfl <;> rfl
  cases x with
  | nan => exact word
  | infinite negative => exact word
  | finite negative exponent fraction =>
      have magnitude : NoSpaces (Decimal.magnitudeText numberStyle exponent fraction) := by
        simp only [Decimal.magnitudeText]
        split
        · exact noSpaces_positionalText (.cons rfl (noSpaces_zeros 0)) _ _
        · split
          · exact noSpaces_positionalText (noSpaces_toDigits _) _ _
          · exact noSpaces_exponentText (noSpaces_toDigits _) _
      rw [floatChars]
      split
      · exact .cons rfl magnitude
      · exact magnitude

theorem readNumber?_of_readValue? {fuel depth : Nat}
    (read : readValue? fuel depth chars = some (.number number, left)) :
    (∃ more, skipSpaces chars = '-' :: more ∧ readNumber? true more = some (number, left)) ∨
      readNumber? false (skipSpaces chars) = some (number, left) := by
  cases fuel with
  | zero => cases read
  | succ fuel =>
      rw [readValue?] at read
      split at read
      case h_1 | h_5 | h_6 | h_7 =>
        obtain ⟨_, _, same⟩ := Option.bind_eq_some_iff.mp read
        cases same
      case h_2 | h_3 =>
        split at read
        next => cases read
        next =>
          split at read
          next => cases read
          next =>
            obtain ⟨_, _, same⟩ := Option.bind_eq_some_iff.mp read
            cases same
      case h_4 more minus =>
        obtain ⟨_, taken, same⟩ := Option.bind_eq_some_iff.mp read
        cases same
        exact .inl ⟨more, minus, taken⟩
      case h_8 =>
        obtain ⟨_, taken, same⟩ := Option.bind_eq_some_iff.mp read
        cases same
        exact .inr taken

theorem NoSpaces.eq_nil_of_suffix (none : NoSpaces chars) (suffix : left <:+ chars)
    (blank : skipSpaces left = []) : left = [] := by
  have leftNone : NoSpaces left := fun c member => none c (suffix.subset member)
  rwa [leftNone.skipSpaces_eq] at blank

/-- A number that is the document of its own text is read from it in front of any end of a value. -/
theorem readValue?_of_parse? (read : parse? (String.ofList chars) = some (.number number))
    (none : NoSpaces chars) (ends : EndsValue rest) (fuel depth : Nat) :
    readValue? (fuel + 1) depth (chars ++ rest) = some (.number number, rest) := by
  obtain ⟨⟨document, left⟩, taken, finished⟩ := Option.bind_eq_some_iff.mp read
  rw [String.toList_ofList] at taken
  simp only [Option.ite_none_right_eq_some, Option.some.injEq] at finished
  obtain ⟨blank, rfl⟩ := finished
  -- Only spaces may be left over, and the text has none.
  cases readNumber?_of_readValue? taken with
  | inl negated =>
      obtain ⟨more, minus, magnitude⟩ := negated
      rw [none.skipSpaces_eq] at minus
      have suffix := (suffix_of_readNumber? magnitude).trans (List.suffix_cons '-' more)
      rw [← minus] at suffix
      obtain rfl := none.eq_nil_of_suffix suffix blank
      rw [minus, List.cons_append, readValue?_minus, readNumber?_append magnitude (.inr ends)]
      rfl
  | inr magnitude =>
      rw [none.skipSpaces_eq] at magnitude
      obtain rfl := none.eq_nil_of_suffix (suffix_of_readNumber? magnitude) blank
      exact readValue?_of_readNumber? (readNumber?_append magnitude (.inr ends)) fuel depth

end RdfPipeline.Json
