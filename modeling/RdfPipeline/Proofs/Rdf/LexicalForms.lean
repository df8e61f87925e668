import RdfPipeline.Proofs.Text.Digits
import RdfPipeline.Rdf.Comparison

/-!
# The grammar of numbers

The lexical forms of integers, decimals and doubles as a grammar. The checks of these forms accept
exactly the texts that the grammar derives.
-/

set_option autoImplicit false

namespace RdfPipeline.Rdf

/-! ## The grammar -/

structure IsDigits (chars : List Char) : Prop where
  nonempty : chars ≠ []
  each : ∀ c ∈ chars, Text.isDigit c = true

theorem IsDigits.append {digits more : List Char} (isDigits : IsDigits digits)
    (each : ∀ c ∈ more, Text.isDigit c = true) : IsDigits (digits ++ more) :=
  ⟨List.append_ne_nil_of_left_ne_nil isDigits.nonempty more,
    List.forall_mem_append.mpr ⟨isDigits.each, each⟩⟩

theorem IsDigits.prepend {digits more : List Char} (isDigits : IsDigits digits)
    (each : ∀ c ∈ more, Text.isDigit c = true) : IsDigits (more ++ digits) :=
  ⟨List.append_ne_nil_of_right_ne_nil more isDigits.nonempty,
    List.forall_mem_append.mpr ⟨each, isDigits.each⟩⟩

inductive IsSign : List Char → Prop where
  | none : IsSign []
  | plus : IsSign ['+']
  | minus : IsSign ['-']

/-- Digits with an optional point, at least one digit among them. -/
inductive IsMantissa : List Char → Prop where
  | whole {digits : List Char} : IsDigits digits → IsMantissa digits
  | pointed {whole fraction : List Char} :
      IsDigits (whole ++ fraction) → IsMantissa (whole ++ '.' :: fraction)

/-- A power of ten behind a mark, or nothing. -/
inductive IsExponent : List Char → Prop where
  | none : IsExponent []
  | power {mark : Char} {sign digits : List Char} :
      mark = 'e' ∨ mark = 'E' → IsSign sign → IsDigits digits →
      IsExponent (mark :: (sign ++ digits))

/-- The integer that digits behind an optional sign denote. -/
inductive DenotesInteger : List Char → Int → Prop where
  | unsigned {digits : List Char} :
      IsDigits digits → DenotesInteger digits (Text.decimalValue digits)
  | plus {digits : List Char} :
      IsDigits digits → DenotesInteger ('+' :: digits) (Text.decimalValue digits)
  | minus {digits : List Char} :
      IsDigits digits → DenotesInteger ('-' :: digits) (-Text.decimalValue digits)

inductive IsDecimal : List Char → Prop where
  | signed {sign mantissa : List Char} :
      IsSign sign → IsMantissa mantissa → IsDecimal (sign ++ mantissa)

inductive IsDouble : List Char → Prop where
  | number {sign mantissa exponent : List Char} :
      IsSign sign → IsMantissa mantissa → IsExponent exponent →
      IsDouble (sign ++ (mantissa ++ exponent))
  | infinity {sign : List Char} : IsSign sign → IsDouble (sign ++ "INF".toList)
  | notANumber : IsDouble "NaN".toList

theorem IsDecimal.isDouble {chars : List Char} (decimal : IsDecimal chars) : IsDouble chars := by
  cases decimal with
  | @signed sign mantissa isSign isMantissa =>
      have double := IsDouble.number isSign isMantissa .none
      rwa [List.append_nil] at double

theorem DenotesInteger.isDecimal {chars : List Char} {value : Int}
    (denotes : DenotesInteger chars value) : IsDecimal chars := by
  cases denotes with
  | unsigned digits => exact .signed .none (.whole digits)
  | plus digits => exact .signed .plus (.whole digits)
  | minus digits => exact .signed .minus (.whole digits)

/-! ## How texts start -/

/-- The first character is not a sign. -/
def IsUnsigned (chars : List Char) : Prop :=
  ∀ c ∈ chars.head?, c ≠ '+' ∧ c ≠ '-'

theorem dropSign_append {sign body : List Char} (isSign : IsSign sign)
    (unsigned : IsUnsigned body) : dropSign (sign ++ body) = body := by
  cases isSign with
  | none =>
      cases body with
      | nil => rfl
      | cons c rest =>
          obtain ⟨notPlus, notMinus⟩ := unsigned c rfl
          rw [List.nil_append, dropSign.eq_3]
          · intro rest same
            exact notPlus (List.cons.inj same).1
          · intro rest same
            exact notMinus (List.cons.inj same).1
  | plus => rfl
  | minus => rfl

theorem exists_sign (chars : List Char) : ∃ sign, IsSign sign ∧ chars = sign ++ dropSign chars := by
  unfold dropSign
  split
  · exact ⟨['+'], .plus, rfl⟩
  · exact ⟨['-'], .minus, rfl⟩
  · exact ⟨[], .none, rfl⟩

theorem IsDigits.exists_first {digits : List Char} (isDigits : IsDigits digits) :
    ∃ c rest, digits = c :: rest ∧ Text.isDigit c = true := by
  cases digits with
  | nil => exact absurd rfl isDigits.nonempty
  | cons c rest => exact ⟨c, rest, rfl, isDigits.each c List.mem_cons_self⟩

theorem IsMantissa.exists_first {mantissa : List Char} (isMantissa : IsMantissa mantissa) :
    ∃ c rest, mantissa = c :: rest ∧ (Text.isDigit c = true ∨ c = '.') := by
  cases isMantissa with
  | whole digits =>
      obtain ⟨c, rest, same, digit⟩ := digits.exists_first
      exact ⟨c, rest, same, .inl digit⟩
  | @pointed whole fraction digits =>
      cases whole with
      | nil => exact ⟨'.', fraction, rfl, .inr rfl⟩
      | cons c whole => exact ⟨c, _, rfl, .inl (digits.each c List.mem_cons_self)⟩

theorem isUnsigned_of_first {c : Char} (start : Text.isDigit c = true ∨ c = '.')
    (rest : List Char) : IsUnsigned (c :: rest) := by
  intro first isFirst
  cases isFirst
  constructor <;> rintro rfl <;> revert start <;> decide

theorem IsDigits.isUnsigned {digits : List Char} (isDigits : IsDigits digits) :
    IsUnsigned digits := by
  obtain ⟨c, rest, rfl, digit⟩ := isDigits.exists_first
  exact isUnsigned_of_first (.inl digit) rest

theorem IsMantissa.isUnsigned_append {mantissa : List Char} (isMantissa : IsMantissa mantissa)
    (rest : List Char) : IsUnsigned (mantissa ++ rest) := by
  obtain ⟨c, more, rfl, start⟩ := isMantissa.exists_first
  exact isUnsigned_of_first start (more ++ rest)

/-! ## Integers with and without signs -/

section Signs

variable {digits : List Char} {value : Int}

theorem denotesInteger_plus_iff :
    DenotesInteger ('+' :: digits) value ↔
      IsDigits digits ∧ (Text.decimalValue digits : Int) = value := by
  constructor
  · intro denotes
    cases denotes with
    | unsigned isDigits => exact absurd (isDigits.each '+' List.mem_cons_self) (by decide)
    | plus isDigits => exact ⟨isDigits, rfl⟩
  · rintro ⟨isDigits, rfl⟩
    exact .plus isDigits

theorem denotesInteger_minus_iff :
    DenotesInteger ('-' :: digits) value ↔
      IsDigits digits ∧ -(Text.decimalValue digits : Int) = value := by
  constructor
  · intro denotes
    cases denotes with
    | unsigned isDigits => exact absurd (isDigits.each '-' List.mem_cons_self) (by decide)
    | minus isDigits => exact ⟨isDigits, rfl⟩
  · rintro ⟨isDigits, rfl⟩
    exact .minus isDigits

theorem denotesInteger_unsigned_iff (unsigned : IsUnsigned digits) :
    DenotesInteger digits value ↔
      IsDigits digits ∧ (Text.decimalValue digits : Int) = value := by
  constructor
  · intro denotes
    cases denotes with
    | unsigned isDigits => exact ⟨isDigits, rfl⟩
    | plus => exact absurd rfl (unsigned '+' rfl).1
    | minus => exact absurd rfl (unsigned '-' rfl).2
  · rintro ⟨isDigits, rfl⟩
    exact .unsigned isDigits

theorem DenotesInteger.unique {chars : List Char} {value other : Int}
    (denotes : DenotesInteger chars value) (denotesOther : DenotesInteger chars other) :
    value = other := by
  cases denotes with
  | unsigned digits => exact ((denotesInteger_unsigned_iff digits.isUnsigned).mp denotesOther).2
  | plus => exact (denotesInteger_plus_iff.mp denotesOther).2
  | minus => exact (denotesInteger_minus_iff.mp denotesOther).2

end Signs

/-! ## Where mantissas end -/

/-- Neither a digit nor a point comes first. -/
def EndsMantissa (rest : List Char) : Prop :=
  ∀ c ∈ rest.head?, Text.isDigit c = false ∧ c ≠ '.'

theorem EndsMantissa.endsDigits {rest : List Char} (ends : EndsMantissa rest) :
    Text.EndsDigits rest :=
  fun c first => (ends c first).1

theorem endsDigits_point (rest : List Char) : Text.EndsDigits ('.' :: rest) := by
  intro c first
  cases first
  rfl

theorem IsExponent.endsMantissa {exponent : List Char} (isExponent : IsExponent exponent) :
    EndsMantissa exponent := by
  cases isExponent with
  | none => simp [EndsMantissa]
  | power mark =>
      intro c first
      cases first
      obtain rfl | rfl := mark <;> decide

theorem splitDecimal?_append {mantissa rest : List Char} (isMantissa : IsMantissa mantissa)
    (ends : EndsMantissa rest) : splitDecimal? (mantissa ++ rest) = some rest := by
  cases isMantissa with
  | whole digits =>
      simp only [splitDecimal?, Text.takeWhile_digits digits.each ends.endsDigits,
        Text.dropWhile_digits digits.each ends.endsDigits]
      split
      next => exact absurd rfl (ends '.' rfl).2
      next => rw [if_neg digits.nonempty]
  | @pointed whole fraction digits =>
      obtain ⟨inWhole, inFraction⟩ := List.forall_mem_append.mp digits.each
      have someDigit : ¬(whole = [] ∧ fraction = []) := by
        intro none
        exact digits.nonempty (List.append_eq_nil_iff.mpr none)
      rw [List.append_assoc, List.cons_append]
      simp only [splitDecimal?, Text.takeWhile_digits inWhole (endsDigits_point _),
        Text.dropWhile_digits inWhole (endsDigits_point _),
        Text.takeWhile_digits inFraction ends.endsDigits,
        Text.dropWhile_digits inFraction ends.endsDigits, if_neg someDigit]

theorem exists_mantissa {chars rest : List Char} (split : splitDecimal? chars = some rest) :
    ∃ mantissa, IsMantissa mantissa ∧ chars = mantissa ++ rest := by
  have cut := List.takeWhile_append_dropWhile (p := Text.isDigit) (l := chars)
  have inWhole : ∀ c ∈ chars.takeWhile Text.isDigit, Text.isDigit c = true :=
    fun c => List.mem_takeWhile_imp
  simp only [splitDecimal?] at split
  split at split
  next after point =>
    rw [point] at cut
    have inFraction : ∀ c ∈ after.takeWhile Text.isDigit, Text.isDigit c = true :=
      fun c => List.mem_takeWhile_imp
    split at split
    next => cases split
    next someDigit =>
      cases split
      refine ⟨_, .pointed ⟨?_, List.forall_mem_append.mpr ⟨inWhole, inFraction⟩⟩, ?_⟩
      · exact fun none => someDigit (List.append_eq_nil_iff.mp none)
      · rw [List.append_assoc, List.cons_append, List.takeWhile_append_dropWhile, cut]
  next =>
    split at split
    next => cases split
    next someDigit =>
      cases split
      exact ⟨_, .whole ⟨someDigit, inWhole⟩, cut.symm⟩

/-! ## The checks -/

theorem isIntegerForm_iff_digits {chars : List Char} : isIntegerForm chars = true ↔
    ∃ sign digits, IsSign sign ∧ IsDigits digits ∧ chars = sign ++ digits := by
  constructor
  · intro accepted
    simp only [isIntegerForm, Bool.and_eq_true, bne_iff_ne, List.all_eq_true] at accepted
    obtain ⟨sign, isSign, whole⟩ := exists_sign chars
    exact ⟨sign, _, isSign, ⟨accepted.1, accepted.2⟩, whole⟩
  · intro form
    obtain ⟨sign, digits, isSign, isDigits, rfl⟩ := form
    simp only [isIntegerForm, dropSign_append isSign isDigits.isUnsigned, Bool.and_eq_true,
      bne_iff_ne, List.all_eq_true]
    exact ⟨isDigits.nonempty, isDigits.each⟩

theorem isIntegerForm_iff {chars : List Char} :
    isIntegerForm chars = true ↔ ∃ value, DenotesInteger chars value := by
  rw [isIntegerForm_iff_digits]
  constructor
  · intro form
    obtain ⟨sign, digits, isSign, isDigits, rfl⟩ := form
    cases isSign with
    | none => exact ⟨_, .unsigned isDigits⟩
    | plus => exact ⟨_, .plus isDigits⟩
    | minus => exact ⟨_, .minus isDigits⟩
  · intro denoted
    obtain ⟨value, denotes⟩ := denoted
    cases denotes with
    | unsigned digits => exact ⟨[], _, .none, digits, rfl⟩
    | plus digits => exact ⟨['+'], _, .plus, digits, rfl⟩
    | minus digits => exact ⟨['-'], _, .minus, digits, rfl⟩

theorem not_denotesInteger_of_form {chars : List Char} {value : Int}
    (noForm : isIntegerForm chars = false) : ¬DenotesInteger chars value := by
  intro denotes
  rw [isIntegerForm_iff.mpr ⟨value, denotes⟩] at noForm
  cases noForm

theorem isDecimalForm_iff {chars : List Char} : isDecimalForm chars = true ↔ IsDecimal chars := by
  rw [isDecimalForm, beq_iff_eq]
  constructor
  · intro split
    obtain ⟨sign, isSign, whole⟩ := exists_sign chars
    obtain ⟨mantissa, isMantissa, body⟩ := exists_mantissa split
    rw [whole, body, List.append_nil]
    exact .signed isSign isMantissa
  · intro decimal
    cases decimal with
    | @signed sign mantissa isSign isMantissa =>
        have ends : EndsMantissa [] := by simp [EndsMantissa]
        have split := splitDecimal?_append isMantissa ends
        have unsigned := isMantissa.isUnsigned_append []
        rw [List.append_nil] at split unsigned
        rw [dropSign_append isSign unsigned, split]

theorem isExponent_iff {rest : List Char} :
    IsExponent rest ↔ rest = [] ∨ ∃ mark power, rest = mark :: power ∧
      (mark = 'e' ∨ mark = 'E') ∧ isIntegerForm power = true := by
  constructor
  · intro isExponent
    cases isExponent with
    | none => exact .inl rfl
    | power mark isSign isDigits =>
        exact .inr ⟨_, _, rfl, mark, isIntegerForm_iff_digits.mpr ⟨_, _, isSign, isDigits, rfl⟩⟩
  · intro form
    obtain rfl | ⟨mark, power, rfl, isMark, accepted⟩ := form
    · exact .none
    · obtain ⟨sign, digits, isSign, isDigits, rfl⟩ := isIntegerForm_iff_digits.mp accepted
      exact .power isMark isSign isDigits

theorem isDoubleForm_iff_cases {chars : List Char} : isDoubleForm chars = true ↔
    chars = "NaN".toList ∨ dropSign chars = "INF".toList ∨
      ∃ rest, splitDecimal? (dropSign chars) = some rest ∧ IsExponent rest := by
  simp only [isDoubleForm, Bool.or_eq_true, beq_iff_eq, or_assoc, isExponent_iff]
  refine or_congr_right (or_congr_right ?_)
  split
  next split => simp [split]
  next mark rest split => simp [split]
  next split => simp [split]

theorem isDoubleForm_iff {chars : List Char} : isDoubleForm chars = true ↔ IsDouble chars := by
  rw [isDoubleForm_iff_cases]
  constructor
  · intro forms
    obtain ⟨sign, isSign, whole⟩ := exists_sign chars
    obtain rfl | infinity | ⟨rest, split, isExponent⟩ := forms
    · exact .notANumber
    · rw [whole, infinity]
      exact .infinity isSign
    · obtain ⟨mantissa, isMantissa, body⟩ := exists_mantissa split
      rw [whole, body]
      exact .number isSign isMantissa isExponent
  · intro double
    cases double with
    | @number sign mantissa exponent isSign isMantissa isExponent =>
        refine .inr (.inr ⟨exponent, ?_, isExponent⟩)
        rw [dropSign_append isSign (isMantissa.isUnsigned_append exponent),
          splitDecimal?_append isMantissa isExponent.endsMantissa]
    | infinity isSign =>
        have unsigned : IsUnsigned "INF".toList := by
          intro c first
          cases first
          decide
        exact .inr (.inl (dropSign_append isSign unsigned))
    | notANumber => exact .inl rfl

end RdfPipeline.Rdf
