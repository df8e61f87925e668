import Mathlib.Data.Nat.Digits.Defs
import Mathlib.Order.Monotone.Odd
import RdfPipeline.Proofs.Decimal.Nearest

/-!
# Positions of integers

The position of a number grows with its magnitude, and an integer has the position of the nearest
representable one. So numbers read from integers compare like the nearest integers, and small integers
stay what they are.
-/

set_option autoImplicit false

namespace RdfPipeline.Binary64

/-! ## Magnitudes of ranks -/

/-- How many times the least positive magnitude fits in one. -/
@[irreducible]
def unit : Nat :=
  Nat.pow 2 1074

theorem exists_unit_eq : ∃ power, power = 1074 ∧ unit = Nat.pow 2 power := by
  refine ⟨1074, rfl, ?_⟩
  unfold unit
  rfl

theorem unit_pos : 0 < unit := by
  obtain ⟨power, -, unitEq⟩ := exists_unit_eq
  rw [unitEq]
  exact Nat.two_pow_pos power

/-- The magnitude of a rank, counted in least positive ones. -/
def magnitude (rank : Nat) : Nat :=
  if rank < fractions then rank
  else (fractions + rank % fractions) * Nat.pow 2 (rank / fractions - 1)

theorem magnitude_of_lt {rank : Nat} (small : rank < fractions) : magnitude rank = rank :=
  if_pos small

theorem magnitude_succ_mul {fraction : Nat} (inRange : fraction < fractions) (power : Nat) :
    magnitude ((power + 1) * fractions + fraction) = (fractions + fraction) * Nat.pow 2 power := by
  have positive : 0 < fractions := by decide
  have large : ¬(power + 1) * fractions + fraction < fractions := by
    rw [Nat.add_one_mul]
    omega
  rw [magnitude, if_neg large, Nat.mul_comm (power + 1), Nat.mul_add_mod,
    Nat.mod_eq_of_lt inRange, Nat.mul_add_div positive, Nat.div_eq_of_lt inRange, Nat.add_zero,
    Nat.add_sub_cancel]

theorem magnitude_rank (exponent : Fin 2047) (fraction : Fin fractions) :
    magnitude (rank exponent fraction) =
      significand exponent fraction * Nat.pow 2 (scale exponent) := by
  rw [rank, significand, scale]
  cases exponent.val with
  | zero =>
      rw [Nat.zero_mul, Nat.zero_add, magnitude_of_lt fraction.isLt, if_pos rfl]
      exact (Nat.mul_one _).symm
  | succ power =>
      rw [magnitude_succ_mul fraction.isLt, if_neg (Nat.succ_ne_zero power), Nat.add_sub_cancel]

theorem magnitude_scaled {significand : Nat} (lower : fractions ≤ significand)
    (upper : significand ≤ 2 * fractions) (power : Nat) :
    magnitude (power * fractions + significand) = significand * Nat.pow 2 power := by
  obtain ⟨fraction, rfl⟩ := Nat.exists_eq_add_of_le lower
  obtain inRange | next := Nat.lt_or_ge fraction fractions
  · rw [← Nat.add_assoc, ← Nat.add_one_mul, magnitude_succ_mul inRange]
  · -- A significand that was rounded up to the next power of two is carried into the exponent.
    have same : fraction = fractions := by omega
    have twice : power * fractions + (fractions + fractions) =
        (power + 1 + 1) * fractions + 0 := by
      rw [Nat.add_one_mul, Nat.add_one_mul, Nat.add_zero, Nat.add_assoc]
    have pow_succ : Nat.pow 2 (power + 1) = 2 * Nat.pow 2 power := Nat.pow_add_one'
    rw [same, twice, magnitude_succ_mul (by decide), pow_succ, Nat.add_zero, ← Nat.two_mul,
      Nat.mul_comm 2 fractions, Nat.mul_assoc]

theorem exists_scaled_of_le {rank : Nat} (large : fractions ≤ rank) :
    ∃ power significand, rank = power * fractions + significand ∧ fractions ≤ significand ∧
      significand < 2 * fractions := by
  have positive : 0 < fractions := by decide
  have whole := Nat.div_add_mod' rank fractions
  have inRange := Nat.mod_lt rank positive
  have reached : 1 ≤ rank / fractions := (Nat.one_le_div_iff positive).mpr large
  obtain ⟨power, isPower⟩ := Nat.exists_eq_add_of_le' reached
  refine ⟨power, fractions + rank % fractions, ?_, Nat.le_add_right _ _, by omega⟩
  rw [isPower, Nat.add_one_mul] at whole
  omega

theorem magnitude_strictMono : StrictMono magnitude := by
  apply strictMono_nat_of_lt_succ
  intro rank
  obtain small | large := Nat.lt_or_ge rank fractions
  · rw [magnitude_of_lt small]
    obtain stillSmall | next := Nat.lt_or_ge (rank + 1) fractions
    · rw [magnitude_of_lt stillSmall]
      exact Nat.lt_succ_self rank
    · have least := magnitude_scaled (Nat.le_refl fractions) (by decide) 0
      have same : rank + 1 = 0 * fractions + fractions := by omega
      rw [same, least]
      exact Nat.lt_of_lt_of_eq small (Nat.mul_one _).symm
  · obtain ⟨power, significand, rfl, lower, upper⟩ := exists_scaled_of_le large
    rw [Nat.add_assoc, magnitude_scaled lower (Nat.le_of_lt upper),
      magnitude_scaled (Nat.le_succ_of_le lower) upper]
    exact Nat.mul_lt_mul_of_pos_right (Nat.lt_succ_self _) (Nat.two_pow_pos power)

/-- The rank that stands for the infinite numbers. -/
def top : Nat :=
  2047 * fractions

theorem magnitude_top : magnitude top = overflow * unit := by
  obtain ⟨large, isLarge, overflowEq⟩ := exists_overflow_eq
  obtain ⟨small, isSmall, unitEq⟩ := exists_unit_eq
  have topEq : top = (large + small - 52) * fractions + fractions := by
    rw [isLarge, isSmall]
    rfl
  rw [topEq, magnitude_scaled (Nat.le_refl fractions) (by decide), overflowEq, unitEq]
  calc fractions * Nat.pow 2 (large + small - 52)
      = Nat.pow 2 (52 + (large + small - 52)) := (Nat.pow_add 2 52 _).symm
    _ = Nat.pow 2 (large + small) := by rw [Nat.add_sub_of_le (by omega)]
    _ = Nat.pow 2 large * Nat.pow 2 small := Nat.pow_add 2 large small

/-! ## Signs -/

def signed (negative : Bool) (natural : Nat) : Int :=
  if negative then -natural else natural

theorem sign_mul_signed {f : Nat → Nat} (f_zero : f 0 = 0) (negative : Bool) (natural : Nat) :
    (signed negative natural).sign * f (signed negative natural).natAbs =
      signed negative (f natural) := by
  obtain rfl | positive := Nat.eq_zero_or_pos natural
  · cases negative <;> simp [signed, f_zero]
  · have sign : (natural : Int).sign = 1 := Int.sign_eq_one_of_pos (Int.natCast_pos.mpr positive)
    cases negative <;> simp [signed, sign]

theorem nearest_signed (negative : Bool) (natural : Nat) :
    nearest (signed negative natural) = signed negative (nearestMagnitude natural) :=
  sign_mul_signed nearestMagnitude_zero negative natural

def signedMagnitude (position : Int) : Int :=
  position.sign * magnitude position.natAbs

theorem signedMagnitude_signed (negative : Bool) (rank : Nat) :
    signedMagnitude (signed negative rank) = signed negative (magnitude rank) :=
  sign_mul_signed rfl negative rank

theorem signedMagnitude_lt {lesser greater : Int} (less : lesser < greater) :
    signedMagnitude lesser < signedMagnitude greater := by
  suffices rising : StrictMono signedMagnitude from rising less
  apply strictMono_of_odd_strictMonoOn_nonneg
  · intro position
    simp [signedMagnitude]
  · intro left leftNonneg right rightNonneg ordered
    obtain ⟨leftRank, rfl⟩ := Int.eq_ofNat_of_zero_le leftNonneg
    obtain ⟨rightRank, rfl⟩ := Int.eq_ofNat_of_zero_le rightNonneg
    have leftEq := signedMagnitude_signed false leftRank
    have rightEq := signedMagnitude_signed false rightRank
    simp only [signed, Bool.false_eq_true, if_false] at leftEq rightEq
    rw [leftEq, rightEq]
    exact Int.ofNat_lt.mpr (magnitude_strictMono (Int.ofNat_lt.mp ordered))

/-! ## Positions of integers -/

theorem position?_ofRank (negative : Bool) (rank : Nat) :
    (ofRank negative rank).position? = some (signed negative (min rank top)) := by
  unfold ofRank
  split
  next inRange =>
    have below : rank < top := (Nat.div_lt_iff_lt_mul (by decide)).mp inRange
    have whole : rank / fractions * fractions + rank % fractions = rank := Nat.div_add_mod' _ _
    simp only [position?, Binary64.rank, whole, Nat.min_eq_left (Nat.le_of_lt below), signed]
  next outOfRange =>
    have beyond : top ≤ rank :=
      (Nat.le_div_iff_mul_le (by decide)).mp (Nat.le_of_not_lt outOfRange)
    rw [Nat.min_eq_right beyond]
    rfl

theorem ofRatio_of_wide (negative : Bool) {natural : Nat} (wide : 52 ≤ natural.log2) :
    ofRatio negative natural 1 =
      ofRank negative ((natural.log2 - 52 + 1074) * fractions +
        divideHalfEven natural (step natural)) := by
  have nonzero := ne_zero_of_wide wide
  have power : max ((natural.log2 : Int) - 52) (-1074) = ((natural.log2 - 52 : Nat) : Int) := by
    omega
  have exponent : ((natural.log2 - 52 : Nat) + 1074 : Int).toNat = natural.log2 - 52 + 1074 := by
    omega
  rw [ofRatio, if_neg (by omega), floorLog2_one nonzero]
  simp only [power, Int.natCast_nonneg, if_true, Int.toNat_natCast, exponent, Nat.one_mul, step]

theorem ofRatio_of_narrow (negative : Bool) {natural : Nat} (nonzero : natural ≠ 0)
    (narrow : natural.log2 < 52) :
    ofRatio negative natural 1 =
      ofRank negative ((natural.log2 + 1022) * fractions +
        natural * Nat.pow 2 (52 - natural.log2)) := by
  have power : max ((natural.log2 : Int) - 52) (-1074) = (natural.log2 : Int) - 52 := by omega
  have exponent : ((natural.log2 : Int) - 52 + 1074).toNat = natural.log2 + 1022 := by omega
  have shift : (-((natural.log2 : Int) - 52)).toNat = 52 - natural.log2 := by omega
  have below : ¬0 ≤ (natural.log2 : Int) - 52 := by omega
  rw [ofRatio, if_neg (by omega), floorLog2_one nonzero]
  simp only [power, below, if_false, exponent, shift, divideHalfEven_one]

theorem ofRank_zero (negative : Bool) : ofRank negative 0 = zero negative := by
  cases negative <;> decide

theorem exists_ofRank_of_ofRatio (negative : Bool) (natural : Nat) :
    ∃ rank, ofRatio negative natural 1 = ofRank negative rank ∧
      magnitude rank = roundMagnitude natural * unit := by
  obtain ⟨least, isLeast, unitEq⟩ := exists_unit_eq
  by_cases nonzero : natural = 0
  · subst nonzero
    refine ⟨0, by rw [ofRatio, if_pos (.inl rfl), ofRank_zero], ?_⟩
    rw [roundMagnitude_of_narrow (by decide), Nat.zero_mul]
    rfl
  obtain narrow | wide := Nat.lt_or_ge natural.log2 52
  · refine ⟨_, ofRatio_of_narrow negative nonzero narrow, ?_⟩
    have split : natural.log2 + (52 - natural.log2) = 52 := Nat.add_sub_of_le (Nat.le_of_lt narrow)
    have exponents : 52 - natural.log2 + (natural.log2 + 1022) = least := by omega
    have lower : fractions ≤ natural * Nat.pow 2 (52 - natural.log2) := by
      calc fractions = Nat.pow 2 (natural.log2 + (52 - natural.log2)) := by rw [split]
        _ = Nat.pow 2 natural.log2 * Nat.pow 2 (52 - natural.log2) := Nat.pow_add 2 _ _
        _ ≤ _ := Nat.mul_le_mul_right _ (Nat.log2_self_le nonzero)
    have upper : natural * Nat.pow 2 (52 - natural.log2) ≤ 2 * fractions := by
      calc natural * Nat.pow 2 (52 - natural.log2)
          ≤ Nat.pow 2 (natural.log2 + 1) * Nat.pow 2 (52 - natural.log2) :=
            Nat.mul_le_mul_right _ (Nat.le_of_lt Nat.lt_log2_self)
        _ = Nat.pow 2 (natural.log2 + 1 + (52 - natural.log2)) := (Nat.pow_add 2 _ _).symm
        _ = 2 * fractions := by
          rw [Nat.add_right_comm, split]
          rfl
    rw [magnitude_scaled lower upper, roundMagnitude_of_narrow (Nat.le_of_lt narrow), unitEq,
      Nat.mul_assoc, ← exponents]
    exact congrArg (natural * ·) (Nat.pow_add 2 _ _).symm
  · refine ⟨_, ofRatio_of_wide negative wide, ?_⟩
    rw [magnitude_scaled (fractions_le_divideHalfEven wide) (divideHalfEven_le_fractions wide),
      roundMagnitude, unitEq, Nat.mul_assoc, ← isLeast]
    exact congrArg (_ * ·) (Nat.pow_add 2 _ least)

theorem exists_position_of_ofRatio (negative : Bool) (natural : Nat) :
    ∃ rank, (ofRatio negative natural 1).position? = some (signed negative rank) ∧
      magnitude rank = nearestMagnitude natural * unit := by
  obtain ⟨rank, rounded, isMagnitude⟩ := exists_ofRank_of_ofRatio negative natural
  refine ⟨min rank top, by rw [rounded, position?_ofRank], ?_⟩
  rw [magnitude_strictMono.monotone.map_min, isMagnitude, magnitude_top, nearestMagnitude,
    Nat.mul_min_mul_right]

theorem pow_le_of_lt_length {places digits : Nat} (positive : 0 < places)
    (long : places < (Nat.toDigits 10 digits).length) : 10 ^ places ≤ digits := by
  by_contra small
  have short := Nat.toDigits_length 10 digits places positive (Nat.lt_of_not_le small)
  exact Nat.not_lt_of_le short long

theorem two_pow_le_ten_pow {power places : Nat} (bounded : power ≤ 3 * places) :
    2 ^ power ≤ 10 ^ places := by
  refine Nat.le_trans (Nat.pow_le_pow_right Nat.two_pos bounded) ?_
  rw [Nat.pow_mul]
  exact Nat.pow_le_pow_left (by decide) places

theorem overflow_le_of_length {digits : Nat} (long : 400 < (Nat.toDigits 10 digits).length) :
    overflow ≤ digits := by
  obtain ⟨power, isPower, overflowEq⟩ := exists_overflow_eq
  calc overflow = 2 ^ power := overflowEq
    _ ≤ 10 ^ 400 := two_pow_le_ten_pow (by omega)
    _ ≤ digits := pow_le_of_lt_length (by decide) long

theorem exists_position_of_ofDecimal (negative : Bool) (digits : Nat) :
    ∃ rank, (ofDecimal negative digits 0).position? = some (signed negative rank) ∧
      magnitude rank = nearestMagnitude digits * unit := by
  by_cases isZero : digits = 0
  · subst isZero
    refine ⟨0, ?_, ?_⟩
    · cases negative <;> decide
    · rw [nearestMagnitude_zero, Nat.zero_mul]
      rfl
  · by_cases long : 400 < (Nat.toDigits 10 digits).length
    · -- Nothing is rounded here, but so long a number is rounded to an infinite one anyway.
      have beyond := overflow_le_roundMagnitude (overflow_le_of_length long)
      have infinite : ofDecimal negative digits 0 = .infinite negative := by
        simp only [ofDecimal, isZero, if_false]
        rw [if_pos (by omega)]
      refine ⟨top, by rw [infinite]; rfl, ?_⟩
      rw [nearestMagnitude, Nat.min_eq_right beyond, magnitude_top]
    · have finite : ofDecimal negative digits 0 = ofRatio negative digits 1 := by
        simp only [ofDecimal, isZero, if_false]
        rw [if_neg (by omega), if_neg (by omega)]
        simp
      rw [finite]
      exact exists_position_of_ofRatio negative digits

theorem signedMagnitude_of_nearestMagnitude {rank digits : Nat}
    (isMagnitude : magnitude rank = nearestMagnitude digits * unit) (negative : Bool) :
    signedMagnitude (signed negative rank) = nearest (signed negative digits) * unit := by
  rw [signedMagnitude_signed, isMagnitude, nearest_signed]
  cases negative <;> simp [signed]

/-- Numbers read from integers have the order of the nearest integers. -/
theorem compare?_ofDecimal (leftNegative rightNegative : Bool) (leftDigits rightDigits : Nat) :
    (ofDecimal leftNegative leftDigits 0).compare? (ofDecimal rightNegative rightDigits 0) =
      some (compare (nearest (signed leftNegative leftDigits))
        (nearest (signed rightNegative rightDigits))) := by
  obtain ⟨leftRank, leftPosition, leftMagnitude⟩ :=
    exists_position_of_ofDecimal leftNegative leftDigits
  obtain ⟨rightRank, rightPosition, rightMagnitude⟩ :=
    exists_position_of_ofDecimal rightNegative rightDigits
  have rising : StrictMono signedMagnitude := fun _ _ less => signedMagnitude_lt less
  have scaled : StrictMono fun value : Int => value * unit := by
    intro lesser greater less
    exact Int.mul_lt_mul_of_pos_right less (Int.natCast_pos.mpr unit_pos)
  rw [compare?, leftPosition, rightPosition]
  dsimp only
  rw [← cmp_eq_compare, ← cmp_eq_compare, ← rising.cmp_map_eq,
    signedMagnitude_of_nearestMagnitude leftMagnitude,
    signedMagnitude_of_nearestMagnitude rightMagnitude, scaled.cmp_map_eq]

/-! ## Integers among the numbers -/

theorem toInt?_of_ratio {exponent : Fin 2047} {fraction : Fin fractions} {integer bottom : Nat}
    (isRatio : ratio exponent fraction = (integer * bottom, bottom)) (positive : 0 < bottom)
    (negative : Bool) :
    (finite negative exponent fraction).toInt? = some (signed negative integer) := by
  unfold toInt?
  dsimp only
  rw [isRatio]
  dsimp only
  rw [if_pos (Nat.mul_mod_left integer bottom), Nat.mul_div_cancel integer positive]
  rfl

/-- A finite number is an integer if its magnitude is. -/
theorem toInt?_ofRank {rank integer : Nat} (below : rank < top)
    (whole : magnitude rank = integer * unit) (negative : Bool) :
    (ofRank negative rank).toInt? = some (signed negative integer) := by
  obtain ⟨least, isLeast, unitEq⟩ := exists_unit_eq
  have inRange : rank / fractions < 2047 := (Nat.div_lt_iff_lt_mul (by decide)).mpr below
  rw [ofRank, dif_pos inRange]
  generalize isExponent : (⟨rank / fractions, inRange⟩ : Fin 2047) = exponent
  generalize isFraction : (⟨rank % fractions, _⟩ : Fin fractions) = fraction
  have fields : Binary64.rank exponent fraction = rank := by
    rw [← isExponent, ← isFraction]
    exact Nat.div_add_mod' rank fractions
  rw [← fields, magnitude_rank, unitEq] at whole
  obtain fine | coarse := Nat.lt_or_ge (scale exponent) least
  · have isMultiple : significand exponent fraction =
        integer * Nat.pow 2 (least - scale exponent) := by
      apply Nat.eq_of_mul_eq_mul_right (Nat.two_pow_pos (scale exponent))
      refine whole.trans ?_
      rw [Nat.mul_assoc]
      exact congrArg (integer * ·) (Nat.pow_sub_mul_pow 2 (Nat.le_of_lt fine)).symm
    refine toInt?_of_ratio ?_ (Nat.two_pow_pos (least - scale exponent)) negative
    rw [ratio, if_neg (by omega), isMultiple, isLeast]
    rfl
  · have isInteger :
        significand exponent fraction * Nat.pow 2 (scale exponent - least) = integer := by
      apply Nat.eq_of_mul_eq_mul_right (Nat.two_pow_pos least)
      refine Eq.trans ?_ whole
      rw [Nat.mul_assoc]
      exact congrArg (significand exponent fraction * ·) (Nat.pow_sub_mul_pow 2 coarse)
    refine toInt?_of_ratio ?_ Nat.one_pos negative
    rw [ratio, if_pos (isLeast ▸ coarse), ← isInteger, isLeast, Nat.mul_one]

/-- The number read from an integer is the nearest one, unless that is infinite. -/
theorem toInt?_ofInt_of_finite {value : Int} (finite : (nearest value).natAbs < overflow) :
    (ofInt value).toInt? = some (nearest value) := by
  obtain ⟨negative, isNegative⟩ : ∃ negative, decide (value < 0) = negative := ⟨_, rfl⟩
  have isSigned : value = signed negative value.natAbs := by
    subst isNegative
    simp only [signed, decide_eq_true_eq]
    split <;> omega
  have kept : nearestMagnitude value.natAbs = roundMagnitude value.natAbs := by
    rw [natAbs_nearest, nearestMagnitude] at finite
    rw [nearestMagnitude]
    omega
  have isNearest : nearest value = signed negative (roundMagnitude value.natAbs) := by
    rw [← kept, ← nearest_signed, ← isSigned]
  obtain ⟨rank, rounded, isMagnitude⟩ := exists_ofRank_of_ofRatio negative value.natAbs
  have below : rank < top := by
    rw [natAbs_nearest, kept] at finite
    rw [← magnitude_strictMono.lt_iff_lt, isMagnitude, magnitude_top]
    exact Nat.mul_lt_mul_of_pos_right finite unit_pos
  rw [ofInt, isNegative, rounded, isNearest, toInt?_ofRank below isMagnitude]

/-- Integers that need no more binary digits than a significand has are kept as they are. -/
theorem toInt?_ofInt {integer : Nat} (small : integer < 2 * fractions) :
    (ofInt integer).toInt? = some (integer : Int) := by
  have representable : IsRepresentable integer := isRepresentable_of_natAbs_le (Nat.le_of_lt small)
  have kept := representable.nearest_eq
  have finite : (nearest integer).natAbs < overflow := by
    obtain ⟨power, isLarge, isPower⟩ := exists_overflow_eq
    rw [kept, isPower]
    refine Nat.lt_of_lt_of_le small (Nat.pow_le_pow_right Nat.two_pos ?_ : 2 ^ 53 ≤ 2 ^ power)
    omega
  rw [toInt?_ofInt_of_finite finite, kept]

end RdfPipeline.Binary64
