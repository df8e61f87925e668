import RdfPipeline.Proofs.Decimal.Rounding

/-!
# Nearest integers

Rounding of integers to the significands of binary numbers. The rounded integer is as close as any
representable one, and from this it follows that rounding keeps the order, although it may make
different integers equal.
-/

set_option autoImplicit false

namespace RdfPipeline.Binary64

/-! ## Rounded quotients -/

theorem divideHalfEven_cases (numerator denominator : Nat) :
    (divideHalfEven numerator denominator = numerator / denominator ∧
        2 * (numerator % denominator) ≤ denominator) ∨
      (divideHalfEven numerator denominator = numerator / denominator + 1 ∧
        denominator ≤ 2 * (numerator % denominator)) := by
  simp only [divideHalfEven]
  split
  · exact .inl ⟨rfl, by omega⟩
  · split
    · exact .inr ⟨rfl, by omega⟩
    · have parity := Nat.mod_two_eq_zero_or_one (numerator / denominator)
      omega

theorem divideHalfEven_one (numerator : Nat) : divideHalfEven numerator 1 = numerator := by
  simp [divideHalfEven, Nat.mod_one]

theorem le_divideHalfEven (numerator denominator : Nat) :
    numerator / denominator ≤ divideHalfEven numerator denominator := by
  obtain ⟨rounded, -⟩ | ⟨rounded, -⟩ := divideHalfEven_cases numerator denominator <;> omega

theorem divideHalfEven_closest {denominator : Nat} (positive : 0 < denominator)
    (numerator factor : Nat) :
    ((numerator : Int) - (divideHalfEven numerator denominator * denominator : Nat)).natAbs ≤
      ((numerator : Int) - (factor * denominator : Nat)).natAbs := by
  have whole := Nat.div_add_mod' numerator denominator
  have remainder := Nat.mod_lt numerator positive
  have next := Nat.add_one_mul (numerator / denominator) denominator
  have sides : factor * denominator ≤ numerator / denominator * denominator ∨
      (numerator / denominator + 1) * denominator ≤ factor * denominator := by
    obtain below | above := Nat.lt_or_ge (numerator / denominator) factor
    · exact .inr (Nat.mul_le_mul_right denominator below)
    · exact .inl (Nat.mul_le_mul_right denominator above)
  obtain ⟨rounded, near⟩ | ⟨rounded, near⟩ := divideHalfEven_cases numerator denominator
  · rw [rounded]
    omega
  · rw [rounded]
    omega

/-! ## Magnitudes -/

/-- The least magnitude that is too large for a finite number. It is not to be evaluated, so what is
known of it leaves the exponent a variable. -/
@[irreducible]
def overflow : Nat :=
  Nat.pow 2 1024

theorem exists_overflow_eq : ∃ power, power = 1024 ∧ overflow = Nat.pow 2 power := by
  refine ⟨1024, rfl, ?_⟩
  unfold overflow
  rfl

/-- The step between the significands with as many binary digits as a magnitude. -/
def step (magnitude : Nat) : Nat :=
  Nat.pow 2 (magnitude.log2 - 52)

/-- A magnitude rounded to a significand, a half to the even one. -/
def roundMagnitude (magnitude : Nat) : Nat :=
  divideHalfEven magnitude (step magnitude) * step magnitude

/-- A significand of 53 binary digits at most, scaled by a power of two. -/
def IsScaled (magnitude : Nat) : Prop :=
  ∃ significand power, significand ≤ 2 * fractions ∧ magnitude = significand * Nat.pow 2 power

theorem IsScaled.of_le {magnitude : Nat} (small : magnitude ≤ 2 * fractions) : IsScaled magnitude :=
  ⟨magnitude, 0, small, (Nat.mul_one magnitude).symm⟩

theorem isScaled_overflow : IsScaled overflow := by
  obtain ⟨power, -, isPower⟩ := exists_overflow_eq
  exact ⟨1, power, by decide, isPower.trans (Nat.one_mul _).symm⟩

theorem step_pos (magnitude : Nat) : 0 < step magnitude :=
  Nat.two_pow_pos _

theorem roundMagnitude_of_narrow {magnitude : Nat} (narrow : magnitude.log2 ≤ 52) :
    roundMagnitude magnitude = magnitude := by
  have one : step magnitude = 1 := by rw [step, Nat.sub_eq_zero_of_le narrow]
  rw [roundMagnitude, one, divideHalfEven_one, Nat.mul_one]

theorem fractions_mul_step {magnitude : Nat} (wide : 52 ≤ magnitude.log2) :
    fractions * step magnitude = Nat.pow 2 magnitude.log2 := by
  calc fractions * step magnitude
      = Nat.pow 2 (52 + (magnitude.log2 - 52)) := (Nat.pow_add 2 52 _).symm
    _ = Nat.pow 2 magnitude.log2 := by rw [Nat.add_sub_of_le wide]

theorem ne_zero_of_wide {magnitude : Nat} (wide : 52 ≤ magnitude.log2) : magnitude ≠ 0 := by
  intro zero
  rw [zero] at wide
  exact absurd wide (by decide)

theorem fractions_mul_step_le {magnitude : Nat} (wide : 52 ≤ magnitude.log2) :
    fractions * step magnitude ≤ magnitude := by
  rw [fractions_mul_step wide]
  exact Nat.log2_self_le (ne_zero_of_wide wide)

theorem fractions_le_divideHalfEven {magnitude : Nat} (wide : 52 ≤ magnitude.log2) :
    fractions ≤ divideHalfEven magnitude (step magnitude) :=
  Nat.le_trans ((Nat.le_div_iff_mul_le (step_pos magnitude)).mpr (fractions_mul_step_le wide))
    (le_divideHalfEven _ _)

theorem divideHalfEven_le_fractions {magnitude : Nat} (wide : 52 ≤ magnitude.log2) :
    divideHalfEven magnitude (step magnitude) ≤ 2 * fractions := by
  have bounded := divideHalfEven_significand_le wide
  rwa [Nat.one_mul] at bounded

theorem isScaled_roundMagnitude (magnitude : Nat) : IsScaled (roundMagnitude magnitude) := by
  obtain narrow | wide := Nat.le_total magnitude.log2 52
  · have below : magnitude < Nat.pow 2 (magnitude.log2 + 1) := Nat.lt_log2_self
    have short : Nat.pow 2 (magnitude.log2 + 1) ≤ 2 * fractions :=
      Nat.pow_le_pow_right Nat.two_pos (Nat.succ_le_succ narrow)
    rw [roundMagnitude_of_narrow narrow]
    exact .of_le (Nat.le_of_lt (Nat.lt_of_lt_of_le below short))
  · exact ⟨_, _, divideHalfEven_le_fractions wide, rfl⟩

theorem IsScaled.multiple_or_le {grid : Nat} (scaled : IsScaled grid) (magnitude : Nat) :
    (∃ factor, grid = factor * step magnitude) ∨ grid ≤ fractions * step magnitude := by
  obtain ⟨significand, power, bounded, rfl⟩ := scaled
  obtain fine | coarse := Nat.lt_or_ge power (magnitude.log2 - 52)
  · refine .inr ?_
    calc significand * Nat.pow 2 power
        ≤ 2 * fractions * Nat.pow 2 power := Nat.mul_le_mul_right _ bounded
      _ = fractions * Nat.pow 2 (power + 1) := by
        rw [Nat.mul_comm 2, Nat.mul_assoc]
        exact congrArg (fractions * ·) Nat.pow_add_one'.symm
      _ ≤ fractions * step magnitude :=
        Nat.mul_le_mul_left _ (Nat.pow_le_pow_right (by decide) fine)
  · obtain ⟨more, rfl⟩ := Nat.exists_eq_add_of_le coarse
    refine .inl ⟨significand * Nat.pow 2 more, ?_⟩
    rw [step, Nat.mul_assoc, Nat.mul_comm (Nat.pow 2 more)]
    exact congrArg (significand * ·) (Nat.pow_add 2 _ more)

/-- No scaled significand is closer to a magnitude than the rounded one. -/
theorem roundMagnitude_closest (magnitude : Nat) {grid : Nat} (scaled : IsScaled grid) :
    ((magnitude : Int) - roundMagnitude magnitude).natAbs ≤ ((magnitude : Int) - grid).natAbs := by
  obtain narrow | wide := Nat.le_total magnitude.log2 52
  · rw [roundMagnitude_of_narrow narrow, Int.sub_self]
    exact Nat.zero_le _
  · obtain ⟨factor, rfl⟩ | below := scaled.multiple_or_le magnitude
    · exact divideHalfEven_closest (step_pos magnitude) magnitude factor
    · -- What lies below is no closer than the least magnitude of the same length.
      have least := divideHalfEven_closest (step_pos magnitude) magnitude fractions
      have reached := fractions_mul_step_le wide
      rw [roundMagnitude]
      omega

theorem roundMagnitude_le_overflow {magnitude : Nat} (below : magnitude < overflow) :
    roundMagnitude magnitude ≤ overflow := by
  obtain narrow | wide := Nat.le_total magnitude.log2 52
  · rw [roundMagnitude_of_narrow narrow]
    exact Nat.le_of_lt below
  · obtain ⟨power, -, isPower⟩ := exists_overflow_eq
    rw [isPower] at below ⊢
    have short : magnitude.log2 < power := (Nat.log2_lt (ne_zero_of_wide wide)).mpr below
    calc roundMagnitude magnitude
        ≤ 2 * fractions * step magnitude :=
          Nat.mul_le_mul_right _ (divideHalfEven_le_fractions wide)
      _ = 2 * Nat.pow 2 magnitude.log2 := by rw [Nat.mul_assoc, fractions_mul_step wide]
      _ = Nat.pow 2 (magnitude.log2 + 1) := Nat.pow_add_one'.symm
      _ ≤ Nat.pow 2 power := Nat.pow_le_pow_right Nat.two_pos short

theorem overflow_le_roundMagnitude {magnitude : Nat} (beyond : overflow ≤ magnitude) :
    overflow ≤ roundMagnitude magnitude := by
  have closest := roundMagnitude_closest magnitude isScaled_overflow
  omega

/-- The closest magnitude of a number, where the overflow stands for the infinite numbers. -/
def nearestMagnitude (magnitude : Nat) : Nat :=
  min (roundMagnitude magnitude) overflow

theorem nearestMagnitude_zero : nearestMagnitude 0 = 0 := by
  rw [nearestMagnitude, roundMagnitude_of_narrow (by decide), Nat.zero_min]

theorem isScaled_nearestMagnitude (magnitude : Nat) : IsScaled (nearestMagnitude magnitude) := by
  rw [nearestMagnitude]
  obtain below | beyond := Nat.le_total (roundMagnitude magnitude) overflow
  · rw [Nat.min_eq_left below]
    exact isScaled_roundMagnitude magnitude
  · rw [Nat.min_eq_right beyond]
    exact isScaled_overflow

theorem nearestMagnitude_closest (magnitude : Nat) {grid : Nat} (scaled : IsScaled grid)
    (bounded : grid ≤ overflow) :
    ((magnitude : Int) - nearestMagnitude magnitude).natAbs ≤
      ((magnitude : Int) - grid).natAbs := by
  have closest := roundMagnitude_closest magnitude scaled
  rw [nearestMagnitude]
  obtain below | beyond := Nat.lt_or_ge magnitude overflow
  · rwa [Nat.min_eq_left (roundMagnitude_le_overflow below)]
  · rw [Nat.min_eq_right (overflow_le_roundMagnitude beyond)]
    omega

/-! ## Integers -/

/-- The integers among the numbers, and the two ends of the number line. -/
def IsRepresentable (value : Int) : Prop :=
  IsScaled value.natAbs ∧ value.natAbs ≤ overflow

/-- The closest representable integer, and of two closest ones that with an even significand. -/
def nearest (value : Int) : Int :=
  value.sign * nearestMagnitude value.natAbs

theorem natAbs_nearest (value : Int) :
    (nearest value).natAbs = nearestMagnitude value.natAbs := by
  rw [nearest, Int.natAbs_mul, Int.natAbs_natCast, Int.natAbs_sign]
  split
  next zero => rw [zero, Int.natAbs_zero, nearestMagnitude_zero]
  next => exact Nat.one_mul _

theorem isRepresentable_nearest (value : Int) : IsRepresentable (nearest value) := by
  rw [IsRepresentable, natAbs_nearest]
  exact ⟨isScaled_nearestMagnitude _, Nat.min_le_right _ _⟩

theorem nearest_closest (value : Int) {grid : Int} (representable : IsRepresentable grid) :
    (value - nearest value).natAbs ≤ (value - grid).natAbs := by
  have closest := nearestMagnitude_closest value.natAbs representable.1 representable.2
  obtain negative | rfl | positive := Int.lt_trichotomy value 0
  · rw [nearest, Int.sign_eq_neg_one_of_neg negative]
    omega
  · simp [nearest]
  · rw [nearest, Int.sign_eq_one_of_pos positive]
    omega

theorem IsRepresentable.nearest_eq {value : Int} (representable : IsRepresentable value) :
    nearest value = value := by
  have closest := nearest_closest value representable
  omega

theorem isRepresentable_of_natAbs_le {value : Int} (small : value.natAbs ≤ 2 * fractions) :
    IsRepresentable value := by
  obtain ⟨power, isLarge, isPower⟩ := exists_overflow_eq
  refine ⟨.of_le small, Nat.le_trans small ?_⟩
  rw [isPower]
  exact Nat.pow_le_pow_right Nat.two_pos (by omega : 53 ≤ power)

theorem isRepresentable_two_pow {exponent : Nat} (bounded : exponent ≤ 1024) :
    IsRepresentable (Nat.pow 2 exponent) := by
  obtain ⟨power, isLarge, isPower⟩ := exists_overflow_eq
  refine ⟨⟨1, exponent, by decide, (Nat.one_mul _).symm⟩, ?_⟩
  rw [Int.natAbs_natCast, isPower]
  exact Nat.pow_le_pow_right Nat.two_pos (by omega)

/-! ## Order -/

theorem nearest_mono {lesser greater : Int} (ordered : lesser ≤ greater) :
    nearest lesser ≤ nearest greater := by
  obtain apart | rfl := Int.lt_or_eq_of_le ordered
  · have lesserClosest := nearest_closest lesser (isRepresentable_nearest greater)
    have greaterClosest := nearest_closest greater (isRepresentable_nearest lesser)
    omega
  · exact Int.le_refl _

/-- Integers that rounding makes equal are equal. -/
def AreToldApart (left right : Int) : Prop :=
  nearest left = nearest right → left = right

theorem AreToldApart.symm {left right : Int} (apart : AreToldApart left right) :
    AreToldApart right left :=
  fun same => (apart same.symm).symm

theorem AreToldApart.compare_nearest {left right : Int} (apart : AreToldApart left right) :
    compare (nearest left) (nearest right) = compare left right := by
  obtain less | rfl | greater := Int.lt_trichotomy left right
  · have different : nearest left ≠ nearest right := fun same => Int.ne_of_lt less (apart same)
    rw [Int.compare_eq_lt.mpr less, Int.compare_eq_lt]
    exact Int.lt_iff_le_and_ne.mpr ⟨nearest_mono (Int.le_of_lt less), different⟩
  · simp
  · have different : nearest left ≠ nearest right := fun same => Int.ne_of_gt greater (apart same)
    rw [Int.compare_eq_gt.mpr greater, Int.compare_eq_gt]
    exact Int.lt_iff_le_and_ne.mpr ⟨nearest_mono (Int.le_of_lt greater), different.symm⟩

theorem areToldApart_iff {left right : Int} :
    AreToldApart left right ↔ compare (nearest left) (nearest right) = compare left right := by
  constructor
  · exact AreToldApart.compare_nearest
  · intro same equal
    rwa [Int.compare_eq_eq.mpr equal, eq_comm, Int.compare_eq_eq] at same

/-- Rounding never turns the order around. -/
theorem compare_nearest (left right : Int) :
    compare (nearest left) (nearest right) = .eq ∨
      compare (nearest left) (nearest right) = compare left right := by
  by_cases same : nearest left = nearest right
  · exact .inl (Int.compare_eq_eq.mpr same)
  · exact .inr (AreToldApart.compare_nearest fun equal => absurd equal same)

theorem IsRepresentable.areToldApart {left right : Int} (leftRepresentable : IsRepresentable left)
    (rightRepresentable : IsRepresentable right) : AreToldApart left right := by
  intro same
  rwa [leftRepresentable.nearest_eq, rightRepresentable.nearest_eq] at same

theorem areToldApart_of_natAbs_lt {left : Int} (small : left.natAbs < 2 * fractions) (right : Int) :
    AreToldApart left right := by
  intro same
  -- The neighbours are representable too, so what lies beyond them is not rounded to `left`.
  have fixed : nearest left = left :=
    (isRepresentable_of_natAbs_le (Nat.le_of_lt small)).nearest_eq
  have below : nearest (left - 1) = left - 1 :=
    (isRepresentable_of_natAbs_le (by omega)).nearest_eq
  have above : nearest (left + 1) = left + 1 :=
    (isRepresentable_of_natAbs_le (by omega)).nearest_eq
  obtain less | rfl | greater := Int.lt_trichotomy left right
  · have reached := nearest_mono (Int.add_one_le_of_lt less)
    omega
  · rfl
  · have reached := nearest_mono (Int.le_sub_one_of_lt greater)
    omega

end RdfPipeline.Binary64
