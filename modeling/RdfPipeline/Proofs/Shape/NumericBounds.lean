import RdfPipeline.Proofs.Rdf.NumberReading
import RdfPipeline.Proofs.Shape.ConstraintMeaning

/-!
# Bounds on numbers

A literal that is well-formed for a numeric datatype is read as a number, so it can be compared with
every other one unless one of the two is NaN. Range constraints then depend on nothing but the order
of the numbers.
-/

set_option autoImplicit false

namespace RdfPipeline

/-! ## Order of numbers -/

theorem Binary64.position?_eq_none_iff {x : Binary64} : x.position? = none ↔ x = .nan := by
  cases x <;> simp [position?]

theorem Binary64.compare?_eq_none_iff {x y : Binary64} :
    x.compare? y = none ↔ x = .nan ∨ y = .nan := by
  rw [← position?_eq_none_iff, ← position?_eq_none_iff, compare?]
  cases x.position? with
  | none => simp
  | some left => cases y.position? <;> simp

namespace Rdf

theorem Literal.isDouble_of_isWellFormed {literal : Literal}
    (numeric : isNumericType literal.datatype = true) (wellFormed : literal.isWellFormed = true) :
    IsDouble literal.lexical.toList := by
  simp only [isNumericType, Bool.or_eq_true, beq_iff_eq, or_assoc] at numeric
  simp only [isWellFormed] at wellFormed
  split at wellFormed
  next =>
    obtain ⟨value, denotes⟩ := isIntegerForm_iff.mp wellFormed
    exact denotes.isDecimal.isDouble
  next notInteger =>
    split at wellFormed
    next => exact (isDecimalForm_iff.mp wellFormed).isDouble
    next notDecimal =>
      have isFloat : isFloatType literal.datatype = true :=
        (numeric.resolve_left notInteger).resolve_left notDecimal
      rw [if_pos isFloat] at wellFormed
      exact isDoubleForm_iff.mp wellFormed

theorem Literal.compare?_of_readNumber? {left right : Literal} {x y : Binary64}
    (leftNumeric : isNumericType left.datatype = true)
    (rightNumeric : isNumericType right.datatype = true)
    (leftRead : readNumber? left.lexical = some x)
    (rightRead : readNumber? right.lexical = some y) : left.compare? right = x.compare? y := by
  simp [Literal.compare?, leftNumeric, rightNumeric, leftRead, rightRead]

end Rdf

namespace Shape

open Rdf (Graph Literal Term isNumericType readNumber? xsd)

/-! ## Range constraints -/

/-- A range constraint with the orders against its bound that it accepts. -/
inductive Bounds (bound : Literal) : Constraint → (Ordering → Prop) → Prop where
  | minInclusive : Bounds bound (.minInclusive bound) (· ≠ .lt)
  | maxInclusive : Bounds bound (.maxInclusive bound) (· ≠ .gt)
  | minExclusive : Bounds bound (.minExclusive bound) (· = .gt)
  | maxExclusive : Bounds bound (.maxExclusive bound) (· = .lt)

theorem Bounds.findings_eq_nil_iff {bound : Literal} {constraint : Constraint}
    {accepts : Ordering → Prop} (bounds : Bounds bound constraint accepts) {graph : Graph}
    {shapes : ShapesGraph} {conforms : Term → Term → Bool} {shape : Shape} {focus : Term}
    {values : List Term} :
    constraint.findings graph shapes conforms shape focus values = [] ↔
      ∀ value ∈ values, ∃ order, value.compare? (.literal bound) = some order ∧ accepts order := by
  cases bounds <;> simp only [Constraint.findings, checkRange_eq_nil_iff, bne_iff_ne, beq_iff_eq]

/-! ## Well-formed numbers -/

/-- A well-formed numeric literal passes the check of its datatype and is read as a number, which is
NaN only if the text says so. It has an order against every other one unless one of them is NaN, and
range constraints accept it by the order of its number against that of the bound. -/
theorem wellFormed_number_compares {literal : Literal}
    (numeric : isNumericType literal.datatype = true) (wellFormed : literal.isWellFormed = true) :
    ∃ x, readNumber? literal.lexical = some x ∧ (x = .nan ↔ literal.lexical = "NaN") ∧
      (∀ other : Literal, isNumericType other.datatype = true → other.isWellFormed = true →
        (Term.compare? (.literal literal) (.literal other) = none ↔
          literal.lexical = "NaN" ∨ other.lexical = "NaN")) ∧
      ∀ graph shapes conforms shape focus,
        (Constraint.datatype literal.datatype).findings graph shapes conforms shape focus
          [.literal literal] = [] ∧
        ∀ bound y, isNumericType bound.datatype = true → readNumber? bound.lexical = some y →
          ∀ constraint accepts, Bounds bound constraint accepts →
            (constraint.findings graph shapes conforms shape focus [.literal literal] = [] ↔
              ∃ order, x.compare? y = some order ∧ accepts order) := by
  obtain ⟨x, read, isNaN⟩ := (literal.isDouble_of_isWellFormed numeric wellFormed).exists_number
  refine ⟨x, read, isNaN, ?_, ?_⟩
  · intro other otherNumeric otherWellFormed
    obtain ⟨y, otherRead, otherIsNaN⟩ :=
      (other.isDouble_of_isWellFormed otherNumeric otherWellFormed).exists_number
    rw [Term.compare?, Literal.compare?_of_readNumber? numeric otherNumeric read otherRead,
      Binary64.compare?_eq_none_iff, isNaN, otherIsNaN]
  · intro graph shapes conforms shape focus
    constructor
    · rw [Constraint.findings, checkDatatype_eq_nil_iff, List.forall_mem_singleton]
      exact ⟨literal, rfl, rfl, wellFormed⟩
    · intro bound y boundNumeric boundRead constraint accepts bounds
      rw [bounds.findings_eq_nil_iff, List.forall_mem_singleton, Term.compare?,
        Literal.compare?_of_readNumber? numeric boundNumeric read boundRead]

/-! A reading of a gauge, and a bound without a digit behind the point. -/

def gaugeReading : Literal :=
  .typed "+.5e-3" (xsd "double")

def gaugeBound : Literal :=
  .typed "5." (xsd "decimal")

theorem wellFormed_number_compares_reading :
    isNumericType gaugeReading.datatype = true ∧ gaugeReading.isWellFormed = true ∧
      isNumericType gaugeBound.datatype = true ∧ gaugeBound.isWellFormed = true ∧
      Term.compare? (.literal gaugeReading) (.literal gaugeBound) ≠ none ∧
      ∀ graph shapes conforms shape focus,
        (Constraint.datatype gaugeReading.datatype).findings graph shapes conforms shape focus
            [.literal gaugeReading] = [] ∧
          (Constraint.maxExclusive gaugeBound).findings graph shapes conforms shape focus
            [.literal gaugeReading] = [] ∧
          (Constraint.minInclusive gaugeBound).findings graph shapes conforms shape focus
            [.literal gaugeReading] ≠ [] := by
  have numeric : isNumericType gaugeReading.datatype = true := by decide +kernel
  have wellFormed : gaugeReading.isWellFormed = true := by decide +kernel
  have boundNumeric : isNumericType gaugeBound.datatype = true := by decide +kernel
  have boundWellFormed : gaugeBound.isWellFormed = true := by decide +kernel
  obtain ⟨x, read, -, ordered, checked⟩ := wellFormed_number_compares numeric wellFormed
  obtain ⟨y, boundRead, below⟩ : ∃ y, readNumber? gaugeBound.lexical = some y ∧
      ((readNumber? gaugeReading.lexical).bind fun x => x.compare? y) = some .lt :=
    ⟨.finite false 1025 1125899906842624, by decide +kernel, by decide +kernel⟩
  rw [read, Option.bind_some] at below
  refine ⟨numeric, wellFormed, boundNumeric, boundWellFormed, ?_, ?_⟩
  · rw [Ne, ordered gaugeBound boundNumeric boundWellFormed]
    decide
  · intro graph shapes conforms shape focus
    obtain ⟨valid, bounded⟩ := checked graph shapes conforms shape focus
    refine ⟨valid, ?_, ?_⟩
    · rw [bounded gaugeBound y boundNumeric boundRead _ _ .maxExclusive]
      exact ⟨.lt, below, rfl⟩
    · rw [Ne, bounded gaugeBound y boundNumeric boundRead _ _ .minInclusive, below]
      intro accepted
      obtain ⟨order, same, notBelow⟩ := accepted
      exact notBelow (Option.some.inj same).symm

end Shape

end RdfPipeline
