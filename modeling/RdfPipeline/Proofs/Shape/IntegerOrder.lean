import RdfPipeline.Proofs.Decimal.Position
import RdfPipeline.Proofs.Shape.NumericBounds

/-!
# The order of integers

Literals of integer types compare like the nearest binary numbers of the integers that they denote,
and so do the constraints that order values. Their order is never turned around, but large integers
may compare equal to others.
-/

set_option autoImplicit false

namespace RdfPipeline

namespace Rdf

theorem DenotesInteger.exists_number {text : String} {value : Int}
    (denotes : DenotesInteger text.toList value) :
    ∃ negative digits, readNumber? text = some (.ofDecimal negative digits 0) ∧
      value = Binary64.signed negative digits := by
  generalize whole : text.toList = chars at denotes
  cases denotes with
  | unsigned digits => exact ⟨false, _, readNumber?_digits .none digits whole, rfl⟩
  | plus digits => exact ⟨false, _, readNumber?_digits .plus digits whole, rfl⟩
  | minus digits => exact ⟨true, _, readNumber?_digits .minus digits whole, rfl⟩

theorem isNumericType_of_isIntegerType {datatype : Iri} (integer : isIntegerType datatype = true) :
    isNumericType datatype = true := by
  simp [isNumericType, integer]

/-- A literal of an integer type, with the integer that its lexical form denotes. -/
inductive IsInteger : Term → Int → Prop where
  | literal {literal : Literal} {value : Int} :
      isIntegerType literal.datatype = true → DenotesInteger literal.lexical.toList value →
      IsInteger (.literal literal) value

theorem exists_isInteger_iff {literal : Literal} :
    (∃ value, IsInteger (.literal literal) value) ↔
      isIntegerType literal.datatype = true ∧ isIntegerForm literal.lexical.toList = true := by
  rw [isIntegerForm_iff]
  constructor
  · intro isInteger
    obtain ⟨value, integer, denotes⟩ := isInteger
    exact ⟨integer, value, denotes⟩
  · intro accepted
    obtain ⟨integer, value, denotes⟩ := accepted
    exact ⟨value, .literal integer denotes⟩

theorem IsInteger.compare? {left right : Term} {m n : Int} (leftInteger : IsInteger left m)
    (rightInteger : IsInteger right n) :
    left.compare? right = some (compare (Binary64.nearest m) (Binary64.nearest n)) := by
  obtain ⟨leftType, leftDenotes⟩ := leftInteger
  obtain ⟨rightType, rightDenotes⟩ := rightInteger
  obtain ⟨leftNegative, leftDigits, leftRead, rfl⟩ := leftDenotes.exists_number
  obtain ⟨rightNegative, rightDigits, rightRead, rfl⟩ := rightDenotes.exists_number
  rw [Term.compare?, Literal.compare?_of_readNumber? (isNumericType_of_isIntegerType leftType)
    (isNumericType_of_isIntegerType rightType) leftRead rightRead, Binary64.compare?_ofDecimal]

end Rdf

namespace Shape

open Binary64 (nearest AreToldApart IsRepresentable)
open Rdf (Graph IsInteger Literal Term xsd)

/-- A constraint that orders values, with the terms that a value is compared with and the orders
that are accepted. -/
inductive Inequality (graph : Graph) (focus : Term) :
    Constraint → List Term → (Ordering → Prop) → Prop where
  | range {bound : Literal} {constraint : Constraint} {accepts : Ordering → Prop} :
      Bounds bound constraint accepts → Inequality graph focus constraint [.literal bound] accepts
  | lessThan {predicate : Rdf.Iri} :
      Inequality graph focus (.lessThan predicate) (graph.objectsOf focus predicate) (· = .lt)
  | lessThanOrEquals {predicate : Rdf.Iri} :
      Inequality graph focus (.lessThanOrEquals predicate) (graph.objectsOf focus predicate)
        (· ≠ .gt)

theorem Inequality.findings_eq_nil_iff {graph : Graph} {focus : Term} {constraint : Constraint}
    {others : List Term} {accepts : Ordering → Prop}
    (inequality : Inequality graph focus constraint others accepts) {shapes : ShapesGraph}
    {conforms : Term → Term → Bool} {shape : Shape} {values : List Term} :
    constraint.findings graph shapes conforms shape focus values = [] ↔
      ∀ value ∈ values, ∀ other ∈ others, ∃ order,
        value.compare? other = some order ∧ accepts order := by
  cases inequality with
  | range bounds => simp only [bounds.findings_eq_nil_iff, List.forall_mem_singleton]
  | lessThan =>
      simp only [Constraint.findings, forValues_eq_nil_iff, List.all_eq_true, beq_iff_eq,
        exists_eq_right]
  | lessThanOrEquals =>
      simp only [Constraint.findings, forValues_eq_nil_iff, List.all_eq_true]
      refine forall₂_congr fun value _ => forall₂_congr fun other _ => ?_
      cases value.compare? other with
      | none => simp
      | some order => cases order <;> simp

theorem Inequality.findings_integer_eq_nil_iff {graph : Graph} {focus : Term}
    {constraint : Constraint} {others : List Term} {accepts : Ordering → Prop}
    (inequality : Inequality graph focus constraint others accepts) {shapes : ShapesGraph}
    {conforms : Term → Term → Bool} {shape : Shape} {value : Term} {m : Int}
    (integer : IsInteger value m) (integers : ∀ other ∈ others, ∃ n, IsInteger other n) :
    constraint.findings graph shapes conforms shape focus [value] = [] ↔
      ∀ other ∈ others, ∀ n, IsInteger other n → accepts (compare (nearest m) (nearest n)) := by
  rw [inequality.findings_eq_nil_iff, List.forall_mem_singleton]
  refine forall₂_congr fun other member => ?_
  constructor
  · intro passed n otherInteger
    obtain ⟨order, ordered, accepted⟩ := passed
    rw [integer.compare? otherInteger] at ordered
    cases ordered
    exact accepted
  · intro accepted
    obtain ⟨n, otherInteger⟩ := integers other member
    exact ⟨_, integer.compare? otherInteger, accepted n otherInteger⟩

/-- An integer compares with every other one like the nearest binary numbers: never the other way
round, and exactly if these tell the two apart, as they do whenever both are representable or one of
them is small. The constraints that order values accept it accordingly. -/
theorem integers_compare_as_nearest {value : Term} {m : Int} (integer : IsInteger value m) :
    (∀ other n, IsInteger other n →
      value.compare? other = some (compare (nearest m) (nearest n)) ∧
      (value.compare? other = some .eq ∨ value.compare? other = some (compare m n)) ∧
      (value.compare? other = some (compare m n) ↔ AreToldApart m n) ∧
      (IsRepresentable m ∧ IsRepresentable n ∨ m.natAbs < 2 ^ 53 ∨ n.natAbs < 2 ^ 53 →
        AreToldApart m n)) ∧
    ∀ graph focus constraint others accepts, Inequality graph focus constraint others accepts →
      (∀ other ∈ others, ∃ n, IsInteger other n) →
      ∀ shapes conforms shape,
        (constraint.findings graph shapes conforms shape focus [value] = [] ↔
          ∀ other ∈ others, ∀ n, IsInteger other n → accepts (compare (nearest m) (nearest n))) ∧
        ((∀ other ∈ others, ∀ n, IsInteger other n → AreToldApart m n) →
          (constraint.findings graph shapes conforms shape focus [value] = [] ↔
            ∀ other ∈ others, ∀ n, IsInteger other n → accepts (compare m n))) := by
  constructor
  · intro other n otherInteger
    rw [integer.compare? otherInteger]
    refine ⟨rfl, (Binary64.compare_nearest m n).imp (congrArg some) (congrArg some),
      Option.some_inj.trans Binary64.areToldApart_iff.symm, ?_⟩
    intro condition
    obtain ⟨valueRepresentable, otherRepresentable⟩ | valueSmall | otherSmall := condition
    · exact valueRepresentable.areToldApart otherRepresentable
    · exact Binary64.areToldApart_of_natAbs_lt valueSmall n
    · exact (Binary64.areToldApart_of_natAbs_lt otherSmall m).symm
  · intro graph focus constraint others accepts inequality integers shapes conforms shape
    refine ⟨inequality.findings_integer_eq_nil_iff integer integers, fun apart => ?_⟩
    rw [inequality.findings_integer_eq_nil_iff integer integers]
    refine forall₂_congr fun other member => forall₂_congr fun n otherInteger => ?_
    rw [(apart other member n otherInteger).compare_nearest]

/-! The population of a place that has room for one fewer. -/

def population : Literal :=
  .typed "9007199254740993" (xsd "nonNegativeInteger")

def capacity : Literal :=
  .typed "+9007199254740992" (xsd "integer")

def threshold : Literal :=
  .typed "-007" (xsd "long")

theorem isInteger_population : IsInteger (.literal population) 9007199254740993 :=
  .literal (by decide +kernel) (.unsigned ⟨by decide, List.all_eq_true.mp (by decide)⟩)

theorem isInteger_capacity : IsInteger (.literal capacity) 9007199254740992 :=
  .literal (by decide +kernel) (.plus ⟨by decide, List.all_eq_true.mp (by decide)⟩)

theorem isInteger_threshold : IsInteger (.literal threshold) (-7) :=
  .literal (by decide +kernel) (.minus ⟨by decide, List.all_eq_true.mp (by decide)⟩)

theorem integers_compare_as_nearest_population :
    IsInteger (.literal population) 9007199254740993 ∧ IsInteger (.literal threshold) (-7) ∧
      Term.compare? (.literal population) (.literal threshold) = some .gt ∧
      ∀ graph shapes conforms shape focus,
        (Constraint.minExclusive threshold).findings graph shapes conforms shape focus
            [.literal population] = [] ∧
          (Constraint.maxInclusive threshold).findings graph shapes conforms shape focus
            [.literal population] ≠ [] := by
  obtain ⟨compared, constrained⟩ := integers_compare_as_nearest isInteger_population
  have apart : AreToldApart 9007199254740993 (-7) :=
    (compared _ _ isInteger_threshold).2.2.2 (.inr (.inr (by decide)))
  have ordered := (compared _ _ isInteger_threshold).2.2.1.mpr apart
  have nearestOrdered : ∀ n, IsInteger (.literal threshold) n →
      compare (nearest 9007199254740993) (nearest n) = .gt := by
    intro n isInteger
    exact Option.some_inj.mp ((compared _ n isInteger).1.symm.trans ordered)
  have integers : ∀ other ∈ [Term.literal threshold], ∃ n, IsInteger other n := by
    rw [List.forall_mem_singleton]
    exact ⟨_, isInteger_threshold⟩
  refine ⟨isInteger_population, isInteger_threshold, ordered, ?_⟩
  intro graph shapes conforms shape focus
  constructor
  · rw [(constrained graph focus _ _ _ (.range .minExclusive) integers shapes conforms shape).1,
      List.forall_mem_singleton]
    exact nearestOrdered
  · rw [Ne, (constrained graph focus _ _ _ (.range .maxInclusive) integers shapes conforms shape).1,
      List.forall_mem_singleton]
    intro accepted
    exact accepted _ isInteger_threshold (nearestOrdered _ isInteger_threshold)

/-- More people than the place has room for, and the constraint does not report them. -/
theorem population_compares_equal_to_capacity :
    IsInteger (.literal population) 9007199254740993 ∧
      IsInteger (.literal capacity) 9007199254740992 ∧
      Term.compare? (.literal population) (.literal capacity) = some .eq ∧
      ∀ graph shapes conforms shape focus,
        (Constraint.maxInclusive capacity).findings graph shapes conforms shape focus
          [.literal population] = [] := by
  have equal : Term.compare? (.literal population) (.literal capacity) = some .eq := by
    decide +kernel
  refine ⟨isInteger_population, isInteger_capacity, equal, ?_⟩
  intro graph shapes conforms shape focus
  rw [Bounds.maxInclusive.findings_eq_nil_iff, List.forall_mem_singleton]
  exact ⟨_, equal, by decide⟩

end Shape

end RdfPipeline
