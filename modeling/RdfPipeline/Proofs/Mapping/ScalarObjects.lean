import RdfPipeline.Mapping.Row
import RdfPipeline.Proofs.Rdf.LexicalForms
import RdfPipeline.Proofs.Shape.ConstraintMeaning
import RdfPipeline.Proofs.Value.Structure

/-!
# Objects of scalars

Integers, floats and booleans become literals of the datatype of their kind, written in one of its
lexical forms. Lists of them, nested at will, become the literals of their scalars in order.
-/

set_option autoImplicit false

namespace RdfPipeline

open Rdf (DenotesInteger Iri IsDigits IsDouble IsMantissa Literal Term xsd)

/-! ## Written numbers -/

namespace Decimal

theorem isDigits_toDigits (value : Nat) : IsDigits (Nat.toDigits 10 value) :=
  ⟨Nat.toDigits_ne_nil, fun _ member => Text.isDigit_of_mem_toDigits member⟩

theorem zeros_isDigit (count : Nat) : ∀ c ∈ List.replicate count '0', Text.isDigit c = true := by
  intro c member
  rw [List.eq_of_mem_replicate member]
  rfl

/-- Wherever the point of a number falls, what is written is digits with at most one point. -/
theorem isMantissa_positionalText {digits : List Char} (isDigits : IsDigits digits)
    (leading : Int) : IsMantissa (positionalText digits leading false) := by
  simp only [positionalText]
  split
  next small =>
    have pointed : IsMantissa (['0'] ++ '.' ::
        (List.replicate ((-leading).toNat - 1) '0' ++ digits)) :=
      .pointed ((isDigits.prepend (zeros_isDigit _)).prepend (zeros_isDigit 1))
    exact pointed
  next =>
    split
    next whole =>
      simp only [Bool.false_eq_true, if_false, List.append_nil]
      exact .whole (isDigits.append (zeros_isDigit _))
    next =>
      apply IsMantissa.pointed
      rw [List.take_append_drop]
      exact isDigits

theorem isMantissa_magnitudeText (exponent : Fin 2047) (fraction : Fin Binary64.fractions) :
    IsMantissa (magnitudeText Binary64.plainStyle exponent fraction) := by
  simp only [magnitudeText, Binary64.plainStyle]
  split
  · exact isMantissa_positionalText (isDigits_toDigits 0) 0
  · exact isMantissa_positionalText (isDigits_toDigits _) _

end Decimal

namespace Mapping

theorem isDouble_doubleText (value : Binary64) : IsDouble (doubleText value).toList := by
  cases value with
  | nan => exact .notANumber
  | infinite negative =>
      cases negative with
      | true => exact .infinity .minus
      | false => exact .infinity .none
  | finite negative exponent fraction =>
      have magnitude := (Decimal.isMantissa_magnitudeText exponent fraction)
      simp only [doubleText, Binary64.toText, String.toList_ofList]
      cases negative with
      | true => exact Rdf.IsDecimal.isDouble (.signed .minus magnitude)
      | false => exact Rdf.IsDecimal.isDouble (.signed .none magnitude)

theorem denotesInteger_toString (value : Int) : DenotesInteger (toString value).toList value := by
  have digits := Decimal.isDigits_toDigits value.natAbs
  rw [Text.toList_toString]
  split
  next negative =>
    have denotes := DenotesInteger.minus digits
    rwa [Text.decimalValue_toDigits, ← Int.eq_neg_natAbs_of_nonpos (Int.le_of_lt negative)]
      at denotes
  next nonnegative =>
    have denotes := DenotesInteger.unsigned digits
    rwa [Text.decimalValue_toDigits, Int.natAbs_of_nonneg (Int.not_lt.mp nonnegative)] at denotes

/-! ## Scalars -/

/-- Integers, floats and booleans, and lists of such values, nested at will. -/
inductive IsScalarTree : Value → Prop where
  | bool {value} : IsScalarTree (.bool value)
  | integer {value} : IsScalarTree (.integer value)
  | float {value} : IsScalarTree (.float value)
  | list {items} : (∀ item ∈ items, IsScalarTree item) → IsScalarTree (.list items)

mutual

/-- What stands in nested lists, from left to right. -/
def leaves : Value → List Value
  | .list items => itemLeaves items
  | scalar => [scalar]

def itemLeaves : List Value → List Value
  | [] => []
  | item :: rest => leaves item ++ itemLeaves rest

end

/-- The literal has the datatype of the kind of the scalar, and a lexical form of it. That of an
integer denotes the integer. -/
inductive Writes : Value → Literal → Prop where
  | bool {value : Bool} {literal : Literal} :
      literal.datatype = xsd "boolean" → literal.isWellFormed = true → Writes (.bool value) literal
  | integer {value : Int64} {literal : Literal} :
      literal.datatype = xsd "integer" → literal.isWellFormed = true →
      DenotesInteger literal.lexical.toList value.toInt → Writes (.integer value) literal
  | float {value : Binary64} {literal : Literal} :
      literal.datatype = xsd "double" → literal.isWellFormed = true → Writes (.float value) literal

theorem isWellFormed_integer {text : String} {value : Int}
    (denotes : DenotesInteger text.toList value) :
    (Literal.typed text (xsd "integer")).isWellFormed = true := by
  have isInteger : Rdf.isIntegerType (xsd "integer") = true := by decide +kernel
  have accepted : Rdf.isIntegerForm text.toList = true := Rdf.isIntegerForm_iff.mpr ⟨_, denotes⟩
  simp only [Literal.isWellFormed, Literal.typed, Literal.datatype, isInteger, accepted, if_true]

theorem isWellFormed_double {text : String} (double : IsDouble text.toList) :
    (Literal.typed text (xsd "double")).isWellFormed = true := by
  have notInteger : Rdf.isIntegerType (xsd "double") = false := by decide +kernel
  have notDecimal : xsd "double" ≠ xsd "decimal" := by decide +kernel
  have isFloat : Rdf.isFloatType (xsd "double") = true := by decide +kernel
  have accepted : Rdf.isDoubleForm text.toList = true := Rdf.isDoubleForm_iff.mpr double
  simp only [Literal.isWellFormed, Literal.typed, Literal.datatype, notInteger, notDecimal, isFloat,
    accepted, Bool.false_eq_true, if_false, if_true]

theorem forall₂_objects {value : Value} (scalar : IsScalarTree value) (datatype : Option Iri) :
    List.Forall₂ (fun leaf object => ∃ literal, object = .literal literal ∧ Writes leaf literal)
      (leaves value) (objects datatype value) := by
  induction value using Value.induction with
  | null => cases scalar
  | bool value =>
      refine .cons ⟨_, rfl, .bool rfl ?_⟩ .nil
      cases value <;> decide +kernel
  | integer value =>
      have denotes := denotesInteger_toString value.toInt
      exact .cons ⟨_, rfl, .integer rfl (isWellFormed_integer denotes) denotes⟩ .nil
  | float value =>
      exact .cons ⟨_, rfl, .float rfl (isWellFormed_double (isDouble_doubleText value))⟩ .nil
  | text value => cases scalar
  | map entries => cases scalar
  | list items ih =>
      cases scalar with
      | list each =>
          rw [leaves, objects]
          induction items with
          | nil => exact .nil
          | cons item rest restIH =>
              rw [List.forall_mem_cons] at ih each
              have present : item.isMissing = false := by
                cases each.1 <;> rfl
              rw [itemLeaves, itemObjects, present]
              exact List.rel_append (ih.1 each.1) (restIH ih.2 each.2)

/-! ## Checked objects -/

theorem Writes.isWellFormed {scalar : Value} {literal : Literal} (writes : Writes scalar literal) :
    literal.isWellFormed = true := by
  cases writes <;> assumption

theorem Writes.datatype_mem {scalar : Value} {literal : Literal} (writes : Writes scalar literal) :
    literal.datatype ∈ [xsd "integer", xsd "double", xsd "boolean"] := by
  cases writes <;> simp [*]

/-- A datatype check reports values for themselves, and no literal that is well-formed. -/
theorem value_ne_of_mem_checkDatatype {values : List Term} {literal : Literal}
    {finding : Shape.Finding} (wellFormed : literal.isWellFormed = true)
    (found : finding ∈ Shape.checkDatatype values literal.datatype) :
    finding.value ≠ some (.literal literal) := by
  obtain ⟨value, -, ofValue⟩ := List.mem_flatMap.mp found
  intro reported
  cases value with
  | iri iri =>
      cases List.mem_singleton.mp ofValue
      cases reported
  | blank node =>
      cases List.mem_singleton.mp ofValue
      cases reported
  | literal other =>
      dsimp only at ofValue
      split at ofValue
      next sameType =>
        split at ofValue
        next => cases ofValue
        next illFormed =>
          cases List.mem_singleton.mp ofValue
          cases reported
          exact illFormed wellFormed
      next otherType =>
        cases List.mem_singleton.mp ofValue
        cases reported
        exact otherType rfl

/-- Each scalar becomes one literal of the datatype of its kind, in a lexical form of it, whatever
datatype the column has, so that a check for that datatype never reports the literal. -/
theorem objects_pass_datatype {value : Value} (scalar : IsScalarTree value)
    (datatype : Option Iri) :
    List.Forall₂ (fun leaf object => ∃ literal, object = .literal literal ∧ Writes leaf literal)
      (leaves value) (objects datatype value) ∧
    ∀ object ∈ objects datatype value, ∃ literal : Literal, object = .literal literal ∧
      literal.datatype ∈ [xsd "integer", xsd "double", xsd "boolean"] ∧
      literal.isWellFormed = true ∧
      ∀ graph shapes conforms shape focus values, ∀ finding ∈
        (Shape.Constraint.datatype literal.datatype).findings graph shapes conforms shape focus
          values, finding.value ≠ some object := by
  have written := forall₂_objects scalar datatype
  refine ⟨written, ?_⟩
  intro object member
  obtain ⟨place, inside, same⟩ := List.mem_iff_getElem.mp member
  obtain ⟨literal, isLiteral, writes⟩ := written.get (written.length_eq ▸ inside) inside
  have objectEq : object = .literal literal := same.symm.trans isLiteral
  refine ⟨literal, objectEq, writes.datatype_mem, writes.isWellFormed, ?_⟩
  intro graph shapes conforms shape focus values finding found
  rw [objectEq]
  exact value_ne_of_mem_checkDatatype writes.isWellFormed found

/-! Readings of a sensor, some of them out of its range. -/

def readings : Value :=
  .list [.integer Int64.minValue, .list [.float .nan, .float (.infinite true), .bool true],
    .float (Binary64.zero true), .float (.finite false ⟨2046, by decide⟩ ⟨0, by decide⟩), .list []]

theorem objects_pass_datatype_readings :
    IsScalarTree readings ∧
      ((objects (some (xsd "date")) readings).take 5).map Rdf.Term.toText =
        ["\"-9223372036854775808\"^^<http://www.w3.org/2001/XMLSchema#integer>",
          "\"NaN\"^^<http://www.w3.org/2001/XMLSchema#double>",
          "\"-INF\"^^<http://www.w3.org/2001/XMLSchema#double>",
          "\"true\"^^<http://www.w3.org/2001/XMLSchema#boolean>",
          "\"-0\"^^<http://www.w3.org/2001/XMLSchema#double>"] ∧
      (objects (some (xsd "date")) readings).length = 6 ∧
      ∀ object ∈ objects (some (xsd "date")) readings, ∃ literal : Literal,
        object = .literal literal ∧ literal.isWellFormed = true := by
  have outliers : IsScalarTree (.list [.float .nan, .float (.infinite true), .bool true]) :=
    .list (by simp [IsScalarTree.float, IsScalarTree.bool])
  have none : IsScalarTree (.list []) := .list (by simp)
  have scalar : IsScalarTree readings :=
    .list (by simp [IsScalarTree.float, IsScalarTree.integer, outliers, none])
  obtain ⟨written, checked⟩ := objects_pass_datatype scalar (some (xsd "date"))
  refine ⟨scalar, by decide +kernel, by decide +kernel, ?_⟩
  intro object member
  obtain ⟨literal, same, -, wellFormed, -⟩ := checked object member
  exact ⟨literal, same, wellFormed⟩

end Mapping

end RdfPipeline
