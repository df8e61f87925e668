import RdfPipeline.Proofs.Decimal.Integer
import RdfPipeline.Value.Basic

/-!
# Inference of scalars

What a cell is turned into is what its text denotes, blanks around it aside. A cell that denotes no
scalar in range stays the text that it is: the digits of an integer beyond 64 bits are not rounded to
a float.
-/

set_option autoImplicit false

namespace RdfPipeline.Value

open Decimal (IsSigned)
open Rdf (DenotesInteger)

/-! ## What a cell denotes -/

/-- A float is told from an integer by one of these. -/
def IsFractionMark (c : Char) : Prop :=
  c = '.' ∨ c = 'e' ∨ c = 'E'

/-- The text of a cell, without the blanks around it, denotes the scalar. -/
inductive Denotes (cell : String) : Value → Prop where
  | integer {word : Int64} (denotes : DenotesInteger (Text.trim cell).toList word.toInt) :
      Denotes cell (.integer word)
  | float {number : Binary64} (marked : ∃ c ∈ (Text.trim cell).toList, IsFractionMark c)
      (read : Binary64.parse? (Text.trim cell) = some number) (finite : number.isFinite = true) :
      Denotes cell (.float number)
  | yes (named : Text.trim cell ∈ ["true", "TRUE", "True"]) : Denotes cell (.bool true)
  | no (named : Text.trim cell ∈ ["false", "FALSE", "False"]) : Denotes cell (.bool false)

theorem infer_cases (cell : String) : infer cell = .text cell ∨ Denotes cell (infer cell) := by
  unfold infer
  dsimp only
  split
  next => exact .inl rfl
  next =>
    split
    next word read => exact .inr (.integer (Decimal.parseInt64_eq_ok_iff.mp read))
    next =>
      split
      next number found =>
        split at found
        next fractional =>
          rw [Option.filter_eq_some_iff] at found
          refine .inr (.float ?_ found.1 found.2)
          simpa [IsFractionMark, or_assoc] using fractional
        next => cases found
      next =>
        split
        next named => exact .inr (.yes named)
        next =>
          split
          next named => exact .inr (.no named)
          next => exact .inl rfl

/-! ## Written integers -/

theorem not_isFractionMark_of_isDigit {c : Char} (digit : Text.isDigit c = true) :
    ¬IsFractionMark c := by
  rintro (rfl | rfl | rfl) <;> revert digit <;> decide

theorem not_isFractionMark_of_denotesInteger {chars : List Char} {integer : Int}
    (denotes : DenotesInteger chars integer) : ∀ c ∈ chars, ¬IsFractionMark c := by
  cases denotes with
  | unsigned digits => exact fun c member => not_isFractionMark_of_isDigit (digits.each c member)
  | plus digits | minus digits =>
      rw [List.forall_mem_cons]
      refine ⟨?_, fun c member => not_isFractionMark_of_isDigit (digits.each c member)⟩
      rintro (mark | mark | mark) <;> cases mark

theorem infer_of_denotesInteger {cell : String} {word : Int64}
    (denotes : DenotesInteger (Text.trim cell).toList word.toInt) : infer cell = .integer word := by
  have nonempty : ¬(Text.trim cell).isEmpty := by
    intro empty
    rw [String.isEmpty_iff.mp empty] at denotes
    exact Rdf.not_denotesInteger_of_form rfl denotes
  unfold infer
  dsimp only
  rw [if_neg nonempty, Decimal.parseInt64_eq_ok_iff.mpr denotes]

/-- No written integer has a fraction mark or is the name of a boolean. -/
theorem Denotes.eq_integer {cell : String} {value : Value} {integer : Int}
    (denotes : Denotes cell value) (written : DenotesInteger (Text.trim cell).toList integer) :
    ∃ word : Int64, value = .integer word ∧ word.toInt = integer := by
  have notNamed {names : List String}
      (noForms : ∀ name ∈ names, Rdf.isIntegerForm name.toList = false) :
      Text.trim cell ∉ names :=
    fun named => Rdf.not_denotesInteger_of_form (noForms _ named) written
  cases denotes with
  | @integer word denoted => exact ⟨word, rfl, denoted.unique written⟩
  | float marked =>
      obtain ⟨c, member, mark⟩ := marked
      exact absurd mark (not_isFractionMark_of_denotesInteger written c member)
  | yes named => exact absurd named (notNamed (by decide))
  | no named => exact absurd named (notNamed (by decide))

/-! ## Inference -/

/-- Inference changes no cell beyond what its text denotes. It gives an integer exactly for the cells
that denote one of 64 bits, and this integer; a written integer of more bits stays the cell, as does
every text; and a float is finite, the number that is read from the text of the cell. -/
theorem infer_alters_nothing (cell : String) :
    (∀ word : Int64, infer cell = .integer word ↔
      DenotesInteger (Text.trim cell).toList word.toInt) ∧
    (∀ integer : Int, DenotesInteger (Text.trim cell).toList integer → ¬IsSigned integer →
      infer cell = .text cell) ∧
    (∀ text, infer cell = .text text → text = cell) ∧
    ∀ number, infer cell = .float number →
      number.isFinite = true ∧ Binary64.parse? (Text.trim cell) = some number := by
  have inferred := infer_cases cell
  refine ⟨fun word => ⟨?integer, infer_of_denotesInteger⟩, ?beyond, ?text, ?float⟩
  case integer =>
    intro isInteger
    rw [isInteger] at inferred
    obtain isText | denotes := inferred
    · cases isText
    · cases denotes with
      | integer denotes => exact denotes
  case beyond =>
    intro integer written beyond
    obtain isText | denotes := inferred
    · exact isText
    · obtain ⟨word, -, rfl⟩ := denotes.eq_integer written
      exact absurd (Decimal.isSigned_toInt word) beyond
  case text =>
    intro text isText
    rw [isText] at inferred
    obtain same | denotes := inferred
    · exact Value.text.inj same
    · cases denotes
  case float =>
    intro number isFloat
    rw [isFloat] at inferred
    obtain isText | denotes := inferred
    · cases isText
    · cases denotes with
      | float _ read finite => exact ⟨finite, read⟩

/-- A small number with blanks and zeros around its digits, and the number of an account that has one
bit too many. -/
theorem infer_alters_nothing_account :
    infer "\u2003-0042\t" = .integer (-42) ∧
      DenotesInteger (Text.trim " 9223372036854775808").toList 9223372036854775808 ∧
      ¬IsSigned 9223372036854775808 ∧
      infer " 9223372036854775808" = .text " 9223372036854775808" := by
  have small : DenotesInteger (Text.trim "\u2003-0042\t").toList (-42 : Int64).toInt :=
    .minus ⟨by decide, List.all_eq_true.mp (by decide)⟩
  have large : DenotesInteger (Text.trim " 9223372036854775808").toList 9223372036854775808 :=
    .unsigned ⟨by decide, List.all_eq_true.mp (by decide)⟩
  have beyond : ¬IsSigned 9223372036854775808 := fun within => absurd within.2 (by decide)
  obtain ⟨integers, -⟩ := infer_alters_nothing "\u2003-0042\t"
  obtain ⟨-, kept, -⟩ := infer_alters_nothing " 9223372036854775808"
  exact ⟨(integers _).mpr small, large, beyond, kept _ large beyond⟩

end RdfPipeline.Value
