import Mathlib.Data.List.Forall2
import RdfPipeline.Mapping.Row
import RdfPipeline.Proofs.Template.Expansion

/-!
# Subjects of rows

What the text of a subject is made of. Under a template without colons the cells of a row cannot make
it an absolute identifier, so that every subject lies under the base, and it depends on nothing but
the cells that the template or the subject column names.
-/

set_option autoImplicit false

namespace RdfPipeline

open Rdf (Iri)

/-! ## Absolute identifiers -/

theorem Rdf.Reference.mem_of_splitScheme {chars scheme rest : List Char}
    (found : splitScheme chars = (some scheme, rest)) : ':' ∈ chars := by
  unfold splitScheme at found
  split at found
  next first after =>
    split at found
    · split at found
      next ahead =>
        apply (List.dropWhile_sublist isSchemeChar).mem
        rw [ahead]
        exact List.mem_cons_self
      next => cases found
    · cases found
  next => cases found

theorem Rdf.Iri.looksAbsolute_of_no_colon {text : String} (noColon : ':' ∉ text.toList) :
    looksAbsolute text = false := by
  apply eq_false_of_ne_true
  intro absolute
  unfold looksAbsolute at absolute
  rw [Bool.or_eq_true] at absolute
  cases absolute with
  | inl urn =>
      split at urn
      next rest chars =>
        rw [chars] at noColon
        exact noColon (by simp)
      next => cases urn
  | inr withScheme =>
      split at withScheme
      next found => exact noColon (Reference.mem_of_splitScheme found)
      next => cases withScheme

namespace Mapping

/-! ## Names -/

/-- Nothing but ASCII letters, digits, `_` and `-`. -/
def IsName (text : String) : Prop :=
  ∀ c ∈ text.toList, c.isAlphanum = true ∨ c = '_' ∨ c = '-'

theorem isAlphanum_of_isNameChar {c : Char} (named : isNameChar c = true) :
    c.isAlphanum = true ∨ c = '_' ∨ c = '-' := by
  have digit : Text.isDigit c = true → '0' ≤ c ∧ c ≤ '9' := by
    unfold Text.isDigit Text.digitValue?
    split <;> simp_all
  simp only [isNameChar, Bool.or_eq_true, Bool.and_eq_true, decide_eq_true_eq, beq_iff_eq,
    or_assoc] at named
  unfold Char.isAlphanum Char.isAlpha Char.isUpper Char.isLower Char.isDigit
  simp only [Bool.or_eq_true, Bool.and_eq_true, decide_eq_true_eq, or_assoc]
  obtain lower | upper | isDigit | other := named
  · exact .inr (.inl lower)
  · exact .inl upper
  · exact .inr (.inr (.inl (digit isDigit)))
  · exact .inr (.inr (.inr other))

theorem isName_sanitize (raw : String) : IsName (sanitize raw) := by
  intro c member
  rw [sanitize, String.toList_ofList] at member
  obtain ⟨original, -, rfl⟩ := List.mem_map.mp member
  split
  next named => exact isAlphanum_of_isNameChar named
  next => exact .inr (.inl rfl)

theorem IsName.no_colon {text : String} (name : IsName text) : ':' ∉ text.toList := by
  intro colon
  have impossible := name ':' colon
  revert impossible
  decide

/-! ## Expansions -/

/-- What a segment of a template may add to a subject: a literal itself, a placeholder nothing or a
name behind its mark. -/
inductive Contributes : Template.Segment → String → Prop where
  | literal (text : String) : Contributes (.literal text) text
  | nothing (placeholder : Template.Variable) : Contributes (.variable placeholder) ""
  | name (placeholder : Template.Variable) {lead text : String} :
      lead ∈ ["", "/", "#"] → IsName text → Contributes (.variable placeholder) (lead ++ text)

theorem contributes_expandSegment (record : Record) (segment : Template.Segment) :
    Contributes segment
      (Template.expandSegment (Template.fieldText? record) (fun _ raw => sanitize raw) segment) := by
  cases segment with
  | literal text => exact .literal text
  | «variable» placeholder =>
      rw [Template.expandSegment]
      cases Template.fieldText? record placeholder.name with
      | none => exact .nothing placeholder
      | some raw =>
          refine .name placeholder ?_ (isName_sanitize raw)
          cases placeholder.modifier <;> decide

theorem expandTemplate_contributions (template : Template) (record : Record) :
    ∃ parts, expandTemplate template record = String.join parts ∧
      List.Forall₂ Contributes template.segments parts := by
  refine ⟨_, rfl, ?_⟩
  rw [List.forall₂_map_right_iff]
  exact List.forall₂_same.mpr fun segment _ => contributes_expandSegment record segment

theorem Contributes.no_colon {segment : Template.Segment} {part : String}
    (contributes : Contributes segment part)
    (noColon : ∀ text, segment = .literal text → ':' ∉ text.toList) : ':' ∉ part.toList := by
  cases contributes with
  | literal => exact noColon part rfl
  | nothing => simp
  | @name placeholder lead text marked isName =>
      rw [String.toList_append, List.mem_append, not_or]
      refine ⟨?_, isName.no_colon⟩
      simp only [List.mem_cons, List.not_mem_nil, or_false] at marked
      obtain rfl | rfl | rfl := marked <;> decide

theorem no_colon_of_contributions {segments : List Template.Segment} {parts : List String}
    (contributions : List.Forall₂ Contributes segments parts)
    (noColon : ∀ text, .literal text ∈ segments → ':' ∉ text.toList) :
    ':' ∉ (String.join parts).toList := by
  induction contributions with
  | nil => simp
  | @cons segment part segments parts contributes _ ih =>
      rw [String.join_cons, String.toList_append, List.mem_append, not_or]
      refine ⟨contributes.no_colon ?_, ih ?_⟩
      · intro text same
        exact noColon text (same ▸ List.mem_cons_self)
      · intro text member
        exact noColon text (List.mem_cons_of_mem _ member)

/-! ## Placeholders -/

theorem expandTemplate_congr {template : Template} {left right : Record}
    (agree : ∀ placeholder ∈ template.placeholders,
      Dict.get? placeholder.name left = Dict.get? placeholder.name right) :
    expandTemplate template left = expandTemplate template right := by
  refine Template.expandWith_congr (fun placeholder listed => ?_) _
  rw [Template.fieldText?, Template.fieldText?, agree placeholder listed]

/-! ## Subjects -/

/-- The records agree on the cells that subjects are made of. -/
structure Plan.AgreeOnSubject (plan : Plan) (left right : Record) : Prop where
  placeholders : ∀ template, plan.subjectTemplate = some template →
    ∀ placeholder ∈ template.placeholders,
      Dict.get? placeholder.name left = Dict.get? placeholder.name right
  column : plan.subjectTemplate = none → ∀ column, plan.subjectColumn = some column →
    Dict.get? column left = Dict.get? column right

theorem Plan.AgreeOnSubject.subjectText_eq {plan : Plan} {left right : Record}
    (agree : plan.AgreeOnSubject left right) (number : Nat) :
    plan.subjectText left number = plan.subjectText right number := by
  unfold subjectText
  cases templated : plan.subjectTemplate with
  | some template =>
      dsimp only
      rw [expandTemplate_congr (agree.placeholders template templated)]
  | none =>
      have sameCell : plan.subjectCell? left = plan.subjectCell? right := by
        unfold subjectCell?
        cases isColumn : plan.subjectColumn with
        | none => rfl
        | some column =>
            simp only [Option.bind_some, agree.column templated column isColumn]
      rw [sameCell]

theorem Plan.subjectText_of_template {plan : Plan} {template : Template} {record : Record}
    (templated : plan.subjectTemplate = some template)
    (relative : Iri.looksAbsolute (expandTemplate template record) = false) (number : Nat) :
    plan.subjectText record number = plan.baseUri ++ expandTemplate template record := by
  rw [subjectText, templated]
  simp [relative]

/-- Under a template without colons, or under none, a subject is the base and behind it what the
template and the names of cells add, and records that agree on these cells have the same subject. -/
theorem subjectText_under_base {base : String} {plan : Plan}
    (based : plan.baseUri = normalizeBase base)
    (noColon : ∀ template, plan.subjectTemplate = some template →
      ∀ text, .literal text ∈ template.segments → ':' ∉ text.toList)
    (record : Record) (number : Nat) :
    (∃ rest, plan.subjectText record number = normalizeBase base ++ rest ∧
      (∀ template, plan.subjectTemplate = some template →
        rest = expandTemplate template record ∧ Iri.looksAbsolute rest = false ∧
        ∃ parts, rest = String.join parts ∧
          List.Forall₂ Contributes template.segments parts) ∧
      (plan.subjectTemplate = none → IsName rest ∨ rest = "row/" ++ toString number)) ∧
    ∀ other, plan.AgreeOnSubject record other →
      plan.subjectText record number = plan.subjectText other number := by
  refine ⟨?_, fun other agree => agree.subjectText_eq number⟩
  rw [← based]
  cases templated : plan.subjectTemplate with
  | some template =>
      obtain ⟨parts, joined, contributions⟩ := expandTemplate_contributions template record
      have relative : Iri.looksAbsolute (expandTemplate template record) = false := by
        apply Iri.looksAbsolute_of_no_colon
        rw [joined]
        exact no_colon_of_contributions contributions (noColon template templated)
      refine ⟨_, Plan.subjectText_of_template templated relative number, ?_, ?_⟩
      · intro other same
        cases same
        exact ⟨rfl, relative, parts, joined, contributions⟩
      · intro absent
        cases absent
  | none =>
      rw [Plan.subjectText, templated]
      cases plan.subjectCell? record with
      | some cell =>
          refine ⟨_, rfl, ?_, fun _ => .inl (isName_sanitize cell.toText)⟩
          intro template same
          cases same
      | none =>
          refine ⟨_, String.append_assoc, ?_, fun _ => .inr rfl⟩
          intro template same
          cases same

/-! People by city and name. A cell that holds the address of another place becomes a name. -/

def peopleContext : OperationContext :=
  .ofParameters
    [ ("baseUri", .text " http://ex.org/people "),
      ("propertyMappings", .map []),
      ("subjectTemplate", .text "at-\x7bcity\x7d\x7b/name\x7d") ]

def peopleTemplate : Template where
  source := "at-\x7bcity\x7d\x7b/name\x7d"
  segments := [.literal "at-", .variable ⟨"city", .simple⟩, .variable ⟨"name", .path⟩]

def peoplePlan : Plan :=
  ⟨"http://ex.org/people/", some peopleTemplate, none, none, [], []⟩

def visitor : Record :=
  [("age", .integer 40), ("city", .text "http://evil.org/"), ("name", .text "Zoë B.")]

theorem subjectText_under_base_people :
    Plan.ofContext peopleContext = .ok peoplePlan ∧
      peoplePlan.baseUri = normalizeBase " http://ex.org/people " ∧
      (∀ text, .literal text ∈ peopleTemplate.segments → ':' ∉ text.toList) ∧
      peoplePlan.subjectText visitor 1 = "http://ex.org/people/at-http___evil_org_/Zo__B_" ∧
      (∃ rest, peoplePlan.subjectText visitor 1 = normalizeBase " http://ex.org/people " ++ rest ∧
        Iri.looksAbsolute rest = false ∧ ∃ parts, rest = String.join parts ∧
          List.Forall₂ Contributes peopleTemplate.segments parts) ∧
      peoplePlan.subjectText visitor 1 = peoplePlan.subjectText visitor.tail 1 := by
  have planned : Plan.ofContext peopleContext = .ok peoplePlan := by with_unfolding_all rfl
  have based : peoplePlan.baseUri = normalizeBase " http://ex.org/people " := by decide +kernel
  have noColon : ∀ text, .literal text ∈ peopleTemplate.segments → ':' ∉ text.toList := by
    simp [peopleTemplate]
  have noColonInPlan : ∀ template, peoplePlan.subjectTemplate = some template →
      ∀ text, .literal text ∈ template.segments → ':' ∉ text.toList := by
    intro template same
    cases same
    exact noColon
  have agree : peoplePlan.AgreeOnSubject visitor visitor.tail := by
    have listed : peopleTemplate.placeholders = [⟨"city", .simple⟩, ⟨"name", .path⟩] := by
      decide +kernel
    refine ⟨?_, fun absent => absurd absent (by decide)⟩
    intro template same
    cases same
    rw [listed]
    exact List.forall_mem_cons.mpr ⟨rfl, List.forall_mem_singleton.mpr rfl⟩
  obtain ⟨⟨rest, whole, underTemplate, -⟩, determined⟩ :=
    subjectText_under_base based noColonInPlan visitor 1
  obtain ⟨-, relative, contributions⟩ := underTemplate peopleTemplate rfl
  exact ⟨planned, based, noColon, by decide +kernel, ⟨rest, whole, relative, contributions⟩,
    determined _ agree⟩

end Mapping

end RdfPipeline
