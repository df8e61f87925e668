import Mathlib.Data.Option.Defs
import RdfPipeline.Proofs.Rdf.Enumeration
import RdfPipeline.Proofs.Shape.Satisfaction
import RdfPipeline.Proofs.Shape.Targets
import RdfPipeline.Shape.Report

/-!
# Reports and the order of triples

Data and shapes may be enumerated in different orders. Whatever a check looks up is the same up to
its order, and every constraint, every shape and the report as a whole carry this over to their
results.
-/

set_option autoImplicit false

namespace RdfPipeline.Shape

open Rdf (Graph Iri Literal Subject Term rdf)

/-- The shapes say the same, with their targets, constraints and property shapes in any order. -/
structure Alike (left right : Shape) : Prop where
  id_eq : left.id = right.id
  targets : left.targets.Perm right.targets
  path_eq : left.path = right.path
  constraints : left.constraints.Perm right.constraints
  properties : left.properties.Perm right.properties
  severity_eq : left.severity = right.severity
  message_eq : left.message = right.message
  name_eq : left.name = right.name
  deactivated_eq : left.deactivated = right.deactivated

namespace Alike

variable {left right : Shape}

theorem refl (shape : Shape) : Alike shape shape :=
  ⟨rfl, .refl _, rfl, .refl _, .refl _, rfl, rfl, rfl, rfl⟩

theorem hasTargets_eq (like : Alike left right) : left.hasTargets = right.hasTargets := by
  rw [hasTargets, hasTargets, Bool.eq_iff_iff, bne_iff_ne, bne_iff_ne]
  refine not_congr ⟨fun none => ?_, fun none => ?_⟩
  · exact List.nil_perm.mp (none ▸ like.targets)
  · exact List.perm_nil.mp (none ▸ like.targets)

theorem mem_references_iff (like : Alike left right) {id : Term} :
    id ∈ left.references ↔ id ∈ right.references :=
  (like.properties.append (like.constraints.flatMap_right _)).mem_iff

end Alike

end RdfPipeline.Shape

namespace RdfPipeline.ShapesGraph

open Rdf (Term)

/-- Every id has shapes in both that say the same, or in none. -/
structure Alike (left right : ShapesGraph) : Prop where
  get? : ∀ id, Option.Rel Shape.Alike (left.get? id) (right.get? id)
  targeted : left.targeted.Perm right.targeted

theorem Alike.refl (shapes : ShapesGraph) : Alike shapes shapes := by
  refine ⟨fun id => ?_, .refl _⟩
  cases shapes.get? id with
  | none => exact .none
  | some shape => exact .some (.refl shape)

theorem Alike.perm_flatMap {left right : ShapesGraph} (alike : Alike left right) {α : Type}
    {ids ids' : List Term} (permuted : ids.Perm ids') {first second : Shape → List α}
    (each : ∀ shape shape', Shape.Alike shape shape' → (first shape).Perm (second shape')) :
    ((ids.filterMap left.get?).flatMap first).Perm
      ((ids'.filterMap right.get?).flatMap second) := by
  simp only [List.filterMap_eq_flatMap_toList, List.flatMap_assoc]
  refine permuted.flatMap fun id _ => ?_
  have related := alike.get? id
  generalize left.get? id = found, right.get? id = found' at related ⊢
  cases related with
  | none => exact .refl []
  | some like =>
      simp only [Option.toList_some, List.flatMap_singleton]
      exact each _ _ like

end RdfPipeline.ShapesGraph

namespace RdfPipeline.Shape

open Rdf (Graph Iri Literal Subject Term rdf)

variable {left right : Graph} {shapes shapes' : ShapesGraph} {shape shape' : Shape}

/-! ## What is looked up -/

mutual

theorem Path.relates_congr (links : left.Links = right.Links) :
    ∀ path : Path, path.Relates left = path.Relates right
  | .predicate _ => by rw [Path.Relates, Path.Relates, links]
  | .inverse path => by simp only [Path.Relates, relates_congr links path]
  | .sequence parts => relatesInTurn_congr links parts
  | .alternative parts => relatesBySome_congr links parts
  | .zeroOrMore path => by simp only [Path.Relates, relates_congr links path]
  | .oneOrMore path => by simp only [Path.Relates, relates_congr links path]
  | .zeroOrOne path => by simp only [Path.Relates, relates_congr links path]

theorem Path.relatesInTurn_congr (links : left.Links = right.Links) :
    ∀ parts : List Path, Path.RelatesInTurn left parts = Path.RelatesInTurn right parts
  | [] => rfl
  | part :: rest => by
      simp only [Path.RelatesInTurn, relates_congr links part, relatesInTurn_congr links rest]

theorem Path.relatesBySome_congr (links : left.Links = right.Links) :
    ∀ parts : List Path, Path.RelatesBySome left parts = Path.RelatesBySome right parts
  | [] => rfl
  | part :: rest => by
      simp only [Path.RelatesBySome, relates_congr links part, relatesBySome_congr links rest]

end

theorem valueNodes_perm (same : left.SameTriples right) (path_eq : shape.path = shape'.path)
    (focus : Term) : (valueNodes left shape focus).Perm (valueNodes right shape' focus) := by
  unfold valueNodes
  rw [← path_eq]
  cases shape.path with
  | none => exact .refl _
  | some path =>
      refine (List.perm_ext_iff_of_nodup (path.nodup_values left focus)
        (path.nodup_values right focus)).mpr fun term => ?_
      rw [Path.mem_values_iff, Path.mem_values_iff, path.relates_congr same.links_eq]

theorem isInstance_congr (same : left.SameTriples right) : IsInstance left = IsInstance right := by
  funext term iri
  rw [IsInstance, IsInstance, same.links_eq]

theorem isInstanceOf_congr (same : left.SameTriples right) (term : Term) (iri : Iri) :
    isInstanceOf left term iri = isInstanceOf right term iri := by
  rw [Bool.eq_iff_iff, isInstanceOf_iff, isInstanceOf_iff, isInstance_congr same]

theorem Target.selects_congr (same : left.SameTriples right) (target : Target) (term : Term) :
    target.Selects left term ↔ target.Selects right term := by
  cases target <;> simp only [Selects, isInstance_congr same, same.links_eq]

theorem focusNodes_perm (same : left.SameTriples right) (targets : shape.targets.Perm shape'.targets) :
    (focusNodes left shape).Perm (focusNodes right shape') := by
  refine (List.perm_ext_iff_of_nodup (nodup_focusNodes left shape)
    (nodup_focusNodes right shape')).mpr fun term => ?_
  rw [mem_focusNodes_iff, mem_focusNodes_iff]
  exact exists_congr fun target =>
    and_congr targets.mem_iff (target.selects_congr same term)

theorem allowedPredicates_perm (alike : ShapesGraph.Alike shapes shapes')
    (properties : shape.properties.Perm shape'.properties) (ignored : List Iri) :
    (allowedPredicates shapes shape ignored).Perm (allowedPredicates shapes' shape' ignored) := by
  refine .append_left ignored ?_
  simp only [List.filterMap_eq_flatMap_toList (fun property : Shape =>
    property.path.bind Path.asPredicate?)]
  exact alike.perm_flatMap properties fun _ _ like => by rw [like.path_eq]

/-! ## Findings -/

variable {values values' : List Term}

theorem forValues_perm (permuted : values.Perm values') {passes passes' : Term → Bool}
    (agree : ∀ value, passes value = passes' value) (message : String) :
    (forValues values passes message).Perm (forValues values' passes' message) := by
  obtain rfl : passes = passes' := funext agree
  exact (permuted.filter _).map _

theorem repeatedLanguages_perm (permuted : values.Perm values') :
    (repeatedLanguages values).Perm (repeatedLanguages values') := by
  have tags : ((values.filterMap languageOf?).map Text.lowerAscii).Perm
      ((values'.filterMap languageOf?).map Text.lowerAscii) :=
    (permuted.filterMap _).map _
  refine (List.mergeSort_perm _ _).trans (.trans ?_ (List.mergeSort_perm _ _).symm)
  simp only [tags.count_eq]
  exact (Rdf.perm_eraseDups fun _ => tags.mem_iff).filter _

theorem checkEquals_perm (permuted : values.Perm values') {others others' : List Term}
    (othersPermuted : others.Perm others') (predicate : Iri) :
    (checkEquals values others predicate).Perm (checkEquals values' others' predicate) :=
  (forValues_perm permuted (fun _ => othersPermuted.contains_eq) _).append
    (forValues_perm othersPermuted (fun _ => permuted.contains_eq) _)

theorem checkClosed_perm (same : left.SameTriples right) {allowed allowed' : List Iri}
    (allowedPermuted : allowed.Perm allowed') (permuted : values.Perm values') :
    (checkClosed left allowed values).Perm (checkClosed right allowed' values') := by
  simp only [checkClosed, allowedPermuted.contains_eq]
  exact (permuted.flatMap fun value _ => same.outgoing value).filterMap _

theorem Constraint.findings_perm (same : left.SameTriples right)
    (alike : ShapesGraph.Alike shapes shapes')
    (properties : shape.properties.Perm shape'.properties) (permuted : values.Perm values')
    (conforms : Term → Term → Bool) (focus : Term) (constraint : Constraint) :
    (constraint.findings left shapes conforms shape focus values).Perm
      (constraint.findings right shapes' conforms shape' focus values') := by
  have others := same.objectsOf focus
  cases constraint with
  | instanceOf iri => exact forValues_perm permuted (fun _ => isInstanceOf_congr same _ _) _
  | datatype iri => exact permuted.flatMap_right _
  | minCount count => simp only [findings, permuted.length_eq, List.Perm.refl]
  | maxCount count => simp only [findings, permuted.length_eq, List.Perm.refl]
  | minLength length => exact permuted.flatMap_right _
  | maxLength length => exact permuted.flatMap_right _
  | uniqueLanguage => exact (repeatedLanguages_perm permuted).map _
  | equals predicate => exact checkEquals_perm permuted (others predicate) predicate
  | disjoint predicate =>
      exact forValues_perm permuted (fun _ => by rw [(others predicate).contains_eq]) _
  | lessThan predicate => exact forValues_perm permuted (fun _ => (others predicate).all_eq) _
  | lessThanOrEquals predicate =>
      exact forValues_perm permuted (fun _ => (others predicate).all_eq) _
  | hasValue term => simp only [findings, permuted.contains_eq, List.Perm.refl]
  | exactlyOne ids => exact permuted.flatMap_right _
  | closed ignored =>
      exact checkClosed_perm same (allowedPredicates_perm alike properties ignored) permuted
  | _ => exact forValues_perm permuted (fun _ => rfl) _

/-! ## Results -/

theorem ownResults_perm (same : left.SameTriples right) (alike : ShapesGraph.Alike shapes shapes')
    (like : Alike shape shape') (permuted : values.Perm values') (conforms : Term → Term → Bool)
    (focus : Term) :
    (ownResults left shapes conforms shape focus values).Perm
      (ownResults right shapes' conforms shape' focus values') := by
  refine like.constraints.flatMap fun constraint _ => ?_
  have described : toResult shape focus constraint = toResult shape' focus constraint := by
    funext finding
    simp only [toResult, like.id_eq, like.path_eq, like.severity_eq, like.message_eq]
  rw [described]
  exact (constraint.findings_perm same alike like.properties permuted conforms focus).map _

theorem conforms_congr (alike : ShapesGraph.Alike shapes shapes') {levels : Nat}
    (checked : ∀ {shape shape' : Shape}, Alike shape shape' → ∀ focusNodes,
      (check left shapes levels shape focusNodes).Perm
        (check right shapes' levels shape' focusNodes)) :
    conforms left shapes (levels + 1) = conforms right shapes' (levels + 1) := by
  funext node id
  unfold conforms
  have related := alike.get? id
  generalize shapes.get? id = found, shapes'.get? id = found' at related ⊢
  cases related with
  | none => rfl
  | some like => exact (checked like [node]).isEmpty_eq

theorem check_perm (same : left.SameTriples right) (alike : ShapesGraph.Alike shapes shapes')
    {levels : Nat} (like : Alike shape shape') {focusNodes focusNodes' : List Term}
    (permuted : focusNodes.Perm focusNodes') :
    (check left shapes levels shape focusNodes).Perm
      (check right shapes' levels shape' focusNodes') := by
  induction levels generalizing shape shape' focusNodes focusNodes' with
  | zero =>
      rw [check, check, like.deactivated_eq]
      split
      · exact .refl []
      · exact permuted.flatMap fun focus _ =>
          ownResults_perm same alike like (valueNodes_perm same like.path_eq focus) _ focus
  | succ levels ih =>
      rw [check_succ, check_succ, like.deactivated_eq,
        conforms_congr alike fun like focusNodes => ih like (.refl focusNodes)]
      split
      · exact .refl []
      · refine permuted.flatMap fun focus _ => ?_
        have values := valueNodes_perm same like.path_eq focus
        refine (ownResults_perm same alike like values _ focus).append ?_
        exact alike.perm_flatMap like.properties fun _ _ like => ih like values

theorem validate_perm (same : left.SameTriples right) (alike : ShapesGraph.Alike shapes shapes')
    (maxDepth : Nat) :
    (validate shapes maxDepth left).results.Perm (validate shapes' maxDepth right).results :=
  alike.perm_flatMap alike.targeted fun _ _ like =>
    check_perm same alike like (focusNodes_perm same like.targets)

namespace Report

variable {report report' : Report}

theorem count_eq_of_perm (permuted : report.results.Perm report'.results) (severity : Severity) :
    report.count severity = report'.count severity :=
  (permuted.filter _).length_eq

theorem conforms_eq_of_perm (permuted : report.results.Perm report'.results) :
    report.conforms = report'.conforms := by
  rw [Report.conforms, Report.conforms, count_eq_of_perm permuted]

end Report

/-- The order in which the triples of the data are enumerated has no influence on a report, apart
from the order of the results. -/
theorem validate_of_sameTriples (shapes : ShapesGraph) (maxDepth : Nat) {left right : Graph}
    (same : left.SameTriples right) :
    (validate shapes maxDepth left).results.Perm (validate shapes maxDepth right).results ∧
      (validate shapes maxDepth left).conforms = (validate shapes maxDepth right).conforms ∧
      ∀ severity, (validate shapes maxDepth left).count severity =
        (validate shapes maxDepth right).count severity := by
  have permuted := validate_perm same (.refl shapes) maxDepth
  exact ⟨permuted, Report.conforms_eq_of_perm permuted, Report.count_eq_of_perm permuted⟩

/-- Whoever is known has to be a literal, and so has whoever is known to them, and so on. -/
def imaginary : Shape :=
  { acquainted with
    id := .iri (ex "Imaginary")
    targets := [.subjectsOf (ex "knows")]
    constraints := [.nodeKind .literal]
    properties := [.iri (ex "Imaginary")] }

def alicesFriends : List Rdf.Triple :=
  [ ⟨.iri (ex "alice"), ex "knows", .iri (ex "bob")⟩,
    ⟨.iri (ex "alice"), ex "knows", .iri (ex "carol")⟩ ]

/-- The results do come in another order. -/
theorem validate_of_sameTriples_imaginary :
    let shapes : ShapesGraph := ⟨[imaginary], [imaginary.id]⟩
    let left := Graph.ofList alicesFriends
    let right := Graph.ofList alicesFriends.reverse
    left.SameTriples right ∧
      (validate shapes 3 left).results.Perm (validate shapes 3 right).results ∧
      (validate shapes 3 left).count .violation = (validate shapes 3 right).count .violation ∧
      (validate shapes 3 left).results.map (·.value) =
        [some (.iri (ex "bob")), some (.iri (ex "carol"))] ∧
      (validate shapes 3 right).results.map (·.value) =
        [some (.iri (ex "carol")), some (.iri (ex "bob"))] := by
  intro shapes left right
  have same : left.SameTriples right := by decide +kernel
  obtain ⟨permuted, -, counts⟩ := validate_of_sameTriples shapes 3 same
  exact ⟨same, permuted, counts .violation, by decide +kernel, by decide +kernel⟩

end RdfPipeline.Shape
