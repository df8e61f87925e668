import RdfPipeline.Proofs.Shape.Compilation
import RdfPipeline.Proofs.Shape.Satisfaction
import RdfPipeline.Shape.Report

/-!
# The bound on nesting

Checking without any bound is a relation that has no rule for a shape that is out of reach or
unknown. A bound that leaves room for the longest chain of references finds what the relation says,
so that no two such bounds make a difference.
-/

set_option autoImplicit false

namespace RdfPipeline.Shape

open Rdf (Graph Iri Literal Subject Term rdf xsd)

variable {graph : Graph} {shapes : ShapesGraph} {shape : Shape}

/-! ## Checking without a bound -/

/-- The results of a shape at its focus nodes when every shape that it refers to is found and
checked in the same way: property shapes at the values, and the others for conformance. -/
inductive FullyChecked (graph : Graph) (shapes : ShapesGraph) :
    Shape → List Term → List Result → Prop where
  | deactivated {shape : Shape} {focusNodes : List Term} (off : shape.deactivated = true) :
      FullyChecked graph shapes shape focusNodes []
  | active {shape : Shape} {focusNodes : List Term} {target : Term → Shape}
      {nested : Term → List Term → List Result} (on : shape.deactivated = false)
      (found : ∀ id ∈ shape.references, shapes.get? id = some (target id))
      (each : ∀ id ∈ shape.references, ∀ values,
        FullyChecked graph shapes (target id) values (nested id values)) :
      FullyChecked graph shapes shape focusNodes
        (focusNodes.flatMap fun focus =>
          ownResults graph shapes (fun value id => (nested id [value]).isEmpty) shape focus
              (valueNodes graph shape focus) ++
            shape.properties.flatMap fun id => nested id (valueNodes graph shape focus))

/-- The report lists what checking every shape with targets without a bound finds. -/
def FullyReported (graph : Graph) (shapes : ShapesGraph) (report : Report) : Prop :=
  ∃ parts, List.Forall₂
      (fun shape part => FullyChecked graph shapes shape (focusNodes graph shape) part)
      shapes.targetedShapes parts ∧
    report.results = parts.flatten

theorem ownResults_congr {conforms conforms' : Term → Term → Bool}
    (agree : ∀ id ∈ shape.references, ∀ value, conforms value id = conforms' value id)
    (focus : Term) (values : List Term) :
    ownResults graph shapes conforms shape focus values =
      ownResults graph shapes conforms' shape focus values := by
  refine List.flatMap_congr fun constraint member => ?_
  rw [constraint.findings_congr fun id mentioned =>
    agree id (mem_references_of_constraints member mentioned)]

theorem FullyChecked.unique {focusNodes : List Term} {results results' : List Result}
    (first : FullyChecked graph shapes shape focusNodes results)
    (second : FullyChecked graph shapes shape focusNodes results') : results = results' := by
  induction first generalizing results' with
  | deactivated off =>
      cases second with
      | deactivated => rfl
      | active on => exact absurd off (by simp [on])
  | @active shape focusNodes target nested on found each ih =>
      cases second with
      | deactivated off => exact absurd off (by simp [on])
      | @active _ _ target' nested' on' found' each' =>
          have same : ∀ id ∈ shape.references, ∀ values, nested id values = nested' id values := by
            intro id mentioned values
            have sameTarget : target id = target' id :=
              Option.some.inj ((found id mentioned).symm.trans (found' id mentioned))
            exact ih id mentioned values (sameTarget ▸ each' id mentioned values)
          refine List.flatMap_congr fun focus _ => ?_
          have own := @ownResults_congr graph shapes shape
            (fun value id => (nested id [value]).isEmpty)
            (fun value id => (nested' id [value]).isEmpty)
            (fun id mentioned value => by rw [same id mentioned [value]])
            focus (valueNodes graph shape focus)
          rw [own]
          refine congrArg _ (List.flatMap_congr fun id member => ?_)
          exact same id (mem_references_of_properties member) _

/-! ## Checking with enough levels -/

/-- Whatever the shapes refer to is among them. -/
def ClosedUnderReferences (shapes : ShapesGraph) : Prop :=
  ∀ shape ∈ shapes.shapes, ∀ id ∈ shape.references,
    ∃ referenced ∈ shapes.shapes, shapes.get? id = some referenced

theorem check_zero_of_active (on : shape.deactivated = false) (focusNodes : List Term) :
    check graph shapes 0 shape focusNodes = focusNodes.flatMap fun focus =>
      ownResults graph shapes (fun _ _ => true) shape focus (valueNodes graph shape focus) ++
        shape.properties.flatMap fun _ => [] := by
  have silent : (shape.properties.flatMap fun _ => ([] : List Result)) = [] :=
    List.flatMap_eq_nil_iff.mpr fun _ _ => rfl
  simp only [check, on, Bool.false_eq_true, if_false, silent, List.append_nil]

theorem check_succ_of_found (on : shape.deactivated = false) {target : Term → Shape}
    (found : ∀ id ∈ shape.references, shapes.get? id = some (target id)) (levels : Nat)
    (focusNodes : List Term) :
    check graph shapes (levels + 1) shape focusNodes = focusNodes.flatMap fun focus =>
      ownResults graph shapes
          (fun value id => (check graph shapes levels (target id) [value]).isEmpty) shape focus
          (valueNodes graph shape focus) ++
        shape.properties.flatMap fun id =>
          check graph shapes levels (target id) (valueNodes graph shape focus) := by
  rw [check_succ]
  simp only [on, Bool.false_eq_true, if_false]
  refine List.flatMap_congr fun focus _ => ?_
  have properties : shape.properties.filterMap shapes.get? = shape.properties.map target := by
    rw [← List.filterMap_eq_map]
    exact List.filterMap_congr fun id member => found id (mem_references_of_properties member)
  rw [properties, List.flatMap_map]
  refine congrArg (· ++ _) (ownResults_congr (fun id mentioned value => ?_) _ _)
  simp only [conforms, found id mentioned]

theorem ClosedUnderReferences.exists_target (closed : ClosedUnderReferences shapes)
    (member : shape ∈ shapes.shapes) :
    ∃ target : Term → Shape, ∀ id ∈ shape.references,
      shapes.get? id = some (target id) ∧ target id ∈ shapes.shapes := by
  refine ⟨fun id => (shapes.get? id).getD shape, fun id mentioned => ?_⟩
  obtain ⟨referenced, listed, found⟩ := closed shape member id mentioned
  simp only [found, Option.getD_some]
  exact ⟨trivial, listed⟩

theorem check_fullyChecked (closed : ClosedUnderReferences shapes) {height levels : Nat}
    (member : shape ∈ shapes.shapes) (within : ChainsWithin shapes height shape)
    (enough : height ≤ levels) (focusNodes : List Term) :
    FullyChecked graph shapes shape focusNodes (check graph shapes levels shape focusNodes) := by
  -- On the levels. Without any left no chain starts here, and every reference would start one.
  induction levels generalizing height shape focusNodes with
  | zero =>
      have noReference : ∀ id, id ∉ shape.references := by
        intro id mentioned
        obtain ⟨referenced, -, found⟩ := closed shape member id mentioned
        obtain ⟨below, rfl, -⟩ := within.exists_of_refersTo ⟨id, mentioned, found⟩
        exact absurd enough (Nat.not_succ_le_zero below)
      cases status : shape.deactivated with
      | true =>
          simp only [check, status, if_true]
          exact .deactivated status
      | false =>
          rw [check_zero_of_active status]
          exact @FullyChecked.active graph shapes shape focusNodes (fun _ => shape) (fun _ _ => [])
            status (fun id mentioned => absurd mentioned (noReference id))
            (fun id mentioned => absurd mentioned (noReference id))
  | succ levels ih =>
      cases status : shape.deactivated with
      | true =>
          simp only [check, status, if_true]
          exact .deactivated status
      | false =>
          obtain ⟨target, found⟩ := closed.exists_target member
          rw [check_succ_of_found status fun id mentioned => (found id mentioned).1]
          refine .active status (fun id mentioned => (found id mentioned).1) ?_
          intro id mentioned values
          obtain ⟨below, rfl, shorter⟩ :=
            within.exists_of_refersTo ⟨id, mentioned, (found id mentioned).1⟩
          exact ih (found id mentioned).2 shorter (Nat.le_of_succ_le_succ enough) values

theorem FullyReported.unique {report report' : Report}
    (first : FullyReported graph shapes report) (second : FullyReported graph shapes report') :
    report = report' := by
  obtain ⟨parts, checked, results⟩ := first
  obtain ⟨parts', checked', results'⟩ := second
  have same : parts = parts' :=
    List.right_unique_forall₂' (fun _ _ _ one other => one.unique other) checked checked'
  cases report
  cases report'
  exact congrArg Report.mk (results.trans (same ▸ results'.symm))

/-! ## The longest chain of references -/

theorem HasChain.of_succ {length : Nat} (chain : HasChain shapes (length + 1) shape) :
    HasChain shapes length shape := by
  induction length generalizing shape with
  | zero => trivial
  | succ length ih =>
      obtain ⟨referenced, refers, rest⟩ := chain
      exact ⟨referenced, refers, ih rest⟩

theorem HasChain.of_le {length longer : Nat} (chain : HasChain shapes longer shape)
    (shorter : length ≤ longer) : HasChain shapes length shape := by
  induction shorter with
  | refl => exact chain
  | step _ ih => exact ih chain.of_succ

theorem chainsWithin_iff {height : Nat} :
    ChainsWithin shapes height shape ↔ ¬ HasChain shapes (height + 1) shape := by
  constructor
  · intro within chain
    exact Nat.not_succ_le_self height (within (height + 1) chain)
  · intro none length chain
    by_contra longer
    exact none (chain.of_le (Nat.not_le.mp longer))

instance decidableHasChain (shapes : ShapesGraph) :
    (length : Nat) → (shape : Shape) → Decidable (HasChain shapes length shape)
  | 0, _ => .isTrue trivial
  | length + 1, shape =>
      have : DecidablePred (HasChain shapes length) := decidableHasChain shapes length
      decidable_of_iff
        (∃ referenced ∈ shape.references.filterMap shapes.get?, HasChain shapes length referenced)
        (exists_congr fun _ => and_congr_left fun _ => List.mem_filterMap)

instance (shapes : ShapesGraph) (height : Nat) (shape : Shape) :
    Decidable (ChainsWithin shapes height shape) :=
  decidable_of_iff _ chainsWithin_iff.symm

/-! ## Reports -/

theorem mem_shapes_of_mem_targetedShapes (targeted : shape ∈ shapes.targetedShapes) :
    shape ∈ shapes.shapes := by
  obtain ⟨id, -, found⟩ := List.mem_filterMap.mp targeted
  exact List.mem_of_find?_eq_some found

theorem validate_fullyReported (closed : ClosedUnderReferences shapes) {height bound : Nat}
    (within : ∀ shape ∈ shapes.shapes, ChainsWithin shapes height shape) (enough : height ≤ bound) :
    FullyReported graph shapes (validate shapes bound graph) := by
  refine ⟨_, List.forall₂_map_right_iff.mpr (List.forall₂_same.mpr fun shape targeted => ?_),
    List.flatMap_def⟩
  have member := mem_shapes_of_mem_targetedShapes targeted
  exact check_fullyChecked closed member (within shape member) enough (focusNodes graph shape)

theorem closedUnderReferences_of_ofGraph {source : Graph}
    (compiled : ShapesGraph.ofGraph source = .ok shapes) : ClosedUnderReferences shapes :=
  fun _ member _ mentioned =>
    ShapesGraph.exists_get?_of_reference (ShapesGraph.ofGraph_eq_ok compiled).1 member mentioned

/-- The shapes that a graph describes give the same report under all bounds from the longest chain
of references on, namely the one in which every reference has been found and followed. -/
theorem validate_eq_of_bounds {source : Graph} (compiled : ShapesGraph.ofGraph source = .ok shapes)
    {height bound bound' : Nat}
    (within : ∀ shape ∈ shapes.shapes, ChainsWithin shapes height shape)
    (enough : height ≤ bound) (enough' : height ≤ bound') (graph : Graph) :
    validate shapes bound graph = validate shapes bound' graph ∧
      FullyReported graph shapes (validate shapes bound graph) := by
  have closed := closedUnderReferences_of_ofGraph compiled
  have full : FullyReported graph shapes (validate shapes bound graph) :=
    validate_fullyReported closed within enough
  exact ⟨full.unique (validate_fullyReported closed within enough'), full⟩

/-- Alice is not social, which takes somebody whom she knows. -/
def hermitDocument : Graph :=
  Graph.ofList
    [ ⟨.iri (ex "Hermit"), sh "targetNode", .iri (ex "alice")⟩,
      ⟨.iri (ex "Hermit"), sh "not", .iri (ex "Social")⟩,
      ⟨.iri (ex "Social"), sh "property", .iri (ex "Acquainted")⟩,
      ⟨.iri (ex "Acquainted"), sh "path", .iri (ex "knows")⟩,
      ⟨.iri (ex "Acquainted"), sh "minCount", .literal (.typed "1" (xsd "integer"))⟩ ]

def social : Shape :=
  { acquainted with
    id := .iri (ex "Social")
    path := none
    constraints := []
    properties := [acquainted.id] }

def hermit : Shape :=
  { social with
    id := .iri (ex "Hermit")
    targets := [.node (.iri (ex "alice"))]
    constraints := [.not social.id]
    properties := [] }

/-- From two levels on the report is right. With one, the requirement below the negation is out of
reach, and somebody who knows nobody is reported. -/
theorem validate_eq_of_bounds_hermit :
    let shapes : ShapesGraph := ⟨[hermit, acquainted, social], [hermit.id]⟩
    validate shapes 2 .empty = validate shapes 32 .empty ∧
      FullyReported .empty shapes (validate shapes 2 .empty) ∧
      (validate shapes 2 .empty).conforms = true ∧ (validate shapes 1 .empty).conforms = false := by
  intro shapes
  have compiled : ShapesGraph.ofGraph hermitDocument = .ok shapes := by
    with_unfolding_all rfl
  have within : ∀ shape ∈ shapes.shapes, ChainsWithin shapes 2 shape := by
    decide +kernel
  obtain ⟨same, full⟩ := validate_eq_of_bounds compiled within (Nat.le_refl 2)
    (by decide : 2 ≤ 32) .empty
  exact ⟨same, full, by decide +kernel, by decide +kernel⟩

end RdfPipeline.Shape
