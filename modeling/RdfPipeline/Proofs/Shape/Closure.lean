import Mathlib.Order.Bounds.Basic
import RdfPipeline.Proofs.Shape.NestingBound
import RdfPipeline.Proofs.Shape.Targets

/-!
# Shapes closed under references

The ids of the shapes that a graph describes are the least set that holds the nodes which are shapes
by themselves and whatever the shapes refer to. Hence a check never looks for a shape in vain.
-/

set_option autoImplicit false

namespace RdfPipeline

open Rdf (Graph Iri Subject Term rdf xsd)

namespace Shape

variable {graph : Graph}

/-! ## The least set of ids -/

/-- A node that is a shape by itself: it is typed as one, or has a target or a path. -/
def IsSeed (graph : Graph) (id : Term) : Prop :=
  (∃ type ∈ ["NodeShape", "PropertyShape"], graph.Links (rdf "type") id (.iri (sh type))) ∨
  ∃ name ∈ ["targetClass", "targetNode", "targetSubjectsOf", "targetObjectsOf", "path"],
    ∃ object, graph.Links (sh name) id object

theorem mem_seeds_iff_isSeed {id : Term} : id ∈ seeds graph ↔ IsSeed graph id := by
  have marked : ∀ name, id ∈ (graph.withPredicate (sh name)).map (·.subject.toTerm) ↔
      ∃ object, graph.Links (sh name) id object := by
    intro name
    exact Target.mem_nodes_iff (.subjectsOf (sh name))
  simp only [seeds, List.mem_eraseDups, List.mem_append, List.mem_flatMap]
  refine or_congr ?typed (exists_congr fun name => and_congr_right fun _ => marked name)
  case typed =>
    constructor
    · rintro ⟨type, member, found⟩
      simp only [List.mem_cons, List.not_mem_nil, or_false] at member
      rcases member with rfl | rfl
      · exact ⟨"NodeShape", by simp, Graph.mem_subjects_iff.mp found⟩
      · exact ⟨"PropertyShape", by simp, Graph.mem_subjects_iff.mp found⟩
    · rintro ⟨name, member, links⟩
      refine ⟨sh name, ?_, Graph.mem_subjects_iff.mpr links⟩
      simp only [List.mem_cons, List.not_mem_nil, or_false] at member
      rcases member with rfl | rfl
      · exact List.mem_cons_self
      · exact List.mem_cons_of_mem _ List.mem_cons_self

/-- A set of ids that starts from the seeds and holds what every shape read from one of them refers
to: its property shapes and the shapes of its constraints. -/
structure HoldsReferences (graph : Graph) (ids : Set Term) : Prop where
  seeded : ∀ id, IsSeed graph id → id ∈ ids
  closed : ∀ id ∈ ids, ∀ shape, ofNode graph id = .ok shape →
    (∀ property ∈ shape.properties, property ∈ ids) ∧
    ∀ constraint ∈ shape.constraints, ∀ referenced ∈ constraint.references, referenced ∈ ids

theorem described_isLeast (graph : Graph) :
    IsLeast {ids | HoldsReferences graph ids} {id | Described graph id} := by
  constructor
  · constructor
    · intro id seed
      exact .seed (mem_seeds_iff_isSeed.mpr seed)
    · intro id described shape read
      constructor
      · intro property member
        exact described.reference read (mem_references_of_properties member)
      · intro constraint member referenced mentioned
        exact described.reference read (mem_references_of_constraints member mentioned)
  · intro ids holds id described
    induction described with
    | seed member => exact holds.seeded _ (mem_seeds_iff_isSeed.mp member)
    | reference _ read mentioned ih =>
        obtain ⟨properties, constraints⟩ := holds.closed _ ih _ read
        cases List.mem_append.mp mentioned with
        | inl property => exact properties _ property
        | inr constraint =>
            obtain ⟨constraint, member, referenced⟩ := List.mem_flatMap.mp constraint
            exact constraints constraint member _ referenced

end Shape

/-! ## Look-ups of references -/

/-- More shapes beside those of a document; where ids are the same, the document has precedence. -/
def ShapesGraph.extend (shapes : ShapesGraph) (more : List Shape) : ShapesGraph :=
  ⟨shapes.shapes ++ more, shapes.targeted⟩

theorem ShapesGraph.get?_extend_of_found {shapes : ShapesGraph} {id : Term} {shape : Shape}
    (found : shapes.get? id = some shape) (more : List Shape) :
    (shapes.extend more).get? id = some shape := by
  unfold get? extend at *
  rw [List.find?_append, found, Option.some_or]

namespace Shape

section Extension

variable {graph : Graph} {shapes : ShapesGraph} {shape : Shape}

/-- Every look-up of a reference of the shape finds what it finds among more shapes. -/
theorem ClosedUnderReferences.get?_extend (closed : ClosedUnderReferences shapes)
    (member : shape ∈ shapes.shapes) {id : Term} (mentioned : id ∈ shape.references)
    (more : List Shape) : (shapes.extend more).get? id = shapes.get? id := by
  obtain ⟨referenced, -, found⟩ := closed shape member id mentioned
  rw [found, ShapesGraph.get?_extend_of_found found]

theorem ClosedUnderReferences.properties_extend (closed : ClosedUnderReferences shapes)
    (member : shape ∈ shapes.shapes) (more : List Shape) :
    shape.properties.filterMap (shapes.extend more).get? =
      shape.properties.filterMap shapes.get? := by
  apply List.filterMap_congr
  intro id property
  exact closed.get?_extend member (mem_references_of_properties property) more

theorem ClosedUnderReferences.findings_extend (closed : ClosedUnderReferences shapes)
    (member : shape ∈ shapes.shapes) (more : List Shape) (conforms : Term → Term → Bool)
    (focus : Term) (values : List Term) (constraint : Constraint) :
    constraint.findings graph (shapes.extend more) conforms shape focus values =
      constraint.findings graph shapes conforms shape focus values := by
  cases constraint with
  | closed ignored =>
      simp only [Constraint.findings, allowedPredicates, closed.properties_extend member]
  | _ => rfl

theorem ClosedUnderReferences.ownResults_extend (closed : ClosedUnderReferences shapes)
    (member : shape ∈ shapes.shapes) (more : List Shape) (conforms : Term → Term → Bool)
    (focus : Term) (values : List Term) :
    ownResults graph (shapes.extend more) conforms shape focus values =
      ownResults graph shapes conforms shape focus values := by
  simp only [ownResults, closed.findings_extend member]

theorem ClosedUnderReferences.check_extend (closed : ClosedUnderReferences shapes)
    (more : List Shape) {levels : Nat} (member : shape ∈ shapes.shapes) (focusNodes : List Term) :
    check graph (shapes.extend more) levels shape focusNodes =
      check graph shapes levels shape focusNodes := by
  induction levels generalizing shape focusNodes with
  | zero => simp only [check, closed.ownResults_extend member]
  | succ levels ih =>
      have agree : ∀ id ∈ shape.references, ∀ value,
          conforms graph (shapes.extend more) (levels + 1) value id =
            conforms graph shapes (levels + 1) value id := by
        intro id mentioned value
        obtain ⟨referenced, listed, found⟩ := closed shape member id mentioned
        simp only [conforms, closed.get?_extend member mentioned, found, ih listed]
      rw [check_succ, check_succ, closed.properties_extend member]
      refine if_congr Iff.rfl rfl (List.flatMap_congr fun focus _ => ?_)
      rw [closed.ownResults_extend member, ownResults_congr agree]
      refine congrArg _ (List.flatMap_congr fun property listed => ?_)
      obtain ⟨id, -, found⟩ := List.mem_filterMap.mp listed
      exact ih (List.mem_of_find?_eq_some found) _

theorem ClosedUnderReferences.validate_extend (closed : ClosedUnderReferences shapes)
    (targets : ∀ id ∈ shapes.targeted, ∃ shape, shapes.get? id = some shape) (more : List Shape)
    (maxDepth : Nat) (data : Graph) :
    validate (shapes.extend more) maxDepth data = validate shapes maxDepth data := by
  have sameTargets : (shapes.extend more).targetedShapes = shapes.targetedShapes := by
    apply List.filterMap_congr
    intro id targeted
    obtain ⟨shape, found⟩ := targets id targeted
    rw [found, ShapesGraph.get?_extend_of_found found]
  rw [validate, validate, sameTargets]
  refine congrArg Report.mk (List.flatMap_congr fun shape targeted => ?_)
  exact closed.check_extend more (mem_shapes_of_mem_targetedShapes targeted) _

end Extension

/-! ## The shapes of a graph -/

/-- What is known of the shapes of a graph that could be read. -/
structure Compiled (graph : Graph) (shapes : ShapesGraph) : Prop where
  /-- Under each id there is the shape of this id, and no other one. -/
  keyed : ∀ id shape, shapes.get? id = some shape → shape.id = id ∧ ofNode graph id = .ok shape
  distinct : (shapes.shapes.map (·.id)).Nodup
  least : IsLeast {ids | HoldsReferences graph ids} {id | ∃ shape, shapes.get? id = some shape}
  targeted_once : shapes.targeted.Nodup
  mem_targeted_iff : ∀ id, id ∈ shapes.targeted ↔
    ∃ shape, shapes.get? id = some shape ∧ shape.targets ≠ []
  targeted_sorted : shapes.targeted.Pairwise fun left right => left.toText ≤ right.toText
  /-- No look-up of a reference fails. -/
  found : ∀ shape ∈ shapes.shapes, ∀ id ∈ shape.references,
    ∃ referenced, shapes.get? id = some referenced
  /-- No check can tell whether there are shapes for other ids. -/
  selfContained : ∀ more maxDepth data,
    validate (shapes.extend more) maxDepth data = validate shapes maxDepth data

theorem ofGraph_eq_map (graph : Graph) :
    ShapesGraph.ofGraph graph =
      (readQueue graph (2 * graph.size + 1) (seeds graph) (seeds graph) []).map fun all =>
        ⟨all, ShapesGraph.sortByText ((all.filter hasTargets).map (·.id))⟩ := by
  cases outcome : readQueue graph (2 * graph.size + 1) (seeds graph) (seeds graph) [] with
  | error fault =>
      simp only [ShapesGraph.ofGraph, outcome]
      rfl
  | ok all =>
      simp only [ShapesGraph.ofGraph, outcome]
      rfl

theorem compiled_of_ofGraph {graph : Graph} {shapes : ShapesGraph}
    (read : ShapesGraph.ofGraph graph = .ok shapes) : Compiled graph shapes := by
  obtain ⟨shapesOf, -⟩ := ShapesGraph.ofGraph_eq_ok read
  have closed := closedUnderReferences_of_ofGraph read
  have hasTargets_iff : ∀ shape : Shape, shape.hasTargets = true ↔ shape.targets ≠ [] :=
    fun shape => bne_iff_ne
  have targeted : ∀ id, id ∈ shapes.targeted ↔
      ∃ shape, shapes.get? id = some shape ∧ shape.targets ≠ [] := by
    intro id
    simp only [ShapesGraph.mem_targeted_iff read, hasTargets_iff]
  have keys : {id | ∃ shape, shapes.get? id = some shape} = {id | Described graph id} := by
    ext id
    constructor
    · rintro ⟨shape, found⟩
      exact ((ShapesGraph.get?_eq_some_iff shapesOf).mp found).1
    · intro described
      obtain ⟨shape, member, rfl⟩ := List.mem_map.mp ((shapesOf.mem_ids_iff id).mpr described)
      exact ⟨shape, ShapesGraph.get?_id_of_mem shapesOf member⟩
  refine ⟨?keyed, shapesOf.distinct, keys ▸ described_isLeast graph,
    ShapesGraph.nodup_targeted read, targeted, ?sorted, ?found, ?selfContained⟩
  case keyed =>
    intro id shape found
    obtain ⟨-, fromNode⟩ := (ShapesGraph.get?_eq_some_iff shapesOf).mp found
    exact ⟨(ofNode_readFrom graph id shape fromNode).id_eq, fromNode⟩
  case sorted =>
    rw [ofGraph_eq_map] at read
    cases outcome : readQueue graph (2 * graph.size + 1) (seeds graph) (seeds graph) [] with
    | error fault =>
        rw [outcome] at read
        cases read
    | ok all =>
        rw [outcome] at read
        cases read
        exact pairwise_sortedByText _
  case found =>
    intro shape member id mentioned
    obtain ⟨referenced, -, found⟩ := closed shape member id mentioned
    exact ⟨referenced, found⟩
  case selfContained =>
    intro more maxDepth data
    apply closed.validate_extend
    intro id member
    obtain ⟨shape, found, -⟩ := (targeted id).mp member
    exact ⟨shape, found⟩

theorem compiled_of_parse {supply left : Nat} {text : String} {shapes : ShapesGraph}
    (parsed : ShapesGraph.parse supply text = .ok (shapes, left)) :
    ∃ graph, Rdf.Turtle.parse? supply text = some (graph, left) ∧ Compiled graph shapes := by
  unfold ShapesGraph.parse at parsed
  cases document : Rdf.Turtle.parse? supply text with
  | none => simp [document] at parsed
  | some outcome =>
      obtain ⟨graph, supply'⟩ := outcome
      cases read : ShapesGraph.ofGraph graph with
      | error fault => simp [document, read] at parsed
      | ok all =>
          simp only [document, read, Except.ok.injEq, Prod.mk.injEq] at parsed
          obtain ⟨rfl, rfl⟩ := parsed
          exact ⟨graph, rfl, compiled_of_ofGraph read⟩

/-- Reading the shapes of a graph comes to an end by itself, also where they refer to each other in
circles. It fails exactly if a node of the least set that holds the seeds and all references cannot
be read; otherwise the nodes of this set are the ids of the shapes, every reference leads to one of
them, and a check never looks for any other. -/
theorem ofGraph_closed (graph : Graph) :
    (∃ outcome, Drains graph (seeds graph) (seeds graph) [] outcome ∧
      ShapesGraph.ofGraph graph = outcome.map fun all =>
        ⟨all, ShapesGraph.sortByText ((all.filter hasTargets).map (·.id))⟩) ∧
    IsLeast {ids | HoldsReferences graph ids} {id | Described graph id} ∧
    ((∃ fault, ShapesGraph.ofGraph graph = .error fault) ↔
      ∃ id fault, Described graph id ∧ ofNode graph id = .error fault) ∧
    (∀ shapes, ShapesGraph.ofGraph graph = .ok shapes → Compiled graph shapes) ∧
    ∀ supply text shapes left, ShapesGraph.parse supply text = .ok (shapes, left) →
      ∃ source, Rdf.Turtle.parse? supply text = some (source, left) ∧ Compiled source shapes := by
  refine ⟨⟨_, drains_seeds graph, ofGraph_eq_map graph⟩, described_isLeast graph, ?fails,
    fun _ read => compiled_of_ofGraph read, fun _ _ _ _ parsed => compiled_of_parse parsed⟩
  case fails =>
    constructor
    · rintro ⟨fault, failed⟩
      cases ShapesGraph.ofGraph_cases graph with
      | inl read =>
          obtain ⟨shapes, read, -⟩ := read
          rw [failed] at read
          cases read
      | inr unreadable =>
          obtain ⟨fault, id, -, described, unreadable⟩ := unreadable
          exact ⟨id, fault, described, unreadable⟩
    · rintro ⟨id, fault, described, unreadable⟩
      cases ShapesGraph.ofGraph_cases graph with
      | inl read =>
          obtain ⟨shapes, -, shapesOf, -⟩ := read
          obtain ⟨shape, member, rfl⟩ := List.mem_map.mp ((shapesOf.mem_ids_iff id).mpr described)
          have readable := shapesOf.read shape member
          rw [unreadable] at readable
          cases readable
      | inr failed =>
          obtain ⟨fault, _, failed, -⟩ := failed
          exact ⟨fault, failed⟩

/-- Friendly nodes know friendly nodes only. A literal can be named as a shape, too. -/
def circleDocument : Graph :=
  Graph.ofList
    [ ⟨.iri (ex "Friendly"), sh "targetNode", .iri (ex "alice")⟩,
      ⟨.iri (ex "Friendly"), sh "property", .blank (.named "known")⟩,
      ⟨.blank (.named "known"), sh "path", .iri (ex "knows")⟩,
      ⟨.blank (.named "known"), sh "node", .iri (ex "Friendly")⟩,
      ⟨.iri (ex "Friendly"), sh "node", .literal (.plain "anything")⟩ ]

theorem ofGraph_closed_circle :
    ∃ shapes, ShapesGraph.ofGraph circleDocument = .ok shapes ∧ Compiled circleDocument shapes ∧
      shapes.shapes.map (·.id) =
        [.iri (ex "Friendly"), .blank (.named "known"), .literal (.plain "anything")] ∧
      shapes.targeted = [.iri (ex "Friendly")] := by
  let anything : Shape := { stranger with id := .literal (.plain "anything"), constraints := [] }
  let known : Shape :=
    { acquainted with id := .blank (.named "known"), constraints := [.node (.iri (ex "Friendly"))] }
  let friendly : Shape :=
    { stranger with
      id := .iri (ex "Friendly")
      targets := [.node (.iri (ex "alice"))]
      constraints := [.node anything.id]
      properties := [known.id] }
  have read : ShapesGraph.ofGraph circleDocument =
      .ok ⟨[friendly, known, anything], [friendly.id]⟩ := by
    with_unfolding_all rfl
  obtain ⟨-, -, -, compiled, -⟩ := ofGraph_closed circleDocument
  exact ⟨_, read, compiled _ read, rfl, rfl⟩

end Shape

end RdfPipeline
