import RdfPipeline.Proofs.Dict
import RdfPipeline.Proofs.Shape.ConstraintMeaning

/-!
# Focus nodes

A target selects nodes by the links of the graph. The focus nodes of a shape are those that some of
its targets select, each once.
-/

set_option autoImplicit false

namespace RdfPipeline.Shape

open Rdf (Graph Iri Subject Term StepsAlong rdf)
open Relation

variable {graph : Graph} {iri : Iri} {term : Term}

def Target.Selects (graph : Graph) (term : Term) : Target → Prop
  | .instancesOf iri => IsInstance graph term iri
  | .node selected => term = selected
  | .subjectsOf predicate => ∃ object, graph.Links predicate term object
  | .objectsOf predicate => ∃ subject, graph.Links predicate subject term

/-- The direct subclasses of some classes. -/
def subclassesOf (graph : Graph) (classes : List Term) : List Term :=
  classes.flatMap fun superclass =>
    (graph.subjects (rdfs "subClassOf") superclass).map Subject.toTerm

theorem subclassesOf_stepsAlong (graph : Graph) :
    StepsAlong graph (subclassesOf graph)
      (fun superclass subclass => graph.Links (rdfs "subClassOf") subclass superclass) := by
  refine ⟨fun {terms target} => ?_, fun links => .inr links.source_mem_terms⟩
  simp only [subclassesOf, List.mem_flatMap, Graph.mem_subjects_iff]

theorem mem_subclasses_iff {type : Term} :
    type ∈ subclasses graph iri ↔
      ReflTransGen (graph.Links (rdfs "subClassOf")) type (.iri iri) := by
  have found : type ∈ subclasses graph iri ↔ ∃ first ∈ [Term.iri iri],
      ReflTransGen (fun superclass subclass => graph.Links (rdfs "subClassOf") subclass superclass)
        first type :=
    (subclassesOf_stepsAlong graph).mem_reachable_iff
  simp only [List.mem_singleton, exists_eq_left] at found
  exact found.trans reflTransGen_swap

/-- The search from a class down to its instances finds what the search from a term up finds. -/
theorem mem_instancesOf_iff : term ∈ instancesOf graph iri ↔ IsInstance graph term iri := by
  simp only [instancesOf, IsInstance, List.mem_flatMap, mem_subclasses_iff, Graph.mem_subjects_iff]
  exact exists_congr fun _ => and_comm

theorem Target.mem_nodes_iff (target : Target) :
    term ∈ target.nodes graph ↔ target.Selects graph term := by
  cases target with
  | instancesOf iri => exact mem_instancesOf_iff
  | node selected => exact List.mem_singleton
  | subjectsOf predicate =>
      simp only [Target.nodes, Selects, Graph.withPredicate, Graph.Links, List.mem_map,
        List.mem_filter, decide_eq_true_eq]
      constructor
      · rintro ⟨triple, ⟨member, same⟩, subject⟩
        exact ⟨triple.object, triple, member, subject, same, rfl⟩
      · rintro ⟨_, triple, member, subject, same, -⟩
        exact ⟨triple, ⟨member, same⟩, subject⟩
  | objectsOf predicate =>
      simp only [Target.nodes, Selects, Graph.withPredicate, Graph.Links, List.mem_map,
        List.mem_filter, decide_eq_true_eq]
      constructor
      · rintro ⟨triple, ⟨member, same⟩, object⟩
        exact ⟨triple.subject.toTerm, triple, member, rfl, same, object⟩
      · rintro ⟨_, triple, member, -, same, object⟩
        exact ⟨triple, ⟨member, same⟩, object⟩

theorem mem_focusNodes_iff {shape : Shape} :
    term ∈ focusNodes graph shape ↔ ∃ target ∈ shape.targets, target.Selects graph term := by
  rw [focusNodes, (List.mergeSort_perm _ _).mem_iff, List.mem_eraseDups, List.mem_flatMap]
  exact exists_congr fun target => and_congr_right fun _ => target.mem_nodes_iff

theorem nodup_focusNodes (graph : Graph) (shape : Shape) : (focusNodes graph shape).Nodup :=
  (List.mergeSort_perm _ _).nodup_iff.mpr (Rdf.nodup_eraseDups _)

theorem pairwise_sortedByText (terms : List Term) :
    (terms.mergeSort fun left right => !(right.toText < left.toText)).Pairwise
      fun left right => left.toText ≤ right.toText :=
  Text.pairwise_mergeSort_by Term.toText terms

/-- The focus nodes of a shape are the nodes that a target selects, each once and in the order of
their texts. Both searches among classes come to an end by themselves, also where classes are
subclasses of each other, and the one from a class down to its instances finds the terms for which
the one from a term up finds the class. -/
theorem focusNodes_exact (graph : Graph) (shape : Shape) :
    (focusNodes graph shape).Nodup ∧
    (focusNodes graph shape).Pairwise (fun left right => left.toText ≤ right.toText) ∧
    (∀ term, term ∈ focusNodes graph shape ↔
      ∃ target ∈ shape.targets, target.Selects graph term) ∧
    (∀ iri, ∃ classes, Rdf.Exhausts (subclassesOf graph) [] [.iri iri] classes ∧
      instancesOf graph iri =
        classes.flatMap fun type => (graph.subjects (rdf "type") type).map Subject.toTerm) ∧
    (∀ term, ∃ classes,
      Rdf.Exhausts (superclassesOf graph) [] (graph.objectsOf term (rdf "type")) classes ∧
      ∀ iri, isInstanceOf graph term iri = classes.contains (.iri iri)) ∧
    ∀ term iri, term ∈ instancesOf graph iri ↔ isInstanceOf graph term iri = true := by
  refine ⟨nodup_focusNodes graph shape, pairwise_sortedByText _, fun term => mem_focusNodes_iff,
    ?down, ?up, ?agree⟩
  case down =>
    intro iri
    exact ⟨_, (subclassesOf_stepsAlong graph).exhausts_reachable [.iri iri], rfl⟩
  case up =>
    intro term
    exact ⟨_, (superclassesOf_stepsAlong graph).exhausts_reachable _, fun _ => rfl⟩
  case agree =>
    intro term iri
    rw [mem_instancesOf_iff, isInstanceOf_iff]

end RdfPipeline.Shape
