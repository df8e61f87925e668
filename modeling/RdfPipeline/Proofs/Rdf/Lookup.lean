import RdfPipeline.Rdf.Graph

/-!
# Look-ups in a graph

A graph links two terms under a predicate if it has the triple. All look-ups answer by its links.
-/

set_option autoImplicit false

namespace RdfPipeline.Rdf

theorem Term.toSubject?_eq_some_iff {term : Term} {subject : Subject} :
    term.toSubject? = some subject ↔ subject.toTerm = term := by
  cases term <;> cases subject <;> simp [Term.toSubject?, Subject.toTerm, eq_comm]

theorem Term.toSubject?_eq_none_iff {term : Term} :
    term.toSubject? = none ↔ ∀ subject : Subject, subject.toTerm ≠ term := by
  cases selected : term.toSubject? with
  | none =>
      refine iff_of_true rfl fun subject same => ?_
      rw [Term.toSubject?_eq_some_iff.mpr same] at selected
      cases selected
  | some subject =>
      refine iff_of_false (by simp) fun none => ?_
      exact none subject (Term.toSubject?_eq_some_iff.mp selected)

namespace Graph

/-- The graph has a triple from `source` to `target` under the predicate. -/
def Links (graph : Graph) (predicate : Iri) (source target : Term) : Prop :=
  ∃ triple ∈ graph, triple.subject.toTerm = source ∧ triple.predicate = predicate ∧
    triple.object = target

variable {graph : Graph} {predicate : Iri} {source target : Term}

theorem mem_objectsOf_iff :
    target ∈ graph.objectsOf source predicate ↔ graph.Links predicate source target := by
  unfold objectsOf Links
  cases selected : source.toSubject? with
  | none =>
      have noSubject := Term.toSubject?_eq_none_iff.mp selected
      simp only [List.not_mem_nil, false_iff]
      rintro ⟨triple, -, same, -⟩
      exact noSubject triple.subject same
  | some subject =>
      obtain rfl := Term.toSubject?_eq_some_iff.mp selected
      have injective : ∀ other : Subject, other.toTerm = subject.toTerm ↔ other = subject := by
        intro other
        rw [← Term.toSubject?_eq_some_iff, selected, Option.some.injEq, eq_comm]
      simp only [objects, List.mem_map, List.mem_filter, decide_eq_true_eq, injective, and_assoc]
      exact Iff.rfl

theorem mem_subjects_iff :
    source ∈ (graph.subjects predicate target).map Subject.toTerm ↔
      graph.Links predicate source target := by
  simp only [subjects, Links, List.mem_map, List.mem_filter, decide_eq_true_eq]
  constructor
  · rintro ⟨_, ⟨triple, ⟨member, same, object⟩, rfl⟩, subject⟩
    exact ⟨triple, member, subject, same, object⟩
  · rintro ⟨triple, member, subject, same, object⟩
    exact ⟨triple.subject, ⟨triple, ⟨member, same, object⟩, rfl⟩, subject⟩

theorem mem_outgoing_iff :
    (predicate, target) ∈ graph.outgoing source ↔ graph.Links predicate source target := by
  rw [← mem_objectsOf_iff]
  unfold outgoing objectsOf
  cases source.toSubject? with
  | none => simp
  | some subject =>
      simp [withSubject, objects, and_assoc]

/-- The terms at the ends of the triples. -/
def terms (graph : Graph) : List Term :=
  graph.triples.flatMap fun triple => [triple.subject.toTerm, triple.object]

theorem length_terms (graph : Graph) : graph.terms.length = 2 * graph.size := by
  simp [terms, size, List.length_flatMap, List.map_const', Nat.mul_comm]

theorem Links.source_mem_terms (links : graph.Links predicate source target) :
    source ∈ graph.terms := by
  obtain ⟨triple, member, rfl, -, -⟩ := links
  exact List.mem_flatMap.mpr ⟨triple, member, by simp⟩

theorem Links.target_mem_terms (links : graph.Links predicate source target) :
    target ∈ graph.terms := by
  obtain ⟨triple, member, -, -, rfl⟩ := links
  exact List.mem_flatMap.mpr ⟨triple, member, by simp⟩

end Graph

end RdfPipeline.Rdf
