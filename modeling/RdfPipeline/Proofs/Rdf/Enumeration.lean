import Mathlib.Data.List.Nodup
import RdfPipeline.Proofs.Rdf.Reachability

/-!
# Enumerations of the same triples

Graphs with the same triples may list them in different orders. They have the same links, and a
look-up gives the same answers in some other order.
-/

set_option autoImplicit false

namespace RdfPipeline.Rdf

theorem perm_eraseDups {α : Type} [BEq α] [LawfulBEq α] {left right : List α}
    (members : ∀ item, item ∈ left ↔ item ∈ right) : left.eraseDups.Perm right.eraseDups := by
  rw [List.perm_ext_iff_of_nodup (nodup_eraseDups left) (nodup_eraseDups right)]
  intro item
  rw [List.mem_eraseDups, List.mem_eraseDups, members item]

theorem pairwise_zipIdx {α : Type} (items : List α) (start : Nat) :
    (items.zipIdx start).Pairwise fun left right => left.2 ≠ right.2 := by
  apply List.pairwise_map.mp
  rw [List.zipIdx_map_snd]
  exact List.nodup_range'

namespace Graph

/-! ## Look-ups without repetitions -/

theorem nodup_objects (graph : Graph) (subject : Subject) (predicate : Iri) :
    (graph.objects subject predicate).Nodup := by
  refine List.Nodup.map_on ?_ (graph.nodup.filter _)
  intro left leftIn right rightIn same
  have leftKeys := (List.mem_filter.mp leftIn).2
  have rightKeys := (List.mem_filter.mp rightIn).2
  simp only [decide_eq_true_eq] at leftKeys rightKeys
  cases left
  cases right
  simp_all

theorem nodup_objectsOf (graph : Graph) (term : Term) (predicate : Iri) :
    (graph.objectsOf term predicate).Nodup := by
  unfold Graph.objectsOf
  cases term.toSubject? with
  | none => exact .nil
  | some subject => exact graph.nodup_objects subject predicate

theorem nodup_outgoing (graph : Graph) (term : Term) : (graph.outgoing term).Nodup := by
  unfold Graph.outgoing
  cases term.toSubject? with
  | none => exact .nil
  | some subject =>
      refine List.Nodup.map_on ?_ (graph.nodup.filter _)
      intro left leftIn right rightIn same
      have leftKey := (List.mem_filter.mp leftIn).2
      have rightKey := (List.mem_filter.mp rightIn).2
      simp only [decide_eq_true_eq] at leftKey rightKey
      cases left
      cases right
      simp_all

/-! ## The same triples -/

variable {left right : Graph}

/-- The graphs are enumerations of one set of triples. -/
def SameTriples (left right : Graph) : Prop :=
  ∀ triple, triple ∈ left ↔ triple ∈ right

theorem sameTriples_iff_perm : left.SameTriples right ↔ left.triples.Perm right.triples :=
  (List.perm_ext_iff_of_nodup left.nodup right.nodup).symm

instance (left right : Graph) : Decidable (left.SameTriples right) :=
  decidable_of_iff _ sameTriples_iff_perm.symm

namespace SameTriples

theorem refl (graph : Graph) : graph.SameTriples graph :=
  fun _ => Iff.rfl

theorem perm (same : left.SameTriples right) : left.triples.Perm right.triples :=
  sameTriples_iff_perm.mp same

theorem size_eq (same : left.SameTriples right) : left.size = right.size :=
  same.perm.length_eq

theorem links_eq (same : left.SameTriples right) : left.Links = right.Links := by
  funext predicate source target
  exact propext (exists_congr fun triple => and_congr_left fun _ => same triple)

theorem withPredicate (same : left.SameTriples right) (predicate : Iri) :
    (left.withPredicate predicate).Perm (right.withPredicate predicate) :=
  same.perm.filter _

theorem subjects (same : left.SameTriples right) (predicate : Iri) (object : Term) :
    (left.subjects predicate object).Perm (right.subjects predicate object) :=
  (same.perm.filter _).map _

theorem objectsOf (same : left.SameTriples right) (term : Term) (predicate : Iri) :
    (left.objectsOf term predicate).Perm (right.objectsOf term predicate) := by
  unfold Graph.objectsOf
  cases term.toSubject? with
  | none => exact .refl []
  | some subject => exact (same.perm.filter _).map _

theorem outgoing (same : left.SameTriples right) (term : Term) :
    (left.outgoing term).Perm (right.outgoing term) := by
  unfold Graph.outgoing
  cases term.toSubject? with
  | none => exact .refl []
  | some subject => exact (same.perm.filter _).map _

end SameTriples

end Graph

end RdfPipeline.Rdf
