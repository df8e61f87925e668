import RdfPipeline.Rdf.Document

/-!
# Unions of graphs

A merged graph has the triples of all its parts and no others.
-/

set_option autoImplicit false

namespace RdfPipeline.Rdf

namespace Graph

theorem mem_insert_iff {graph : Graph} {added triple : Triple} :
    triple ∈ graph.insert added ↔ triple ∈ graph ∨ triple = added := by
  change triple ∈ (graph.insert added).triples ↔ triple ∈ graph.triples ∨ triple = added
  unfold insert
  split
  next known =>
    refine ⟨.inl, ?_⟩
    rintro (old | rfl)
    · exact old
    · exact known
  next new => simp

theorem mem_insertAll_iff {graph : Graph} {added : List Triple} {triple : Triple} :
    triple ∈ graph.insertAll added ↔ triple ∈ graph ∨ triple ∈ added := by
  induction added generalizing graph with
  | nil => simp [insertAll]
  | cons first rest ih =>
      have stepwise : graph.insertAll (first :: rest) = (graph.insert first).insertAll rest := rfl
      rw [stepwise, ih, mem_insert_iff, List.mem_cons, or_assoc]

theorem mem_ofList_iff {triples : List Triple} {triple : Triple} :
    triple ∈ ofList triples ↔ triple ∈ triples := by
  rw [ofList, mem_insertAll_iff]
  exact or_iff_right List.not_mem_nil

theorem mem_union_iff {left right : Graph} {triple : Triple} :
    triple ∈ left.union right ↔ triple ∈ left ∨ triple ∈ right :=
  mem_insertAll_iff

theorem insertAll_of_nodup {graph : Graph} {added : List Triple}
    (new : (graph.triples ++ added).Nodup) :
    (graph.insertAll added).triples = graph.triples ++ added := by
  induction added generalizing graph with
  | nil => exact (List.append_nil _).symm
  | cons first rest ih =>
      have stepwise : graph.insertAll (first :: rest) = (graph.insert first).insertAll rest := rfl
      have firstIsNew : first ∉ graph.triples := by
        intro known
        exact (List.nodup_append.mp new).2.2 first known first List.mem_cons_self rfl
      have longer : (graph.insert first).triples = graph.triples ++ [first] := by
        rw [insert, dif_neg firstIsNew]
      rw [stepwise, ih, longer, List.append_assoc]
      · rfl
      · rw [longer, List.append_assoc]
        exact new

theorem eq_of_triples_eq {left right : Graph} (same : left.triples = right.triples) :
    left = right := by
  cases left
  cases right
  cases same
  rfl

theorem ofList_triples (graph : Graph) : ofList graph.triples = graph :=
  eq_of_triples_eq (insertAll_of_nodup graph.nodup)

end Graph

theorem merge_eq_none_iff {identity : Nat} {parts : List SharedGraph} :
    merge identity parts = none ↔ parts = [] := by
  match parts with
  | [] => simp [merge]
  | [single] => simp [merge]
  | first :: second :: rest => simp [merge]

theorem mem_merge_iff {identity : Nat} {parts : List SharedGraph} {merged : SharedGraph}
    (union : merge identity parts = some merged) {triple : Triple} :
    triple ∈ merged.graph ↔ ∃ part ∈ parts, triple ∈ part.graph := by
  match parts with
  | [] => cases union
  | [single] =>
      cases union
      simp
  | first :: second :: rest =>
      cases union
      rw [Graph.mem_ofList_iff, List.mem_flatMap]
      rfl

/-- A union of graphs is one of them as an object, or it is a new object for several of them. -/
theorem merge_cases {identity : Nat} {parts : List SharedGraph} {merged : SharedGraph}
    (union : merge identity parts = some merged) :
    parts = [merged] ∨ 1 < parts.length ∧ merged.identity = identity := by
  match parts with
  | [] => cases union
  | [single] =>
      cases union
      exact .inl rfl
  | first :: second :: rest =>
      cases union
      exact .inr ⟨by simp, rfl⟩

end RdfPipeline.Rdf
