import Mathlib.Data.List.Perm.Subperm
import RdfPipeline.Proofs.Rdf.Lookup
import RdfPipeline.Rdf.Collection

/-!
# Reading collections

The reader of collections has enough fuel for every graph: it comes to the end of the cells, to one
that it has seen, or to a term that is no cell. It finds the items of exactly those heads from which
the cells lead to `rdf:nil`.
-/

set_option autoImplicit false

namespace RdfPipeline.Rdf

variable {graph : Graph}

/-! ## Single objects -/

theorem Graph.links_of_objectOf? {source target : Term} {predicate : Iri}
    (first : graph.objectOf? source predicate = some target) :
    graph.Links predicate source target :=
  mem_objectsOf_iff.mp (List.mem_of_head? first)

theorem Graph.objectOf?_eq_some {source target : Term} {predicate : Iri}
    (links : graph.Links predicate source target)
    (only : ∀ other, graph.Links predicate source other → other = target) :
    graph.objectOf? source predicate = some target := by
  have member := mem_objectsOf_iff.mpr links
  rw [objectOf?]
  cases found : (graph.objectsOf source predicate).head? with
  | none =>
      rw [List.head?_eq_none_iff.mp found] at member
      cases member
  | some other => rw [only other (links_of_objectOf? found)]

theorem Graph.objectOf?_eq_none {source : Term} {predicate : Iri}
    (none : ∀ target, ¬graph.Links predicate source target) :
    graph.objectOf? source predicate = .none := by
  cases found : graph.objectOf? source predicate with
  | none => rfl
  | some target => exact absurd (links_of_objectOf? found) (none target)

theorem Graph.not_links_of_objectOf? {source target : Term} {predicate : Iri}
    (none : graph.objectOf? source predicate = .none) : ¬graph.Links predicate source target := by
  intro links
  rw [← mem_objectsOf_iff, List.head?_eq_none_iff.mp none] at links
  cases links

/-! ## The walk along the cells -/

/-- A walk along the cells, for as long as it goes on, and what comes of it. -/
inductive Walks (graph : Graph) : List Term → Term → Except CollectionFault (List Term) → Prop where
  | atEnd {visited : List Term} : Walks graph visited (.iri (rdf "nil")) (.ok [])
  | again {visited : List Term} {current : Term} :
      current ≠ .iri (rdf "nil") → current ∈ visited → Walks graph visited current (.error .cycle)
  | withoutFirst {visited : List Term} {current : Term} :
      current ≠ .iri (rdf "nil") → current ∉ visited →
      graph.objectOf? current (rdf "first") = none →
      Walks graph visited current (.error .missingFirst)
  | withoutRest {visited : List Term} {current item : Term} :
      current ≠ .iri (rdf "nil") → current ∉ visited →
      graph.objectOf? current (rdf "first") = some item →
      graph.objectOf? current (rdf "rest") = none →
      Walks graph visited current (.error .missingRest)
  | cell {visited : List Term} {current item rest : Term}
      {outcome : Except CollectionFault (List Term)} :
      current ≠ .iri (rdf "nil") → current ∉ visited →
      graph.objectOf? current (rdf "first") = some item →
      graph.objectOf? current (rdf "rest") = some rest →
      Walks graph (current :: visited) rest outcome →
      Walks graph visited current (outcome.map (item :: ·))

theorem length_le_size_of_links {cells : List Term} (distinct : cells.Nodup)
    (linked : ∀ cell ∈ cells, ∃ predicate target, graph.Links predicate cell target) :
    cells.length ≤ graph.size := by
  have subset : cells ⊆ graph.triples.map fun triple => triple.subject.toTerm := by
    intro cell member
    obtain ⟨_, _, triple, isTriple, subject, -⟩ := linked cell member
    exact List.mem_map.mpr ⟨triple, isTriple, subject⟩
  simpa [Graph.size] using (distinct.subperm subset).length_le

/-- Every visited cell is the subject of some triple, so the fuel lasts as long as the walk. -/
theorem walks_readCells {fuel : Nat} {visited : List Term} (distinct : visited.Nodup)
    (linked : ∀ cell ∈ visited, ∃ predicate target, graph.Links predicate cell target)
    (enough : graph.size ≤ fuel + visited.length) (current : Term) :
    Walks graph visited current (readCells graph fuel visited current) := by
  unfold readCells
  split
  next isNil =>
    rw [isNil]
    exact .atEnd
  next notNil =>
    split
    next known => exact .again notNil (by simpa using known)
    next unknown =>
      have fresh : current ∉ visited := by simpa using unknown
      split
      next without => exact .withoutFirst notNil fresh without
      next item first =>
        have distinctCells : (current :: visited).Nodup := List.nodup_cons.mpr ⟨fresh, distinct⟩
        have linkedCells : ∀ cell ∈ current :: visited,
            ∃ predicate target, graph.Links predicate cell target :=
          List.forall_mem_cons.mpr ⟨⟨_, _, Graph.links_of_objectOf? first⟩, linked⟩
        split
        next without => exact .withoutRest notNil fresh first without
        next rest found =>
          cases fuel with
          | zero =>
              have few := length_le_size_of_links distinctCells linkedCells
              rw [List.length_cons] at few
              omega
          | succ fuel =>
              refine .cell notNil fresh first found
                (walks_readCells distinctCells linkedCells ?_ rest)
              rw [List.length_cons]
              omega
termination_by fuel

theorem walks_readCollection (graph : Graph) (head : Term) :
    Walks graph [] head (readCollection graph head) :=
  walks_readCells .nil (by simp) (Nat.le_add_right graph.size 0) head

/-! ## Collections -/

/-- The cells lead from the head to `rdf:nil`, and the items are those of the cells. -/
inductive IsCollection (graph : Graph) : Term → List Term → Prop where
  | nil : IsCollection graph (.iri (rdf "nil")) []
  | cell {current item rest : Term} {items : List Term} :
      current ≠ .iri (rdf "nil") → graph.objectOf? current (rdf "first") = some item →
      graph.objectOf? current (rdf "rest") = some rest → IsCollection graph rest items →
      IsCollection graph current (item :: items)

theorem IsCollection.unique {head : Term} {items others : List Term}
    (collection : IsCollection graph head items) (other : IsCollection graph head others) :
    items = others := by
  induction collection generalizing others with
  | nil =>
      cases other with
      | nil => rfl
      | cell notNil => exact absurd rfl notNil
  | cell notNil first rest _ ih =>
      cases other with
      | nil => exact absurd rfl notNil
      | cell _ first' rest' other =>
          rw [first] at first'
          rw [rest] at rest'
          cases first'
          cases rest'
          rw [ih other]

theorem Walks.isCollection {visited : List Term} {current : Term}
    {outcome : Except CollectionFault (List Term)} (walks : Walks graph visited current outcome)
    {items : List Term} (found : outcome = .ok items) : IsCollection graph current items := by
  induction walks generalizing items with
  | atEnd =>
      cases found
      exact .nil
  | again => cases found
  | withoutFirst => cases found
  | withoutRest => cases found
  | @cell visited current item rest outcome notNil _ first behind _ ih =>
      cases outcome with
      | error fault => cases found
      | ok items =>
          cases found
          exact .cell notNil first behind (ih rfl)

/-- A walk from which more items are ahead of every visited cell than from here sees no cell
again. -/
theorem Walks.eq_ok {visited : List Term} {current : Term}
    {outcome : Except CollectionFault (List Term)} (walks : Walks graph visited current outcome)
    {items : List Term} (collection : IsCollection graph current items)
    (longer : ∀ cell ∈ visited, ∀ others, IsCollection graph cell others →
      items.length < others.length) : outcome = .ok items := by
  induction walks generalizing items with
  | atEnd =>
      cases collection with
      | nil => rfl
      | cell notNil => exact absurd rfl notNil
  | again _ known => exact absurd (longer _ known _ collection) (Nat.lt_irrefl _)
  | withoutFirst notNil _ without =>
      cases collection with
      | nil => exact absurd rfl notNil
      | cell _ first =>
          rw [without] at first
          cases first
  | withoutRest notNil _ _ without =>
      cases collection with
      | nil => exact absurd rfl notNil
      | cell _ _ behind =>
          rw [without] at behind
          cases behind
  | @cell visited current item rest outcome notNil _ first behind _ ih =>
      cases collection with
      | nil => exact absurd rfl notNil
      | @cell _ item' rest' items _ first' behind' collection =>
          rw [first] at first'
          rw [behind] at behind'
          cases first'
          cases behind'
          have longerRest : ∀ cell ∈ current :: visited, ∀ others, IsCollection graph cell others →
              items.length < others.length := by
            refine List.forall_mem_cons.mpr
              ⟨fun others other => ?_, fun cell known others other => ?_⟩
            · rw [other.unique (.cell notNil first behind collection), List.length_cons]
              exact Nat.lt_succ_self _
            · exact Nat.lt_of_succ_lt (longer cell known others other)
          rw [ih collection longerRest]
          rfl

theorem readCollection_eq_ok_iff {head : Term} {items : List Term} :
    readCollection graph head = .ok items ↔ IsCollection graph head items := by
  constructor
  · exact (walks_readCollection graph head).isCollection
  · intro collection
    exact (walks_readCollection graph head).eq_ok collection (by simp)

end RdfPipeline.Rdf
