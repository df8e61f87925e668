import RdfPipeline.Proofs.Rdf.Collection
import RdfPipeline.Proofs.Rdf.Union
import RdfPipeline.Shape.Path
import RdfPipeline.Shape.Vocabulary

/-!
# Paths as triples

A path is written down as triples on fresh blank nodes: a node for each step, and collections for
sequences and alternatives. In a graph with these triples and no others on the blank nodes, every
look-up on one of them answers by the path alone.
-/

set_option autoImplicit false

namespace RdfPipeline.Shape

open Rdf (BlankNode Graph IsCollection Iri Term Triple rdf)

namespace Path

mutual

/-- The longest way down to a predicate or to an empty alternative. -/
def height : Path → Nat
  | .predicate _ => 0
  | .inverse path => height path + 1
  | .sequence parts => partsHeight parts
  | .alternative parts => partsHeight parts
  | .zeroOrMore path => height path + 1
  | .oneOrMore path => height path + 1
  | .zeroOrOne path => height path + 1

def partsHeight : List Path → Nat
  | [] => 0
  | part :: rest => max (height part + 1) (partsHeight rest)

end

/-- Every sequence in the path has at least two members. -/
inductive HasLongSequences : Path → Prop where
  | predicate (iri : Iri) : HasLongSequences (.predicate iri)
  | inverse {path : Path} : HasLongSequences path → HasLongSequences (.inverse path)
  | sequence {parts : List Path} :
      2 ≤ parts.length → (∀ part ∈ parts, HasLongSequences part) →
      HasLongSequences (.sequence parts)
  | alternative {parts : List Path} :
      (∀ part ∈ parts, HasLongSequences part) → HasLongSequences (.alternative parts)
  | zeroOrMore {path : Path} : HasLongSequences path → HasLongSequences (.zeroOrMore path)
  | oneOrMore {path : Path} : HasLongSequences path → HasLongSequences (.oneOrMore path)
  | zeroOrOne {path : Path} : HasLongSequences path → HasLongSequences (.zeroOrOne path)

end Path

/-! ## Encodings -/

/-- A path in triples: its root, and the number of the next blank node that is free. -/
structure Encoding where
  root : Term
  triples : List Triple
  next : Nat

namespace Encoding

def wrapped (node : BlankNode) (property : String) (inner : Encoding) : Encoding :=
  ⟨.blank node, ⟨.blank node, sh property, inner.root⟩ :: inner.triples, inner.next⟩

def cell (node : BlankNode) (item rest : Encoding) : Encoding :=
  ⟨.blank node,
    ⟨.blank node, rdf "first", item.root⟩ :: ⟨.blank node, rdf "rest", rest.root⟩ ::
      (item.triples ++ rest.triples),
    rest.next⟩

end Encoding

namespace Path

mutual

/-- The triples of a path on the blank nodes numbered from `next`. -/
def encode (blank : Nat → BlankNode) : Path → Nat → Encoding
  | .predicate iri, next => ⟨.iri iri, [], next⟩
  | .inverse path, next => .wrapped (blank next) "inversePath" (encode blank path (next + 1))
  | .sequence parts, next => encodeParts blank parts next
  | .alternative parts, next =>
      .wrapped (blank next) "alternativePath" (encodeParts blank parts (next + 1))
  | .zeroOrMore path, next => .wrapped (blank next) "zeroOrMorePath" (encode blank path (next + 1))
  | .oneOrMore path, next => .wrapped (blank next) "oneOrMorePath" (encode blank path (next + 1))
  | .zeroOrOne path, next => .wrapped (blank next) "zeroOrOnePath" (encode blank path (next + 1))

/-- The collection of some paths. -/
def encodeParts (blank : Nat → BlankNode) : List Path → Nat → Encoding
  | [], next => ⟨.iri (rdf "nil"), [], next⟩
  | part :: rest, next =>
      let item := encode blank part (next + 1)
      .cell (blank next) item (encodeParts blank rest item.next)

end

end Path

namespace Encoding

variable {blank : Nat → BlankNode} {start : Nat} {encoding inner item rest : Encoding}
  {property : String}

/-- The subjects are blank nodes numbered from `start` up to the next free one. -/
structure StartsAt (blank : Nat → BlankNode) (start : Nat) (encoding : Encoding) : Prop where
  le : start ≤ encoding.next
  subjects : ∀ triple ∈ encoding.triples, ∃ index, start ≤ index ∧ index < encoding.next ∧
    triple.subject = .blank (blank index)

theorem StartsAt.wrapped (starts : StartsAt blank (start + 1) inner) :
    StartsAt blank start (.wrapped (blank start) property inner) := by
  refine ⟨Nat.le_of_succ_le starts.le,
    List.forall_mem_cons.mpr ⟨⟨start, Nat.le_refl _, starts.le, rfl⟩, ?_⟩⟩
  intro triple member
  obtain ⟨index, above, below, subject⟩ := starts.subjects triple member
  exact ⟨index, Nat.le_of_succ_le above, below, subject⟩

theorem StartsAt.cell (itemStarts : StartsAt blank (start + 1) item)
    (restStarts : StartsAt blank item.next rest) :
    StartsAt blank start (.cell (blank start) item rest) := by
  have room : start < rest.next := Nat.le_trans itemStarts.le restStarts.le
  have first : ∃ index, start ≤ index ∧ index < rest.next ∧
      Rdf.Subject.blank (blank start) = .blank (blank index) := ⟨start, Nat.le_refl _, room, rfl⟩
  refine ⟨Nat.le_of_lt room, List.forall_mem_cons.mpr ⟨first, List.forall_mem_cons.mpr ⟨first, ?_⟩⟩⟩
  intro triple member
  rcases List.mem_append.mp member with inItem | inRest
  · obtain ⟨index, above, below, subject⟩ := itemStarts.subjects triple inItem
    exact ⟨index, Nat.le_of_succ_le above, Nat.lt_of_lt_of_le below restStarts.le, subject⟩
  · obtain ⟨index, above, below, subject⟩ := restStarts.subjects triple inRest
    exact ⟨index, Nat.le_trans (Nat.le_of_succ_le itemStarts.le) above, below, subject⟩

end Encoding

namespace Path

mutual

theorem encode_startsAt (blank : Nat → BlankNode) :
    ∀ (path : Path) (start : Nat), Encoding.StartsAt blank start (encode blank path start)
  | .predicate _, _ => ⟨Nat.le_refl _, by simp [encode]⟩
  | .inverse path, start => (encode_startsAt blank path (start + 1)).wrapped
  | .sequence parts, start => encodeParts_startsAt blank parts start
  | .alternative parts, start => (encodeParts_startsAt blank parts (start + 1)).wrapped
  | .zeroOrMore path, start => (encode_startsAt blank path (start + 1)).wrapped
  | .oneOrMore path, start => (encode_startsAt blank path (start + 1)).wrapped
  | .zeroOrOne path, start => (encode_startsAt blank path (start + 1)).wrapped

theorem encodeParts_startsAt (blank : Nat → BlankNode) :
    ∀ (parts : List Path) (start : Nat),
      Encoding.StartsAt blank start (encodeParts blank parts start)
  | [], _ => ⟨Nat.le_refl _, by simp [encodeParts]⟩
  | part :: rest, start =>
      (encode_startsAt blank part (start + 1)).cell (encodeParts_startsAt blank rest _)

end

end Path

/-! ## Graphs with an encoding -/

theorem sh_inj {name other : String} : sh name = sh other ↔ name = other :=
  ⟨fun same => (String.append_right_inj _).mp (congrArg Iri.text same), congrArg sh⟩

/-- The names of the two vocabularies differ within their first twenty characters. -/
theorem sh_ne_rdf (name other : String) : sh name ≠ rdf other := by
  intro same
  have texts : ("http://www.w3.org/ns/shacl#" ++ name).toList =
      (Rdf.rdfNamespace ++ other).toList :=
    congrArg (fun iri : Iri => iri.text.toList) same
  rw [String.toList_append, String.toList_append] at texts
  have starts := congrArg (List.take 20) texts
  rw [List.take_append_of_le_length (by decide), List.take_append_of_le_length (by decide)]
    at starts
  exact absurd starts (by decide)

/-- The graph has the triples of the encoding, and no others on its blank nodes. -/
structure HoldsOnly (graph : Graph) (blank : Nat → BlankNode) (start : Nat) (encoding : Encoding) :
    Prop where
  holds : ∀ triple ∈ encoding.triples, triple ∈ graph
  only : ∀ triple ∈ graph, ∀ index, start ≤ index → index < encoding.next →
    triple.subject = .blank (blank index) → triple ∈ encoding.triples

theorem holdsOnly_ofList {blank : Nat → BlankNode} {start : Nat} {encoding : Encoding}
    {others : List Triple}
    (apart : ∀ triple ∈ others, ∀ index, start ≤ index → index < encoding.next →
      triple.subject ≠ .blank (blank index)) :
    HoldsOnly (Graph.ofList (others ++ encoding.triples)) blank start encoding := by
  refine ⟨fun triple member => Graph.mem_ofList_iff.mpr (List.mem_append_right _ member), ?_⟩
  intro triple member index above below subject
  rcases List.mem_append.mp (Graph.mem_ofList_iff.mp member) with other | within
  · exact absurd subject (apart triple other index above below)
  · exact within

theorem links_blank_iff {graph : Graph} {predicate : Iri} {node : BlankNode} {target : Term} :
    graph.Links predicate (.blank node) target ↔ ⟨.blank node, predicate, target⟩ ∈ graph := by
  constructor
  · rintro ⟨⟨subject, predicate, target⟩, member, source, rfl, rfl⟩
    cases subject with
    | iri iri => cases source
    | blank other =>
        cases source
        exact member
  · intro member
    exact ⟨_, member, rfl, rfl, rfl⟩

theorem Encoding.StartsAt.not_mem {blank : Nat → BlankNode} {start index : Nat}
    {encoding : Encoding} {triple : Triple} (starts : encoding.StartsAt blank start)
    (distinct : blank.Injective) (outside : index < start ∨ encoding.next ≤ index)
    (subject : triple.subject = .blank (blank index)) : triple ∉ encoding.triples := by
  intro member
  obtain ⟨other, above, below, otherSubject⟩ := starts.subjects triple member
  rw [subject, Rdf.Subject.blank.injEq] at otherSubject
  obtain rfl := distinct otherSubject
  omega

namespace HoldsOnly

open Encoding (StartsAt)

variable {graph : Graph} {blank : Nat → BlankNode} {start : Nat} {predicate : Iri} {target : Term}
  (distinct : blank.Injective)

include distinct

/-! ### Wrapped paths -/

section Wrapped

variable {inner : Encoding} {property : String}
  (holdsOnly : HoldsOnly graph blank start (.wrapped (blank start) property inner))

include holdsOnly

theorem of_wrapped : HoldsOnly graph blank (start + 1) inner := by
  refine ⟨fun triple member => holdsOnly.holds triple (List.mem_cons_of_mem _ member), ?_⟩
  intro triple inGraph index above below subject
  rcases List.mem_cons.mp (holdsOnly.only triple inGraph index (by omega) below subject) with
    rfl | within
  · have same := distinct (Rdf.Subject.blank.inj subject)
    omega
  · exact within

variable (starts : StartsAt blank (start + 1) inner)

include starts

theorem links_wrapped :
    graph.Links predicate (.blank (blank start)) target ↔
      predicate = sh property ∧ target = inner.root := by
  rw [links_blank_iff]
  constructor
  · intro member
    rcases List.mem_cons.mp (holdsOnly.only _ member start (Nat.le_refl _) starts.le rfl) with
      same | within
    · cases same
      exact ⟨rfl, rfl⟩
    · exact absurd within (starts.not_mem distinct (.inl (Nat.lt_succ_self _)) rfl)
  · rintro ⟨rfl, rfl⟩
    exact holdsOnly.holds _ List.mem_cons_self

theorem objectOf?_wrapped :
    graph.objectOf? (.blank (blank start)) (sh property) = some inner.root :=
  Graph.objectOf?_eq_some ((links_wrapped distinct holdsOnly starts).mpr ⟨rfl, rfl⟩)
    fun _ links => ((links_wrapped distinct holdsOnly starts).mp links).2

theorem objectOf?_wrapped_of_ne (other : predicate ≠ sh property) :
    graph.objectOf? (.blank (blank start)) predicate = none :=
  Graph.objectOf?_eq_none fun _ links =>
    other ((links_wrapped distinct holdsOnly starts).mp links).1

end Wrapped

/-! ### Cells -/

section Cells

variable {item rest : Encoding}
  (holdsOnly : HoldsOnly graph blank start (.cell (blank start) item rest))

include holdsOnly

theorem mem_cell {triple : Triple} (inGraph : triple ∈ graph) {index : Nat} (above : start < index)
    (below : index < rest.next) (subject : triple.subject = .blank (blank index)) :
    triple ∈ item.triples ∨ triple ∈ rest.triples := by
  have within := holdsOnly.only triple inGraph index (Nat.le_of_lt above) below subject
  have notFirst : ∀ predicate object,
      triple ≠ ⟨.blank (blank start), predicate, object⟩ := by
    rintro predicate object rfl
    have same := distinct (Rdf.Subject.blank.inj subject)
    omega
  rcases List.mem_cons.mp within with same | within
  · exact absurd same (notFirst _ _)
  · rcases List.mem_cons.mp within with same | within
    · exact absurd same (notFirst _ _)
    · exact List.mem_append.mp within

theorem of_cell_item (restStarts : StartsAt blank item.next rest) :
    HoldsOnly graph blank (start + 1) item := by
  refine ⟨fun triple member => holdsOnly.holds triple (by simp [Encoding.cell, member]), ?_⟩
  intro triple inGraph index above below subject
  refine (mem_cell distinct holdsOnly inGraph above
    (Nat.lt_of_lt_of_le below restStarts.le) subject).resolve_right ?_
  exact restStarts.not_mem distinct (.inl below) subject

theorem of_cell_rest (itemStarts : StartsAt blank (start + 1) item) :
    HoldsOnly graph blank item.next rest := by
  refine ⟨fun triple member => holdsOnly.holds triple (by simp [Encoding.cell, member]), ?_⟩
  intro triple inGraph index above below subject
  refine (mem_cell distinct holdsOnly inGraph
    (Nat.lt_of_lt_of_le itemStarts.le above) below subject).resolve_left ?_
  exact itemStarts.not_mem distinct (.inr above) subject

variable (itemStarts : StartsAt blank (start + 1) item)
  (restStarts : StartsAt blank item.next rest)

include itemStarts restStarts

theorem links_cell :
    graph.Links predicate (.blank (blank start)) target ↔
      predicate = rdf "first" ∧ target = item.root ∨
        predicate = rdf "rest" ∧ target = rest.root := by
  have room : start < rest.next := Nat.le_trans itemStarts.le restStarts.le
  rw [links_blank_iff]
  constructor
  · intro member
    have within := holdsOnly.only _ member start (Nat.le_refl _) room rfl
    have notItem := itemStarts.not_mem distinct (.inl (Nat.lt_succ_self _))
      (rfl : (⟨.blank (blank start), predicate, target⟩ : Triple).subject = _)
    have notRest := restStarts.not_mem distinct (.inl itemStarts.le)
      (rfl : (⟨.blank (blank start), predicate, target⟩ : Triple).subject = _)
    simpa [Encoding.cell, notItem, notRest] using within
  · rintro (⟨rfl, rfl⟩ | ⟨rfl, rfl⟩)
    · exact holdsOnly.holds _ List.mem_cons_self
    · exact holdsOnly.holds _ (List.mem_cons_of_mem _ List.mem_cons_self)

theorem objectOf?_first :
    graph.objectOf? (.blank (blank start)) (rdf "first") = some item.root := by
  refine Graph.objectOf?_eq_some
    ((links_cell distinct holdsOnly itemStarts restStarts).mpr (.inl ⟨rfl, rfl⟩)) ?_
  intro other links
  rcases (links_cell distinct holdsOnly itemStarts restStarts).mp links with ⟨-, same⟩ | ⟨same, -⟩
  · exact same
  · exact absurd same (by decide)

theorem objectOf?_rest :
    graph.objectOf? (.blank (blank start)) (rdf "rest") = some rest.root := by
  refine Graph.objectOf?_eq_some
    ((links_cell distinct holdsOnly itemStarts restStarts).mpr (.inr ⟨rfl, rfl⟩)) ?_
  intro other links
  rcases (links_cell distinct holdsOnly itemStarts restStarts).mp links with ⟨same, -⟩ | ⟨-, same⟩
  · exact absurd same (by decide)
  · exact same

theorem objectOf?_cell_sh (name : String) :
    graph.objectOf? (.blank (blank start)) (sh name) = none := by
  refine Graph.objectOf?_eq_none fun other links => ?_
  rcases (links_cell distinct holdsOnly itemStarts restStarts).mp links with ⟨same, -⟩ | ⟨same, -⟩
  · exact sh_ne_rdf _ _ same
  · exact sh_ne_rdf _ _ same

end Cells

end HoldsOnly

end RdfPipeline.Shape
