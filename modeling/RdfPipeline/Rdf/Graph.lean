import RdfPipeline.Rdf.Term

/-!
# RDF graphs

Sets of triples, kept in the order in which they were added, with the look-ups that shapes and
mappings need.
-/

set_option autoImplicit false

namespace RdfPipeline.Rdf

structure Graph where
  triples : List Triple
  nodup : triples.Nodup

namespace Graph

def empty : Graph :=
  ⟨[], .nil⟩

instance : EmptyCollection Graph := ⟨empty⟩

instance : Inhabited Graph := ⟨empty⟩

instance : Membership Triple Graph := ⟨fun graph triple => triple ∈ graph.triples⟩

def insert (graph : Graph) (triple : Triple) : Graph :=
  if h : triple ∈ graph.triples then graph
  else
    ⟨graph.triples ++ [triple], by
      rw [List.nodup_append]
      refine ⟨graph.nodup, by simp, ?_⟩
      intro left leftIn right rightIn same
      simp only [List.mem_singleton] at rightIn
      exact h (rightIn ▸ same ▸ leftIn)⟩

def insertAll (graph : Graph) (triples : List Triple) : Graph :=
  triples.foldl insert graph

def ofList (triples : List Triple) : Graph :=
  insertAll empty triples

def size (graph : Graph) : Nat :=
  graph.triples.length

def union (left right : Graph) : Graph :=
  left.insertAll right.triples

def withSubject (graph : Graph) (subject : Subject) : List Triple :=
  graph.triples.filter (·.subject = subject)

def withPredicate (graph : Graph) (predicate : Iri) : List Triple :=
  graph.triples.filter (·.predicate = predicate)

/-- The objects of all triples with this subject and predicate. -/
def objects (graph : Graph) (subject : Subject) (predicate : Iri) : List Term :=
  (graph.triples.filter fun triple =>
    triple.subject = subject ∧ triple.predicate = predicate).map (·.object)

/-- The subjects of all triples with this predicate and object. -/
def subjects (graph : Graph) (predicate : Iri) (object : Term) : List Subject :=
  (graph.triples.filter fun triple =>
    triple.predicate = predicate ∧ triple.object = object).map (·.subject)

/-- The objects of a term under a predicate; literals have none. -/
def objectsOf (graph : Graph) (term : Term) (predicate : Iri) : List Term :=
  match term.toSubject? with
  | some subject => graph.objects subject predicate
  | none => []

/-- The first object of a term under a predicate. -/
def objectOf? (graph : Graph) (term : Term) (predicate : Iri) : Option Term :=
  (graph.objectsOf term predicate).head?

/-- The predicates and objects of a term; literals have none. -/
def outgoing (graph : Graph) (term : Term) : List (Iri × Term) :=
  match term.toSubject? with
  | some subject => (graph.withSubject subject).map fun triple => (triple.predicate, triple.object)
  | none => []

/-- One line for each triple, with its final dot. -/
def lines (graph : Graph) : List String :=
  graph.triples.map fun triple => triple.toText ++ " ."

def toNTriples (graph : Graph) : String :=
  String.join (graph.lines.map (· ++ "\n"))

end Graph

end RdfPipeline.Rdf
