import RdfPipeline.Rdf.Term

/-!
# The shapes vocabulary
-/

set_option autoImplicit false

namespace RdfPipeline.Shape

open Rdf (Iri)

def sh (name : String) : Iri :=
  ⟨"http://www.w3.org/ns/shacl#" ++ name⟩

def rdfs (name : String) : Iri :=
  ⟨"http://www.w3.org/2000/01/rdf-schema#" ++ name⟩

end RdfPipeline.Shape
