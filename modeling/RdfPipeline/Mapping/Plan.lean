import RdfPipeline.Operation.Basic
import RdfPipeline.Rdf.Iri
import RdfPipeline.Template

/-!
# Plans for mapping records to triples

A plan says which subject a record has, which type the subject gets, and which columns become which
predicates and datatypes.
-/

set_option autoImplicit false

namespace RdfPipeline.Mapping

open Rdf (Iri Literal Term Triple)

def id : String := "rdf-mapping"

structure Plan where
  /-- Ends with a slash or a number sign. -/
  baseUri : String
  subjectTemplate : Option Template
  subjectColumn : Option String
  typeIri : Option Iri
  /-- Columns with their predicates. -/
  properties : List (String × Iri)
  /-- Columns with the datatypes of their texts. -/
  datatypes : Dict Iri

/-! ## Making plans -/

/-- A base without blanks around it, ended by a slash unless it ends with a slash or number sign. -/
def normalizeBase (raw : String) : String :=
  let base := Text.trim raw
  if base.toList.getLast? ∈ [some '/', some '#'] then base else base ++ "/"

def parseIri (label raw : String) : Except EngineError Iri :=
  match Iri.parse? (Text.trim raw) with
  | some iri => .ok iri
  | none =>
      .error (.ofOperation id
        ("Invalid IRI for '" ++ label ++ "': '" ++ raw ++ "' (" ++ TextFormat.iri.complaint ++ ")"))

def parseOptional {α : Type} (parse : String → Except EngineError α) :
    Option String → Except EngineError (Option α)
  | none => .ok none
  | some text => (parse text).map some

def parseTemplate (text : String) : Except EngineError Template :=
  (Template.parse text).mapError fun error => .ofOperation id error.message

/-- The predicate of a column, which has to be a text. -/
def parseProperty (entry : String × Value) : Except EngineError (String × Iri) :=
  match entry.2.asText? with
  | some raw => (parseIri entry.1 raw).map fun iri => (entry.1, iri)
  | none =>
      .error (.ofOperation id ("Predicate for column '" ++ entry.1 ++ "' must be a string"))

/-- The datatype of a column by the local part of its name; other values than texts, and blank
ones, give none. -/
def parseDatatype (entry : String × Value) : Except EngineError (Option (String × Iri)) :=
  match entry.2.asText?.filter fun raw => !Text.isAllBlank raw with
  | some raw =>
      (parseIri entry.1 (Rdf.xsdNamespace ++ Iri.localName (Text.trim raw))).map fun iri =>
        some (entry.1, iri)
  | none => .ok none

/-- The mappings of columns to predicates, which have to be there. -/
def requireMappings (context : OperationContext) : Except EngineError (Dict Value) :=
  match context.map? "propertyMappings" with
  | some mappings => .ok mappings
  | none => .error (.ofOperation id "Missing required parameter 'propertyMappings'")

def Plan.ofContext (context : OperationContext) : Except EngineError Plan := do
  let base ← context.requireText id "baseUri"
  let subjectTemplate ← parseOptional parseTemplate (context.nonBlankText? "subjectTemplate")
  let typeIri ← parseOptional (parseIri "typeUri") (context.nonBlankText? "typeUri")
  let properties ← (← requireMappings context).mapM parseProperty
  let datatypes ← ((context.map? "datatypeMappings").getD []).mapM parseDatatype
  .ok
    { baseUri := normalizeBase base
      subjectTemplate
      subjectColumn := context.nonBlankText? "subjectColumn"
      typeIri
      properties
      datatypes := datatypes.reduceOption }

end RdfPipeline.Mapping
