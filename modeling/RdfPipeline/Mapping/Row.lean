import RdfPipeline.Mapping.Plan

/-!
# Rows as triples

The subject of a record, the objects of its cells, and the triples that a plan makes of it.
-/

set_option autoImplicit false

namespace RdfPipeline.Mapping

open Rdf (Iri Literal Subject Term Triple rdf xsd)

/-! ## Subjects -/

/-- Letters, digits, `_` and `-` of ASCII. -/
def isNameChar (c : Char) : Bool :=
  ('a' ≤ c && c ≤ 'z') || ('A' ≤ c && c ≤ 'Z') || Text.isDigit c || c == '_' || c == '-'

/-- A text cut to its core, with `_` for every character that names cannot have. -/
def sanitize (raw : String) : String :=
  String.ofList ((Text.trimChars raw.toList).map fun c => if isNameChar c then c else '_')

/-- The template with the sanitized cells of a record. -/
def expandTemplate (template : Template) (record : Record) : String :=
  template.expandWith (Template.fieldText? record) fun _ raw => sanitize raw

namespace Plan

/-- The cell of the subject column, unless it is missing. -/
def subjectCell? (plan : Plan) (record : Record) : Option Value :=
  (plan.subjectColumn.bind fun column => Dict.get? column record).filter fun cell =>
    !cell.isMissing

/-- The subject of a row: by the template, else by the subject column, else by its number. All but
an expansion that is absolute by itself follow the base. -/
def subjectText (plan : Plan) (record : Record) (number : Nat) : String :=
  match plan.subjectTemplate with
  | some template =>
      let expanded := expandTemplate template record
      if Iri.looksAbsolute expanded then expanded else plan.baseUri ++ expanded
  | none =>
      match plan.subjectCell? record with
      | some cell => plan.baseUri ++ sanitize cell.toText
      | none => plan.baseUri ++ "row/" ++ toString number

def subject (plan : Plan) (record : Record) (number : Nat) : Except EngineError Iri :=
  match Iri.parse? (plan.subjectText record number) with
  | some iri => .ok iri
  | none =>
      .error (.ofOperation id
        ("Row " ++ toString number ++ ": invalid subject IRI '" ++ plan.subjectText record number ++
          "': " ++ TextFormat.iri.complaint))

end Plan

/-! ## Objects -/

def doubleText (value : Binary64) : String :=
  match value with
  | .infinite negative => if negative then "-INF" else "INF"
  | other => other.toText

/-- A text as an object: an absolute identifier stands for itself, any other text is a literal. -/
def textObject (datatype : Option Iri) (text : String) : Term :=
  let literal : Term :=
    .literal (match datatype with
      | some datatype => .typed text datatype
      | none => .plain text)
  if Iri.looksAbsolute text then
    match Iri.parse? text with
    | some iri => .iri iri
    | none => literal
  else literal

mutual

/-- The objects of a cell: one for a scalar, those of all items for a list. Only texts take the
datatype of their column. -/
def objects (datatype : Option Iri) : Value → List Term
  | .null => []
  | .bool value => [.literal (.ofBool value)]
  | .integer value => [.literal (.typed (toString value.toInt) (xsd "integer"))]
  | .float value => [.literal (.typed (doubleText value) (xsd "double"))]
  | .text value => [textObject datatype value]
  | .list items => itemObjects datatype items
  | .map entries => [.literal (.plain (Value.map entries).toText)]

/-- The objects of the items that are not missing. -/
def itemObjects (datatype : Option Iri) : List Value → List Term
  | [] => []
  | item :: rest =>
      (if item.isMissing then [] else objects datatype item) ++ itemObjects datatype rest

end

/-! ## Triples -/

namespace Plan

/-- The objects of a column, none if its cell is missing. -/
def columnObjects (plan : Plan) (record : Record) (column : String) : List Term :=
  match Dict.get? column record with
  | some cell => if cell.isMissing then [] else objects (Dict.get? column plan.datatypes) cell
  | none => []

def typeTriples (plan : Plan) (subject : Iri) : List Triple :=
  plan.typeIri.toList.map fun type => ⟨.iri subject, rdf "type", .iri type⟩

def propertyTriples (plan : Plan) (subject : Iri) (record : Record) : List Triple :=
  plan.properties.flatMap fun (column, predicate) =>
    (plan.columnObjects record column).map fun object => ⟨.iri subject, predicate, object⟩

def rowTriples (plan : Plan) (record : Record) (number : Nat) : Except EngineError (List Triple) :=
  (plan.subject record number).map fun subject =>
    plan.typeTriples subject ++ plan.propertyTriples subject record

end Plan

end RdfPipeline.Mapping
