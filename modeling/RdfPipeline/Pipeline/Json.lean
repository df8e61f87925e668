import RdfPipeline.Json.Layout
import RdfPipeline.Pipeline.Basic
import RdfPipeline.Value.Json

/-!
# Pipelines as JSON

The document of a pipeline and its reading. A document gives the fields of a structure by name in an
object, or in their order in an array; fields with a default may be left out, and unknown names are
passed over.
-/

set_option autoImplicit false

namespace RdfPipeline.Pipeline

/-! ## Fields -/

/-- Pairs names with the items of an array that has no more items than there are names. -/
def zipFields? : List String → List Json → Option (List (String × Json))
  | _, [] => some []
  | [], _ :: _ => none
  | name :: names, item :: items => (zipFields? names items).map ((name, item) :: ·)

/-- The fields with the given names, each at most once. -/
def fields? (names : List String) : Json → Option (List (String × Json))
  | .object members =>
      let known := members.filter fun member => names.contains member.1
      if (known.map (·.1)).Nodup then some known else none
  | .array items => zipFields? names items
  | _ => none

def requiredField? {α : Type} (fields : List (String × Json)) (name : String)
    (read : Json → Option α) : Option α :=
  (fields.lookup name).bind read

def optionalField? {α : Type} (fields : List (String × Json)) (name : String) (default : α)
    (read : Json → Option α) : Option α :=
  match fields.lookup name with
  | some document => read document
  | none => some default

/-! ## Reading -/

def readText? : Json → Option String
  | .string text => some text
  | _ => none

def readCoordinate? : Json → Option Binary64
  | .number (.integer value _ _) => some (Binary64.ofInt value)
  | .number (.float value) => some value
  | _ => none

def readList? {α : Type} (read : Json → Option α) : Json → Option (List α)
  | .array items => items.mapM read
  | _ => none

def readBindings? : Json → Option (Dict Value)
  | .object members => Value.readMembers? [] members
  | _ => none

def Position.layout : Json.Layout :=
  .fields [("x", .whole), ("y", .whole)]

def Position.ofJson? (document : Json) : Option Position := do
  let fields ← fields? Position.layout.names document
  some ⟨← requiredField? fields "x" readCoordinate?, ← requiredField? fields "y" readCoordinate?⟩

def Step.layout : Json.Layout :=
  .fields
    [ ("id", .whole), ("operation", .whole), ("name", .whole), ("parameters", .whole),
      ("inputConnections", .whole), ("outputConnections", .whole), ("position", Position.layout) ]

def Step.ofJson? (document : Json) : Option Step := do
  let fields ← fields? Step.layout.names document
  some
    { id := ← requiredField? fields "id" readText?
      operation := ← requiredField? fields "operation" readText?
      name := ← optionalField? fields "name" "" readText?
      parameters := ← optionalField? fields "parameters" [] readBindings?
      inputs := ← optionalField? fields "inputConnections" [] (readList? readText?)
      outputs := ← optionalField? fields "outputConnections" [] (readList? readText?)
      position := ← optionalField? fields "position" .origin Position.ofJson? }

def layout : Json.Layout :=
  .fields
    [("id", .whole), ("name", .whole), ("steps", .items Step.layout), ("variables", .whole)]

def ofJson? (document : Json) : Option Pipeline := do
  let fields ← fields? layout.names document
  some
    { id := ← requiredField? fields "id" readText?
      name := ← optionalField? fields "name" "" readText?
      steps := ← optionalField? fields "steps" [] (readList? Step.ofJson?)
      bindings := ← optionalField? fields "variables" [] readBindings? }

/-- The pipeline that a JSON text describes. -/
def parse (text : String) : Except EngineError Pipeline :=
  match (Json.parseUnder? layout text).bind ofJson? with
  | some pipeline => .ok pipeline
  | none =>
      .error (.invalidDefinition
        ("Malformed pipeline definition: " ++ TextFormat.definition.complaint))

/-! ## Writing -/

def Position.toJson (position : Position) : Json :=
  .object
    [("x", (Value.float position.x).toJson), ("y", (Value.float position.y).toJson)]

def textsToJson (texts : List String) : Json :=
  .array (texts.map .string)

def Step.toJson (step : Step) : Json :=
  .object
    [ ("id", .string step.id), ("operation", .string step.operation), ("name", .string step.name),
      ("parameters", (Value.map step.parameters).toJson),
      ("inputConnections", textsToJson step.inputs),
      ("outputConnections", textsToJson step.outputs), ("position", step.position.toJson) ]

def toJson (pipeline : Pipeline) : Json :=
  .object
    [ ("id", .string pipeline.id), ("name", .string pipeline.name),
      ("steps", .array (pipeline.steps.map Step.toJson)),
      ("variables", (Value.map pipeline.bindings).toJson) ]

def serialize (pipeline : Pipeline) : String :=
  pipeline.toJson.print

end RdfPipeline.Pipeline
