import RdfPipeline.Source.Input
import RdfPipeline.Value.Json

/-!
# JSON as a source

Records from the objects of one document, or from lines that hold an object each.
-/

set_option autoImplicit false

namespace RdfPipeline.Source.JsonRecords

def id : String := "json-source"

/-! ## Records -/

/-- The record of a document at a position, which has to be an object. -/
def toRecord (position : Nat) (document : Json) : Outcome :=
  match Value.ofJson document with
  | .map entries => .ok entries
  | other =>
      .error (.ofOperation id
        ("Element " ++ toString position ++ " is not a JSON object: " ++ other.toText))

/-! ## Whole documents -/

/-- The keys of a dotted path; empty ones do not count. -/
def pathKeys (path : String) : List String :=
  ((path.toList.splitOn '.').map String.ofList).filter (· != "")

def descend (path : String) (document : Json) : List String → Except EngineError Json
  | [] => .ok document
  | key :: rest =>
      match document.member? key with
      | some member => descend path member rest
      | none => .error (.ofOperation id ("Field '" ++ path ++ "' not found"))

/-- The documents of the records: the items of the selected array, or, if none is selected, an
object as a whole. -/
def selectItems (document : Json) (field : Option String) : Except EngineError (List Json) :=
  match field with
  | some path => do
      match ← descend path document (pathKeys path) with
      | .array items => .ok items
      | _ => .error (.ofOperation id ("Field '" ++ path ++ "' is not an array"))
  | none =>
      match document with
      | .array items => .ok items
      | .object members => .ok [.object members]
      | _ => .error (.ofOperation id "Top-level JSON value must be an array or an object")

def parseDocument? (contents : Except Files.Fault Files.Bytes) : Option Json := do
  let text ← (contents.bind Files.decodeText).toOption
  let document ← Json.parse? text
  some document.canonical

def readDocument (contents : Except Files.Fault Files.Bytes) : Except EngineError Json :=
  match parseDocument? contents with
  | some document => .ok document
  | none => .error (.ofOperation id ("Invalid JSON: " ++ TextFormat.json.complaint))

/-- The outcomes of items that are counted from `position` on. -/
def itemOutcomes (position : Nat) : List Json → List Outcome
  | [] => []
  | item :: rest => toRecord position item :: itemOutcomes (position + 1) rest

/-! ## Lines -/

/-- Cuts bytes after every line feed; what follows the last one is a line unless it is empty. -/
def splitLines : Files.Bytes → List Files.Bytes
  | [] => []
  | byte :: rest =>
      if byte = 10 then [byte] :: splitLines rest
      else
        match splitLines rest with
        | [] => [[byte]]
        | line :: lines => (byte :: line) :: lines

/-- A line without its line feed and a carriage return in front of it. -/
def dropLineEnd (line : Files.Bytes) : Files.Bytes :=
  match line.reverse with
  | 10 :: 13 :: rest => rest.reverse
  | 10 :: rest => rest.reverse
  | _ => line

/-- What a line yields, which is nothing if it is blank. -/
def lineOutcome? (number : Nat) (line : Files.Bytes) : Option Outcome :=
  match Files.decodeText (dropLineEnd line) with
  | .error fault => some (.error (.io fault.message))
  | .ok text =>
      if Text.isAllBlank text then none
      else
        match Json.parse? text with
        | some document => some (toRecord number document.canonical)
        | none =>
            some (.error (.ofOperation id
              ("Invalid JSON on line " ++ toString number ++ ": " ++ TextFormat.json.complaint)))

/-- The outcomes of lines that are counted from `number` on. -/
def lineOutcomes (number : Nat) : List Files.Bytes → List Outcome
  | [] => []
  | line :: rest => (lineOutcome? number line).toList ++ lineOutcomes (number + 1) rest

/-- The items of a document of lines. What cannot be read fails for ever. -/
def supplyOfLines : Except Files.Fault Files.Bytes → Stream.Supply
  | .ok document => .ofOutcomes (lineOutcomes 1 (splitLines document))
  | .error fault => .ofError (.io fault.message)

/-! ## The operation -/

def execute (context : OperationContext) : Activity OperationResult := do
  let input ← openInput id context
  if context.flag "jsonLines" false then
    streamResult (input.feed supplyOfLines)
  else
    let document ← liftExcept (readDocument (input.read (← Activity.host).files))
    let items ← liftExcept (selectItems document (context.nonBlankText? "arrayField"))
    streamResult (.ready (.ofOutcomes (itemOutcomes 1 items)))

def operation : Operation where
  id := id
  name := "JSON Source"
  description := "Reads JSON or JSON Lines from a file or inline content as a record stream"
  type := .source
  parameters :=
    inputSpecs "Path of the JSON file" "Inline JSON text, used when no filePath is set" ++
      [ .optional "arrayField" .string "Dot separated path to the array of records",
        (ParameterSpec.optional "jsonLines" .boolean "One JSON object per line").withDefault
          (.bool false) ]
  execute := execute

end RdfPipeline.Source.JsonRecords
