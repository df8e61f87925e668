import RdfPipeline.Csv
import RdfPipeline.Source.Input

/-!
# CSV as a source

One record for each row. Columns are named by the first row, or numbered where it names none.
-/

set_option autoImplicit false

namespace RdfPipeline.Source.Csv

open RdfPipeline.Csv

def id : String := "csv-source"

/-- The byte between fields; `\t` written out stands for a tab. -/
def parseDelimiter (raw : String) : Except EngineError UInt8 :=
  let text := if raw = "\\t" then "\t" else raw
  match Files.encodeText text with
  | [byte] => .ok byte
  | _ =>
      .error (.ofOperation id
        ("Delimiter must be a single ASCII character, got '" ++ text ++ "'"))

/-- The name of a column, counted from zero. -/
def columnName (columns : List String) (index : Nat) : String :=
  (columns[index]?).getD ("column" ++ toString (index + 1))

def fieldValue (inferTypes : Bool) (field : String) : Value :=
  if inferTypes then Value.infer field else .text field

/-- The fields of a row with the names of their columns, from a column on. -/
def nameFields (columns : List String) (inferTypes : Bool) (first : Nat) :
    List String → List (String × Value)
  | [] => []
  | field :: rest =>
      (columnName columns first, fieldValue inferTypes field) ::
        nameFields columns inferTypes (first + 1) rest

/-- The record of a row; of several columns of one name the last counts. -/
def toRecord (columns : List String) (inferTypes : Bool) (fields : List String) : Record :=
  Dict.ofList (nameFields columns inferTypes 0 fields)

def malformed (number : Nat) (reason : String) : EngineError :=
  .ofOperation id ("Malformed CSV row " ++ toString number ++ ": " ++ reason)

/-- The outcomes of rows that are counted from `number` on. -/
def rowOutcomes (columns : List String) (inferTypes : Bool) (number : Nat) :
    List (List Files.Bytes) → List Outcome
  | [] => []
  | row :: rest =>
      ((decodeRow row).mapError (malformed number)).map (toRecord columns inferTypes) ::
        rowOutcomes columns inferTypes (number + 1) rest

/-- The items of a document without a row of names. -/
def supplyOf (delimiter : UInt8) (inferTypes : Bool) :
    Except Files.Fault Files.Bytes → Stream.Supply
  | .ok document => .ofOutcomes (rowOutcomes [] inferTypes 1 (rows delimiter document))
  | .error _ => .ofOutcomes [.error (malformed 1 TextFormat.csv.complaint)]

/-- The names in the first row and the rows after it. A document without rows has no names. -/
def splitHeader (rows : List (List Files.Bytes)) :
    Except EngineError (List String × List (List Files.Bytes)) :=
  match rows with
  | [] => .ok ([], [])
  | first :: rest =>
      match decodeRow first with
      | .ok names => .ok (names.map Text.trim, rest)
      | .error reason => .error (.ofOperation id ("Cannot read CSV header: " ++ reason))

/-- Reads the whole input, whose first row names the columns. -/
def readWithHeader (delimiter : UInt8) (files : Files) (input : Input) :
    Except EngineError (List String × List (List Files.Bytes)) :=
  match input.read files with
  | .ok document => splitHeader (rows delimiter document)
  | .error _ => .error (.ofOperation id ("Cannot read CSV header: " ++ TextFormat.csv.complaint))

def columnsValue (columns : List String) : Value :=
  .list (columns.map .text)

def execute (context : OperationContext) : Activity OperationResult := do
  let delimiter ← liftExcept (parseDelimiter ((context.text? "delimiter").getD ","))
  let inferTypes := context.flag "inferTypes" false
  let input ← openInput id context
  if context.flag "hasHeader" true then
    let (columns, rows) ← liftExcept (readWithHeader delimiter (← Activity.host).files input)
    let result ← streamResult (.ready (.ofOutcomes (rowOutcomes columns inferTypes 1 rows)))
    return result.withMetadata "columns" (columnsValue columns)
  else
    let result ← streamResult (input.feed (supplyOf delimiter inferTypes))
    return result.withMetadata "columns" (columnsValue [])

def operation : Operation where
  id := id
  name := "CSV Source"
  description := "Reads CSV rows from a file or inline content as a record stream"
  type := .source
  parameters :=
    inputSpecs "Path of the CSV file" "Inline CSV text, used when no filePath is set" ++
      [ (ParameterSpec.optional "delimiter" .string "Field delimiter").withDefault (.text ","),
        (ParameterSpec.optional "hasHeader" .boolean "First row holds column names").withDefault
          (.bool true),
        (ParameterSpec.optional "inferTypes" .boolean "Parse numbers and booleans").withDefault
          (.bool false) ]
  execute := execute

end RdfPipeline.Source.Csv
