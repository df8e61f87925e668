import RdfPipeline.Json.Printer
import RdfPipeline.Json.Reader
import RdfPipeline.Value.Basic

/-!
# Values and JSON

Two ways from documents to values and two ways from values to JSON texts: one through canonical
documents, and one that reads documents as they are written and writes values directly.
-/

set_option autoImplicit false

namespace RdfPipeline.Value

/-- Integers of the signed range stay integers; larger ones become the nearest number. -/
def ofNumber : Json.Number → Value
  | .integer value _ _ =>
      match Decimal.int64? value with
      | some word => .integer word
      | none => .float (Binary64.ofInt value)
  | .float value => .float value

mutual

def ofJson : Json → Value
  | .null => .null
  | .bool value => .bool value
  | .number value => ofNumber value
  | .string value => .text value
  | .array items => .list (ofItems items)
  | .object members => .map (ofMembers members)

def ofItems : List Json → List Value
  | [] => []
  | item :: rest => ofJson item :: ofItems rest

def ofMembers : List (String × Json) → List (String × Value)
  | [] => []
  | (name, value) :: rest => (name, ofJson value) :: ofMembers rest

end

/-! ## Reading documents as they are written

A document is offered to one form after the other, and the first that accepts it decides. -/

def readNull? : Json → Option Value
  | .null => some .null
  | _ => none

def readBool? : Json → Option Value
  | .bool value => some (.bool value)
  | _ => none

def readInteger? : Json → Option Value
  | .number (.integer value _ _) => (Decimal.int64? value).map .integer
  | _ => none

def readFloat? : Json → Option Value
  | .number (.integer value _ _) => some (.float (Binary64.ofInt value))
  | .number (.float value) => some (.float value)
  | _ => none

def readText? : Json → Option Value
  | .string value => some (.text value)
  | _ => none

/-- The scalar forms in the order in which they are tried. -/
def readScalar? (document : Json) : Option Value :=
  readNull? document <|> readBool? document <|> readInteger? document <|> readFloat? document <|>
    readText? document

mutual

/-- The value of a document as it is written: the first form that accepts it, repeated names being
overwritten one by one. -/
def read? : Json → Option Value
  | .array items => (readItems? items).map .list
  | .object members => (readMembers? [] members).map .map
  | scalar => readScalar? scalar

def readItems? : List Json → Option (List Value)
  | [] => some []
  | item :: rest => do
      let value ← read? item
      let values ← readItems? rest
      some (value :: values)

def readMembers? (known : Dict Value) : List (String × Json) → Option (Dict Value)
  | [] => some known
  | (name, member) :: rest => do
      let value ← read? member
      readMembers? (Dict.insert name value known) rest

end

/-! ## Writing -/

def integerNumber (value : Int64) : Json.Number :=
  .integer value.toInt (Int64.le_toInt value)
    (Int.lt_trans (Int64.toInt_lt value) (by decide))

mutual

/-- The document of a value. Numbers that are not finite have none and become null. -/
def toJson : Value → Json
  | .null => .null
  | .bool value => .bool value
  | .integer value => .number (integerNumber value)
  | .float value => if value.isFinite then .number (.float value) else .null
  | .text value => .string value
  | .list items => .array (itemsToJson items)
  | .map entries => .object (entriesToJson entries)

def itemsToJson : List Value → List Json
  | [] => []
  | item :: rest => toJson item :: itemsToJson rest

def entriesToJson : List (String × Value) → List (String × Json)
  | [] => []
  | (name, value) :: rest => (name, toJson value) :: entriesToJson rest

end

mutual

/-- The JSON text of a value, written without a document in between. -/
def jsonChars : Value → List Char
  | .null => "null".toList
  | .bool true => "true".toList
  | .bool false => "false".toList
  | .integer value => (toString value.toInt).toList
  | .float value => Json.floatChars value
  | .text value => Json.stringChars value
  | .list items => '[' :: itemsJsonChars items ++ [']']
  | .map entries => '\x7b' :: entriesJsonChars entries ++ ['\x7d']

def itemsJsonChars : List Value → List Char
  | [] => []
  | [item] => jsonChars item
  | item :: rest => jsonChars item ++ ',' :: itemsJsonChars rest

def entriesJsonChars : List (String × Value) → List Char
  | [] => []
  | [(name, value)] => Json.stringChars name ++ ':' :: jsonChars value
  | (name, value) :: rest =>
      Json.stringChars name ++ ':' :: jsonChars value ++ ',' :: entriesJsonChars rest

end

def serialize (value : Value) : String :=
  String.ofList (jsonChars value)

/-- The text that a value contributes to a template: scalars bare, null as nothing, lists and maps
as JSON. -/
def toText : Value → String
  | .null => ""
  | .bool value => if value then "true" else "false"
  | .integer value => toString value.toInt
  | .float value => value.toText
  | .text value => value
  | .list items => (toJson (.list items)).print
  | .map entries => (toJson (.map entries)).print

end RdfPipeline.Value
