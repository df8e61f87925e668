import RdfPipeline.Decimal.Shortest
import RdfPipeline.Json.Basic
import RdfPipeline.Text.Ascii

/-!
# Writing JSON

The compact text of a document, members in the order of the document.
-/

set_option autoImplicit false

namespace RdfPipeline.Json

/-- A whole number ends in `.0`; numbers from `10 ^ 16` on and those below `10 ^ -5` have an
exponent. -/
def numberStyle : Decimal.NumberStyle where
  positional leading := -5 ≤ leading ∧ leading < 16
  markWhole := true
  tie := .even

/-- NaN and the infinities have no JSON form and are written as null. -/
def floatChars : Binary64 → List Char
  | .finite negative exponent fraction =>
      let magnitude := Decimal.magnitudeText numberStyle exponent fraction
      if negative then '-' :: magnitude else magnitude
  | _ => "null".toList

def Number.chars : Number → List Char
  | .integer value _ _ => (toString value).toList
  | .float value => floatChars value

/-- Quotes, backslashes and control characters are escaped. -/
def escapeChar (c : Char) : List Char :=
  match c with
  | '"' => ['\\', '"']
  | '\\' => ['\\', '\\']
  | '\x08' => ['\\', 'b']
  | '\x0c' => ['\\', 'f']
  | '\n' => ['\\', 'n']
  | '\r' => ['\\', 'r']
  | '\t' => ['\\', 't']
  | c =>
      if c.toNat < 0x20 then '\\' :: 'u' :: (Text.upperHex 4 c.toNat).map Char.toLower else [c]

def stringChars (text : String) : List Char :=
  '"' :: text.toList.flatMap escapeChar ++ ['"']

mutual

def chars : Json → List Char
  | .null => "null".toList
  | .bool value => (if value then "true" else "false").toList
  | .number value => value.chars
  | .string value => stringChars value
  | .array items => '[' :: itemsChars items ++ [']']
  | .object members => '\x7b' :: membersChars members ++ ['\x7d']

def itemsChars : List Json → List Char
  | [] => []
  | [item] => chars item
  | item :: rest => chars item ++ ',' :: itemsChars rest

def membersChars : List (String × Json) → List Char
  | [] => []
  | [(name, value)] => stringChars name ++ ':' :: chars value
  | (name, value) :: rest => stringChars name ++ ':' :: chars value ++ ',' :: membersChars rest

end

def print (document : Json) : String :=
  String.ofList document.chars

end RdfPipeline.Json
