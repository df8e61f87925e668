import RdfPipeline.Decimal.Binary64
import RdfPipeline.Dict

/-!
# JSON documents

A document keeps the members of an object in the order in which they were written, repeated names
included. Its canonical form has them sorted and keeps the last of a repeated name.
-/

set_option autoImplicit false

namespace RdfPipeline

/-- A JSON number: an integer of the range that is kept exact, or a binary number. -/
inductive Json.Number where
  | integer (value : Int) (lower : -0x8000000000000000 ≤ value)
      (upper : value < 0x10000000000000000)
  | float (value : Binary64)
  deriving DecidableEq

inductive Json where
  | null
  | bool (value : Bool)
  | number (value : Json.Number)
  | string (value : String)
  | array (items : List Json)
  | object (members : List (String × Json))

namespace Json

/-- An integer as a number, exact where the range allows it. -/
def Number.ofInt (value : Int) : Number :=
  if h : -0x8000000000000000 ≤ value ∧ value < 0x10000000000000000 then
    .integer value h.1 h.2
  else .float (Binary64.ofInt value)

def ofInt (value : Int) : Json :=
  .number (.ofInt value)

def ofNat (value : Nat) : Json :=
  .ofInt value

def member? (name : String) : Json → Option Json
  | .object members => (members.reverse.find? (·.1 == name)).map (·.2)
  | _ => none

mutual

/-- Sorted objects with the last of every repeated name, at every level. -/
def canonical : Json → Json
  | .array items => .array (canonicalItems items)
  | .object members => .object (canonicalMembers [] members)
  | scalar => scalar

def canonicalItems : List Json → List Json
  | [] => []
  | item :: rest => canonical item :: canonicalItems rest

def canonicalMembers (known : Dict Json) : List (String × Json) → Dict Json
  | [] => known
  | (name, value) :: rest => canonicalMembers (Dict.insert name (canonical value) known) rest

end

end Json

end RdfPipeline
