import RdfPipeline.Decimal.Integer
import RdfPipeline.Decimal.Reading
import RdfPipeline.Decimal.Shortest
import RdfPipeline.Dict
import RdfPipeline.Text.Blank

/-!
# Values

The dynamically shaped values that parameters, variables and records hold, and the views that
operations take of them.
-/

set_option autoImplicit false

namespace RdfPipeline

inductive Value where
  | null
  | bool (value : Bool)
  | integer (value : Int64)
  | float (value : Binary64)
  | text (value : String)
  | list (items : List Value)
  | map (entries : List (String × Value))

/-- One row of data, from column names to values. -/
abbrev Record := Dict Value

abbrev Parameters := Dict Value

abbrev Variables := Dict Value

namespace Value

/-- The integer closest to `value` that fits a signed 64-bit word. -/
def clampInteger (value : Int) : Int64 :=
  match Decimal.int64? value with
  | some word => word
  | none => if value < 0 then Int64.minValue else Int64.maxValue

/-- A count as a value; counts beyond the signed range become the largest integer. -/
def ofCount (count : Nat) : Value :=
  .integer (clampInteger count)

def asText? : Value → Option String
  | .text value => some value
  | _ => none

/-- Booleans, and their names in any case with blanks around them. -/
def asBool? : Value → Option Bool
  | .bool value => some value
  | .text value =>
      let word := Text.lowerAscii (Text.trim value)
      if word = "true" then some true
      else if word = "false" then some false
      else none
  | _ => none

/-- Integers, numbers without fractional part cut to the range of integers, and texts that read as
an integer once blanks are cut off. -/
def asInteger? : Value → Option Int64
  | .integer value => some value
  | .float value => value.toInt?.map clampInteger
  | .text value => (Decimal.parseInt64 (Text.trim value)).toOption
  | _ => none

/-- Numbers, and texts that read as one once blanks are cut off. -/
def asFloat? : Value → Option Binary64
  | .integer value => some (Binary64.ofInt value.toInt)
  | .float value => some value
  | .text value => Binary64.parse? (Text.trim value)
  | _ => none

def asMap? : Value → Option (Dict Value)
  | .map entries => some entries
  | _ => none

def asList? : Value → Option (List Value)
  | .list items => some items
  | _ => none

def isNull : Value → Bool
  | .null => true
  | _ => false

/-- Null and blank texts count as missing. -/
def isMissing : Value → Bool
  | .null => true
  | .text value => Text.isAllBlank value
  | _ => false

mutual

/-- Equality with numbers compared as numbers, so that NaN differs from itself. -/
def equals : Value → Value → Bool
  | .null, .null => true
  | .bool left, .bool right => left == right
  | .integer left, .integer right => left == right
  | .float left, .float right => left.numericallyEquals right
  | .text left, .text right => left == right
  | .list left, .list right => equalItems left right
  | .map left, .map right => equalEntries left right
  | _, _ => false

def equalItems : List Value → List Value → Bool
  | [], [] => true
  | left :: lefts, right :: rights => equals left right && equalItems lefts rights
  | _, _ => false

def equalEntries : List (String × Value) → List (String × Value) → Bool
  | [], [] => true
  | (leftName, left) :: lefts, (rightName, right) :: rights =>
      leftName == rightName && equals left right && equalEntries lefts rights
  | _, _ => false

end

/-- The narrowest scalar that a cell denotes: an integer, a finite number written with a point or an
exponent, a boolean, or else the cell itself. -/
def infer (cell : String) : Value :=
  let trimmed := Text.trim cell
  if trimmed.isEmpty then .text cell
  else
    match Decimal.parseInt64 trimmed with
    | .ok value => .integer value
    | .error _ =>
        let looksFractional := trimmed.toList.any fun c => c == '.' || c == 'e' || c == 'E'
        let float? :=
          if looksFractional then (Binary64.parse? trimmed).filter Binary64.isFinite else none
        match float? with
        | some value => .float value
        | none =>
            if trimmed ∈ ["true", "TRUE", "True"] then .bool true
            else if trimmed ∈ ["false", "FALSE", "False"] then .bool false
            else .text cell

end Value

end RdfPipeline
