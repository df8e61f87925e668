import RdfPipeline.Text.Ascii

/-!
# Integers written in decimal

Reading signed 64-bit integers and 64-bit counts. A text is read from left to right, and the
first character that spoils it decides the cause.
-/

set_option autoImplicit false

namespace RdfPipeline.Decimal

/-- Why a text is not an integer of the wanted range. -/
inductive IntegerError where
  | empty
  | invalidDigit
  | tooLarge
  | tooSmall
  deriving DecidableEq, Repr

def IntegerError.message : IntegerError → String
  | .empty => "cannot parse integer from empty string"
  | .invalidDigit => "invalid digit found in string"
  | .tooLarge => "number too large to fit in target type"
  | .tooSmall => "number too small to fit in target type"

/-- Reads digits onto `value`, failing with `overflow` as soon as `limit` is exceeded. -/
def readDigits (limit : Nat) (overflow : IntegerError) :
    Nat → List Char → Except IntegerError Nat
  | value, [] => .ok value
  | value, c :: rest =>
      match Text.digitValue? c with
      | none => .error .invalidDigit
      | some digit =>
          if 10 * value + digit ≤ limit then readDigits limit overflow (10 * value + digit) rest
          else .error overflow

/-- Reads an optional sign and then digits up to the end. -/
def readSigned (largest smallest : Nat) : List Char → Except IntegerError Int
  | [] => .error .empty
  | ['+'] => .error .invalidDigit
  | ['-'] => .error .invalidDigit
  | '+' :: digits => (readDigits largest .tooLarge 0 digits).map Int.ofNat
  | '-' :: digits => (readDigits smallest .tooSmall 0 digits).map fun value => -(value : Int)
  | digits => (readDigits largest .tooLarge 0 digits).map Int.ofNat

/-- The integer as a signed 64-bit word, when it is one. -/
def int64? (value : Int) : Option Int64 :=
  if h : Int64.minValue.toInt ≤ value ∧ value ≤ Int64.maxValue.toInt then
    some (Int64.ofIntLE value h.1 h.2)
  else
    none

/-- A signed 64-bit integer, with no blanks around it. -/
def parseInt64 (text : String) : Except IntegerError Int64 := do
  let value ← readSigned (Nat.pow 2 63 - 1) (Nat.pow 2 63) text.toList
  match int64? value with
  | some word => pure word
  | none => throw .tooLarge

/-- A 64-bit count: digits after an optional `+`. -/
def parseCount (text : String) : Except IntegerError Nat :=
  match text.toList with
  | [] => .error .empty
  | ['+'] => .error .invalidDigit
  | '+' :: digits => readDigits (Nat.pow 2 64 - 1) .tooLarge 0 digits
  | digits => readDigits (Nat.pow 2 64 - 1) .tooLarge 0 digits

end RdfPipeline.Decimal
