import RdfPipeline.Decimal.Binary64
import RdfPipeline.Text.Ascii

/-!
# Binary numbers read from decimal text

Reads digits with an optional point and exponent, and the names of the special values, as the
nearest number.
-/

set_option autoImplicit false

namespace RdfPipeline.Decimal

/-- Cuts off an optional sign; `true` stands for a minus. -/
def splitSign : List Char → Bool × List Char
  | '-' :: rest => (true, rest)
  | '+' :: rest => (false, rest)
  | rest => (false, rest)

def spanDigits (chars : List Char) : List Char × List Char :=
  (chars.takeWhile Text.isDigit, chars.dropWhile Text.isDigit)

/-- Reads an exponent part up to the end; the empty text is exponent zero. -/
def readExponent? : List Char → Option Int
  | [] => some 0
  | mark :: rest =>
      if mark = 'e' ∨ mark = 'E' then
        let (negative, digits) := splitSign rest
        if digits ≠ [] ∧ digits.all Text.isDigit then
          let value : Int := Text.decimalValue digits
          some (if negative then -value else value)
        else none
      else none

/-- Reads unsigned digits with an optional point and exponent. -/
def readMagnitude? (negative : Bool) (chars : List Char) : Option Binary64 :=
  let (whole, rest) := spanDigits chars
  let (fraction, rest) :=
    match rest with
    | '.' :: after => spanDigits after
    | other => ([], other)
  if whole = [] ∧ fraction = [] then none
  else do
    let exponent ← readExponent? rest
    some (Binary64.ofDecimal negative (Text.decimalValue (whole ++ fraction))
      (exponent - (fraction.length : Int)))

end RdfPipeline.Decimal

namespace RdfPipeline.Binary64

/-- The nearest number to a decimal text. The special values are named `inf`, `infinity` and `nan` in
any case of letters. -/
def parse? (text : String) : Option Binary64 :=
  let (negative, rest) := Decimal.splitSign text.toList
  let name := (rest.map Char.toLower)
  if name = "inf".toList ∨ name = "infinity".toList then some (.infinite negative)
  else if name = "nan".toList then some .nan
  else Decimal.readMagnitude? negative rest

end RdfPipeline.Binary64
