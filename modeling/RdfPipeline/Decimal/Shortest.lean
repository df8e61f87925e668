import RdfPipeline.Decimal.Binary64

/-!
# Shortest decimal digits of a binary number

The fewest decimal digits that lie closer to a number than to any other, and the texts that are
made from them.
-/

set_option autoImplicit false

namespace RdfPipeline.Decimal

/-- `digits * 10 ^ exponent`. -/
structure Scientific where
  digits : Nat
  exponent : Int
  deriving DecidableEq, Repr

/-- A magnitude with the interval of all magnitudes that round to it, over one denominator. -/
structure RoundingInterval where
  lower : Nat
  value : Nat
  upper : Nat
  denominator : Nat
  includesEnds : Bool

/-- The interval of a finite magnitude. The lower half of it is half as wide where the magnitude is
the least one of its exponent. -/
def RoundingInterval.ofFields (exponent : Fin 2047) (fraction : Fin Binary64.fractions) :
    RoundingInterval :=
  let significand := Binary64.significand exponent fraction
  let below := if fraction.val = 0 ∧ 1 < exponent.val then 1 else 2
  let unit := Nat.pow 2 (Binary64.scale exponent)
  { lower := (4 * significand - below) * unit
    value := 4 * significand * unit
    upper := (4 * significand + 2) * unit
    denominator := 4 * Nat.pow 2 1074
    includesEnds := significand % 2 = 0 }

/-- `candidate * 10 ^ exponent` rounds to the magnitude of the interval. -/
def RoundingInterval.contains (interval : RoundingInterval) (candidate : Scientific) : Bool :=
  let up := Nat.pow 10 candidate.exponent.toNat
  let down := Nat.pow 10 (-candidate.exponent).toNat
  let point := candidate.digits * up * interval.denominator
  if interval.includesEnds then
    interval.lower * down ≤ point && point ≤ interval.upper * down
  else
    interval.lower * down < point && point < interval.upper * down

/-- Exponent of the leading decimal digit of `numerator / denominator`, which is positive. -/
def floorLog10 (numerator denominator : Nat) : Int :=
  if denominator ≤ numerator then
    (Nat.toDigits 10 (numerator / denominator)).length - 1
  else
    -((Nat.toDigits 10 ((denominator - 1) / numerator)).length : Int)

/-- Which of two decimals that are equally close to a number is chosen. -/
inductive Tie where
  | up
  | even
  deriving DecidableEq, Repr

/-- Whether to leave the lower grid point, by what remains above it. -/
def Tie.roundsUp (tie : Tie) (lower remainder denominator : Nat) : Bool :=
  if 2 * remainder = denominator then
    match tie with
    | .up => true
    | .even => lower % 2 == 1
  else denominator < 2 * remainder

/-- The closest point to the value on the grid of step `10 ^ exponent`, of those that round to it. -/
def RoundingInterval.nearestOnGrid? (interval : RoundingInterval) (tie : Tie) (exponent : Int) :
    Option Scientific :=
  let numerator := interval.value * Nat.pow 10 (-exponent).toNat
  let denominator := interval.denominator * Nat.pow 10 exponent.toNat
  let below : Scientific := ⟨numerator / denominator, exponent⟩
  let above : Scientific := ⟨numerator / denominator + 1, exponent⟩
  match interval.contains below, interval.contains above with
  | true, true =>
      some (if tie.roundsUp below.digits (numerator % denominator) denominator then above else below)
  | true, false => some below
  | false, true => some above
  | false, false => none

/-- Moves trailing zeros of the digits into the exponent, at most `fuel` of them. -/
def Scientific.normalize (fuel : Nat) (number : Scientific) : Scientific :=
  match fuel with
  | 0 => number
  | fuel + 1 =>
      if number.digits % 10 = 0 ∧ number.digits ≠ 0 then
        Scientific.normalize fuel ⟨number.digits / 10, number.exponent + 1⟩
      else number

/-- The shortest digits of a positive magnitude: the first grid, from coarse to fine, that has a
point in the rounding interval. Seventeen digits always suffice. -/
def shortest (tie : Tie) (exponent : Fin 2047) (fraction : Fin Binary64.fractions) : Scientific :=
  let interval := RoundingInterval.ofFields exponent fraction
  let leading := floorLog10 interval.value interval.denominator
  let grids := (List.range 18).map fun places : Nat => leading - (places : Int)
  ((grids.findSome? (interval.nearestOnGrid? tie)).getD ⟨0, 0⟩).normalize 20

structure NumberStyle where
  /-- Exponents of the leading digit that are written positionally. -/
  positional : Int → Bool
  /-- Whether a whole number written positionally ends in `.0`. -/
  markWhole : Bool
  tie : Tie

/-- Digits with a point so that the first digit has the given exponent. -/
def positionalText (digits : List Char) (leading : Int) (markWhole : Bool) : List Char :=
  if leading < 0 then
    '0' :: '.' :: List.replicate ((-leading).toNat - 1) '0' ++ digits
  else
    let whole := leading.toNat + 1
    if digits.length ≤ whole then
      digits ++ List.replicate (whole - digits.length) '0' ++
        (if markWhole then ['.', '0'] else [])
    else
      digits.take whole ++ '.' :: digits.drop whole

/-- One digit, the point, the other digits and the exponent with its sign. -/
def exponentText (digits : List Char) (leading : Int) : List Char :=
  let mantissa :=
    match digits with
    | first :: second :: rest => first :: '.' :: second :: rest
    | short => short
  let sign := if leading < 0 then '-' else '+'
  mantissa ++ 'e' :: sign :: Nat.toDigits 10 leading.natAbs

def magnitudeText (style : NumberStyle) (exponent : Fin 2047) (fraction : Fin Binary64.fractions) :
    List Char :=
  if Binary64.significand exponent fraction = 0 then positionalText ['0'] 0 style.markWhole
  else
    let number := shortest style.tie exponent fraction
    let digits := Nat.toDigits 10 number.digits
    let leading : Int := number.exponent + (digits.length : Int) - 1
    if style.positional leading then positionalText digits leading style.markWhole
    else exponentText digits leading

end RdfPipeline.Decimal

namespace RdfPipeline.Binary64

/-- Digits without exponent and without a mark on whole numbers. -/
def plainStyle : Decimal.NumberStyle where
  positional _ := true
  markWhole := false
  tie := .up

/-- The plain text: the shortest digits, never with an exponent. -/
def toText : Binary64 → String
  | .nan => "NaN"
  | .infinite negative => if negative then "-inf" else "inf"
  | .finite negative exponent fraction =>
      let magnitude := Decimal.magnitudeText plainStyle exponent fraction
      String.ofList (if negative then '-' :: magnitude else magnitude)

end RdfPipeline.Binary64
