/-!
# Binary floating point of 64 bits

The numbers of the IEEE 754 `binary64` format with one NaN, and the operations on them, each an
exact computation on natural numbers followed by one rounding to nearest with ties to even.
-/

set_option autoImplicit false

namespace RdfPipeline

/-- How many fractions there are for each exponent. -/
abbrev Binary64.fractions : Nat := Nat.pow 2 52

/-- A sign with an exponent field and a fraction field, or one of the special values. -/
inductive Binary64 where
  | nan
  | infinite (negative : Bool)
  | finite (negative : Bool) (exponent : Fin 2047) (fraction : Fin Binary64.fractions)
  deriving DecidableEq, Repr

namespace Binary64

/-- `numerator / denominator` rounded to the nearest integer, a half to the even neighbour. -/
def divideHalfEven (numerator denominator : Nat) : Nat :=
  let quotient := numerator / denominator
  let remainder := numerator % denominator
  if 2 * remainder < denominator then quotient
  else if denominator < 2 * remainder then quotient + 1
  else quotient + quotient % 2

def zero (negative : Bool) : Binary64 :=
  .finite negative 0 0

/-- The number of magnitude rank `rank`, counting up from zero; a rank past the largest finite
magnitude is infinite. -/
def ofRank (negative : Bool) (rank : Nat) : Binary64 :=
  if h : rank / fractions < 2047 then
    .finite negative ⟨rank / fractions, h⟩ ⟨rank % fractions, Nat.mod_lt _ (by decide)⟩
  else
    .infinite negative

/-- How many finite magnitudes lie below the one with these fields. -/
def rank (exponent : Fin 2047) (fraction : Fin fractions) : Nat :=
  exponent.val * fractions + fraction.val

/-- The integer that the fields scale. -/
def significand (exponent : Fin 2047) (fraction : Fin fractions) : Nat :=
  if exponent.val = 0 then fraction.val else fractions + fraction.val

/-- The power of two that scales the significand is `scale - 1074`. -/
def scale (exponent : Fin 2047) : Nat :=
  exponent.val - 1

def ratio (exponent : Fin 2047) (fraction : Fin fractions) : Nat × Nat :=
  if 1074 ≤ scale exponent then
    (significand exponent fraction * Nat.pow 2 (scale exponent - 1074), 1)
  else
    (significand exponent fraction, Nat.pow 2 (1074 - scale exponent))

/-- Largest power of two, as an integer exponent, that is at most `numerator / denominator`. -/
def floorLog2 (numerator denominator : Nat) : Int :=
  let guess : Int := (numerator.log2 : Int) - (denominator.log2 : Int)
  let fits :=
    if 0 ≤ guess then denominator * Nat.pow 2 guess.toNat ≤ numerator
    else denominator ≤ numerator * Nat.pow 2 (-guess).toNat
  if fits then guess else guess - 1

/-- The nearest number to `numerator / denominator`; an overflowing magnitude becomes infinite and
a zero denominator counts as zero. -/
def ofRatio (negative : Bool) (numerator denominator : Nat) : Binary64 :=
  if numerator = 0 ∨ denominator = 0 then zero negative
  else
    let power := max (floorLog2 numerator denominator - 52) (-1074)
    let rounded :=
      if 0 ≤ power then divideHalfEven numerator (denominator * Nat.pow 2 power.toNat)
      else divideHalfEven (numerator * Nat.pow 2 (-power).toNat) denominator
    ofRank negative ((power + 1074).toNat * fractions + rounded)

/-- The nearest number to an integer. -/
def ofInt (value : Int) : Binary64 :=
  ofRatio (value < 0) value.natAbs 1

/-- The nearest number to `digits * 10 ^ exponent`. Magnitudes far outside the range are decided by
their number of digits alone. -/
def ofDecimal (negative : Bool) (digits : Nat) (exponent : Int) : Binary64 :=
  let places : Int := (Nat.toDigits 10 digits).length + exponent
  if digits = 0 then zero negative
  else if 400 < places then .infinite negative
  else if places < -400 then zero negative
  else if 0 ≤ exponent then ofRatio negative (digits * Nat.pow 10 exponent.toNat) 1
  else ofRatio negative digits (Nat.pow 10 (-exponent).toNat)

def isFinite : Binary64 → Bool
  | .finite .. => true
  | _ => false

def isNaN : Binary64 → Bool
  | .nan => true
  | _ => false

def isInfinite : Binary64 → Bool
  | .infinite _ => true
  | _ => false

def isZero : Binary64 → Bool
  | .finite _ exponent fraction => exponent.val == 0 && fraction.val == 0
  | _ => false

def negate : Binary64 → Binary64
  | .nan => .nan
  | .infinite negative => .infinite !negative
  | .finite negative exponent fraction => .finite (!negative) exponent fraction

/-- The product with a positive finite factor given as a ratio of integers, rounded once. -/
def scaleBy (x : Binary64) (numerator denominator : Nat) : Binary64 :=
  match x with
  | .finite negative exponent fraction =>
      let (top, bottom) := ratio exponent fraction
      ofRatio negative (top * numerator) (bottom * denominator)
  | special => special

/-- Position on the number line counted in magnitude ranks; both zeros have position zero. -/
def position? : Binary64 → Option Int
  | .nan => none
  | .infinite negative =>
      let magnitude : Int := ((2047 * fractions : Nat) : Int)
      some (if negative then -magnitude else magnitude)
  | .finite negative exponent fraction =>
      let magnitude : Int := rank exponent fraction
      some (if negative then -magnitude else magnitude)

/-- The order of two numbers, undefined when one of them is NaN. -/
def compare? (x y : Binary64) : Option Ordering :=
  match position? x, position? y with
  | some left, some right => some (compare left right)
  | _, _ => none

/-- Numeric equality: the zeros are equal, and NaN equals nothing. -/
def numericallyEquals (x y : Binary64) : Bool :=
  compare? x y == some .eq

/-- The integer denoted by a finite number without fractional part. -/
def toInt? : Binary64 → Option Int
  | .finite negative exponent fraction =>
      let (top, bottom) := ratio exponent fraction
      if top % bottom = 0 then
        let magnitude : Int := (top / bottom : Nat)
        some (if negative then -magnitude else magnitude)
      else none
  | _ => none

end Binary64

end RdfPipeline
