import RdfPipeline.Decimal.Reading
import RdfPipeline.Json.Basic
import RdfPipeline.Text.Ascii

/-!
# Reading JSON

A reader for JSON texts. Arrays and objects may be nested 127 levels deep. Integers of 64 bits are
exact. Any other number is the first digits that fit 64 bits, multiplied or divided once by a power
of ten, so that long texts are not always read as the nearest number.
-/

set_option autoImplicit false

namespace RdfPipeline.Json

def isSpace (c : Char) : Bool :=
  c == ' ' || c == '\t' || c == '\n' || c == '\r'

def skipSpaces (chars : List Char) : List Char :=
  chars.dropWhile isSpace

/-! ## Numbers -/

/-- Appends digits to `significand` as long as it fits 64 bits; also counts the appended digits. -/
def absorbDigits (significand : Nat) : List Char → Nat × Nat
  | [] => (significand, 0)
  | c :: rest =>
      let next := 10 * significand + (Text.digitValue? c).getD 0
      if next < Nat.pow 2 64 then
        let (result, count) := absorbDigits next rest
        (result, count + 1)
      else (significand, 0)

/-- The power of ten, itself rounded to a binary number, as a ratio. -/
def powerOfTen (exponent : Nat) : Nat × Nat :=
  match Binary64.ofRatio false (Nat.pow 10 exponent) 1 with
  | .finite _ field fraction => Binary64.ratio field fraction
  | _ => (1, 1)

def timesPowerOfTen (x : Binary64) (exponent : Nat) : Binary64 :=
  let (top, bottom) := powerOfTen exponent
  x.scaleBy top bottom

def overPowerOfTen (x : Binary64) (exponent : Nat) : Binary64 :=
  let (top, bottom) := powerOfTen exponent
  x.scaleBy bottom top

/-- Divides in steps of the largest finite power of ten. -/
def shrink (x : Binary64) (exponent : Nat) : Binary64 :=
  if exponent ≤ 308 then overPowerOfTen x exponent
  else if x.isZero then x
  else shrink (overPowerOfTen x 308) (exponent - 308)
termination_by exponent

/-- Multiplies unless the result is out of range. -/
def grow? (x : Binary64) (exponent : Nat) : Option Binary64 :=
  if x.isZero then some x
  else if 308 < exponent then none
  else
    let product := timesPowerOfTen x exponent
    if product.isInfinite then none else some product

/-- `significand * 10 ^ exponent`, with one rounding for the significand and one for the scaling. -/
def scaled? (negative : Bool) (significand : Nat) (exponent : Int) : Option Binary64 := do
  let x := Binary64.ofInt significand
  let magnitude ←
    if 0 ≤ exponent then grow? x exponent.toNat else some (shrink x (-exponent).toNat)
  some (if negative then magnitude.negate else magnitude)

/-- Exponents beyond this are not computed with. -/
def largestExponent : Nat := Nat.pow 2 31 - 1

/-- Reads an exponent part, if there is one, and scales the significand. -/
def readScaled? (negative : Bool) (significand : Nat) (exponent : Int) :
    List Char → Option (Number × List Char)
  | [] => do
      let x ← scaled? negative significand exponent
      some (.float x, [])
  | mark :: rest =>
      if mark = 'e' ∨ mark = 'E' then do
        let (down, rest) := Decimal.splitSign rest
        let (digits, rest) := Decimal.spanDigits rest
        if digits = [] then none
        let value := Text.decimalValue digits
        if largestExponent < value then
          if significand ≠ 0 ∧ down = false then none
          else some (.float (Binary64.zero negative), rest)
        else
          let shift : Int := if down then -(value : Int) else value
          let x ← scaled? negative significand (exponent + shift)
          some (.float x, rest)
      else do
        let x ← scaled? negative significand exponent
        some (.float x, mark :: rest)

def integerNumber (negative : Bool) (magnitude : Nat) : Number :=
  if negative then
    if magnitude = 0 ∨ Nat.pow 2 63 < magnitude then .float (Binary64.ofInt magnitude).negate
    else .ofInt (-(magnitude : Int))
  else .ofInt magnitude

/-- Reads a number after its optional minus. -/
def readNumber? (negative : Bool) (chars : List Char) : Option (Number × List Char) :=
  let (whole, rest) := Decimal.spanDigits chars
  match whole with
  | [] => none
  | '0' :: _ :: _ => none
  | _ =>
      let (significand, kept) := absorbDigits 0 whole
      let dropped := whole.length - kept
      match rest with
      | '.' :: after =>
          let (fraction, after) := Decimal.spanDigits after
          if fraction = [] then none
          else
            let (significand, places) := absorbDigits significand fraction
            readScaled? negative significand ((dropped : Int) - (places : Int)) after
      | other =>
          let hasExponent :=
            match other with
            | mark :: _ => mark == 'e' || mark == 'E'
            | [] => false
          if hasExponent || dropped != 0 then readScaled? negative significand dropped other
          else some (integerNumber negative significand, other)

/-! ## Strings -/

/-- The four hexadecimal digits of an escaped code unit. -/
def codeUnit? (a b c d : Char) : Option Nat :=
  if [a, b, c, d].all Text.isHexDigit then some (Text.hexValue [a, b, c, d]) else none

def simpleEscape? (c : Char) : Option Char :=
  match c with
  | '"' => some '"'
  | '\\' => some '\\'
  | '/' => some '/'
  | 'b' => some '\x08'
  | 'f' => some '\x0c'
  | 'n' => some '\n'
  | 'r' => some '\r'
  | 't' => some '\t'
  | _ => none

/-- The character of a pair of surrogate code units. -/
def pairedChar? (high low : Nat) : Option Char :=
  if 0xD800 ≤ high ∧ high < 0xDC00 ∧ 0xDC00 ≤ low ∧ low < 0xE000 then
    Text.charOfCode? (0x10000 + (high - 0xD800) * 0x400 + (low - 0xDC00))
  else none

/-- Reads the rest of a string up to its closing quote. -/
def readString? : List Char → Option (List Char × List Char)
  | [] => none
  | '"' :: rest => some ([], rest)
  | '\\' :: 'u' :: a :: b :: c :: d :: rest => do
      let unit ← codeUnit? a b c d
      match Text.charOfCode? unit with
      | some char => do
          let (text, rest) ← readString? rest
          some (char :: text, rest)
      | none =>
          match rest with
          | '\\' :: 'u' :: e :: f :: g :: h :: rest => do
              let low ← codeUnit? e f g h
              let char ← pairedChar? unit low
              let (text, rest) ← readString? rest
              some (char :: text, rest)
          | _ => none
  | '\\' :: c :: rest => do
      let char ← simpleEscape? c
      let (text, rest) ← readString? rest
      some (char :: text, rest)
  | c :: rest =>
      if c.toNat < 0x20 ∨ c = '\\' then none
      else do
        let (text, rest) ← readString? rest
        some (c :: text, rest)

/-! ## Values -/

def depthLimit : Nat := 127

def stripWord? : List Char → List Char → Option (List Char)
  | [], chars => some chars
  | _ :: _, [] => none
  | w :: word, c :: chars => if w = c then stripWord? word chars else none

mutual

/-- Reads one value. `fuel` bounds the number of calls and `depth` the levels still allowed. -/
def readValue? : Nat → Nat → List Char → Option (Json × List Char)
  | 0, _, _ => none
  | fuel + 1, depth, chars =>
      match skipSpaces chars with
      | '"' :: rest => do
          let (text, rest) ← readString? rest
          some (.string (String.ofList text), rest)
      | '[' :: rest =>
          match depth with
          | 0 => none
          | depth + 1 =>
              match skipSpaces rest with
              | ']' :: rest => some (.array [], rest)
              | rest => do
                  let (items, rest) ← readItems? fuel depth rest
                  some (.array items, rest)
      | '\x7b' :: rest =>
          match depth with
          | 0 => none
          | depth + 1 =>
              match skipSpaces rest with
              | '\x7d' :: rest => some (.object [], rest)
              | rest => do
                  let (members, rest) ← readMembers? fuel depth rest
                  some (.object members, rest)
      | '-' :: rest => do
          let (value, rest) ← readNumber? true rest
          some (.number value, rest)
      | 't' :: rest => do
          let rest ← stripWord? "rue".toList rest
          some (.bool true, rest)
      | 'f' :: rest => do
          let rest ← stripWord? "alse".toList rest
          some (.bool false, rest)
      | 'n' :: rest => do
          let rest ← stripWord? "ull".toList rest
          some (.null, rest)
      | rest => do
          let (value, rest) ← readNumber? false rest
          some (.number value, rest)

/-- Reads the items of a non-empty array up to its closing bracket. -/
def readItems? : Nat → Nat → List Char → Option (List Json × List Char)
  | 0, _, _ => none
  | fuel + 1, depth, chars => do
      let (item, rest) ← readValue? fuel depth chars
      match skipSpaces rest with
      | ',' :: rest =>
          let (items, rest) ← readItems? fuel depth rest
          some (item :: items, rest)
      | ']' :: rest => some ([item], rest)
      | _ => none

/-- Reads the members of a non-empty object up to its closing brace. -/
def readMembers? : Nat → Nat → List Char → Option (List (String × Json) × List Char)
  | 0, _, _ => none
  | fuel + 1, depth, chars =>
      match skipSpaces chars with
      | '"' :: rest => do
          let (name, rest) ← readString? rest
          match skipSpaces rest with
          | ':' :: rest =>
              let (value, rest) ← readValue? fuel depth rest
              match skipSpaces rest with
              | ',' :: rest =>
                  let (members, rest) ← readMembers? fuel depth rest
                  some ((String.ofList name, value) :: members, rest)
              | '\x7d' :: rest => some ([(String.ofList name, value)], rest)
              | _ => none
          | _ => none
      | _ => none

end

def readDocument? (chars : List Char) : Option Json := do
  let (document, rest) ← readValue? (2 * chars.length + 1) depthLimit chars
  if skipSpaces rest = [] then some document else none

/-- Reads a text as one document, members in written order. -/
def parse? (text : String) : Option Json :=
  readDocument? text.toList

end RdfPipeline.Json
