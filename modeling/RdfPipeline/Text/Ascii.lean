/-!
# ASCII letters and digits

Case folding that touches ASCII letters only, and the values of digits.
-/

set_option autoImplicit false

namespace RdfPipeline.Text

/-- Lower case for the ASCII letters; every other character stays. -/
def lowerAscii (text : String) : String :=
  String.ofList (text.toList.map Char.toLower)

/-- The same text up to the case of ASCII letters. -/
def equalsIgnoringAsciiCase (left right : String) : Bool :=
  lowerAscii left == lowerAscii right

def digitValue? (c : Char) : Option Nat :=
  if '0' ≤ c ∧ c ≤ '9' then some (c.toNat - '0'.toNat) else none

/-- The value of an ASCII hexadecimal digit of either case. -/
def hexDigitValue? (c : Char) : Option Nat :=
  if '0' ≤ c ∧ c ≤ '9' then some (c.toNat - '0'.toNat)
  else if 'a' ≤ c ∧ c ≤ 'f' then some (c.toNat - 'a'.toNat + 10)
  else if 'A' ≤ c ∧ c ≤ 'F' then some (c.toNat - 'A'.toNat + 10)
  else none

def isDigit (c : Char) : Bool :=
  (digitValue? c).isSome

def isHexDigit (c : Char) : Bool :=
  (hexDigitValue? c).isSome

/-- The digit for a value below sixteen, in upper case. -/
def upperHexDigit (value : Nat) : Char :=
  if value < 10 then Char.ofNat ('0'.toNat + value) else Char.ofNat ('A'.toNat + (value - 10))

/-- Hexadecimal digits of `value`, padded with zeros to at least `width` places. -/
def upperHex (width value : Nat) : List Char :=
  let digits := (Nat.toDigits 16 value).map Char.toUpper
  List.replicate (width - digits.length) '0' ++ digits

/-- The number that decimal digits denote; characters that are no digits count as zero. -/
def decimalValue (digits : List Char) : Nat :=
  digits.foldl (fun value c => 10 * value + (digitValue? c).getD 0) 0

/-- The number that hexadecimal digits denote; characters that are no digits count as zero. -/
def hexValue (digits : List Char) : Nat :=
  digits.foldl (fun value c => 16 * value + (hexDigitValue? c).getD 0) 0

/-- The character of a code point, unless it is out of range or a surrogate. -/
def charOfCode? (code : Nat) : Option Char :=
  if code.isValidChar then some (Char.ofNat code) else none

end RdfPipeline.Text
