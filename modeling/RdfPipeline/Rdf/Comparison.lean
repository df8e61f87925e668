import RdfPipeline.Decimal.Reading
import RdfPipeline.Rdf.Term
import RdfPipeline.Text.Blank

/-!
# Lexical forms and the order of literals

The lexical forms of the numeric datatypes and of booleans, and the partial order of literals:
numbers by value, other literals of one datatype by their lexical forms.
-/

set_option autoImplicit false

namespace RdfPipeline.Rdf

def integerTypes : List Iri :=
  ["integer", "int", "long", "short", "byte", "nonNegativeInteger", "nonPositiveInteger",
    "positiveInteger", "negativeInteger", "unsignedLong", "unsignedInt", "unsignedShort",
    "unsignedByte"].map xsd

def isIntegerType (datatype : Iri) : Bool :=
  integerTypes.contains datatype

def isFloatType (datatype : Iri) : Bool :=
  datatype == xsd "double" || datatype == xsd "float"

def isNumericType (datatype : Iri) : Bool :=
  isIntegerType datatype || datatype == xsd "decimal" || isFloatType datatype

/-! ## Lexical forms -/

def dropSign : List Char → List Char
  | '+' :: rest => rest
  | '-' :: rest => rest
  | rest => rest

/-- Digits after an optional sign. -/
def isIntegerForm (chars : List Char) : Bool :=
  let digits := dropSign chars
  digits != [] && digits.all Text.isDigit

/-- Cuts off digits with an optional point, at least one digit among them. -/
def splitDecimal? (chars : List Char) : Option (List Char) :=
  let whole := chars.takeWhile Text.isDigit
  match chars.dropWhile Text.isDigit with
  | '.' :: after =>
      if whole = [] ∧ after.takeWhile Text.isDigit = [] then none
      else some (after.dropWhile Text.isDigit)
  | rest => if whole = [] then none else some rest

def isDecimalForm (chars : List Char) : Bool :=
  splitDecimal? (dropSign chars) == some []

/-- A decimal with an optional exponent, or one of the names of the special values. -/
def isDoubleForm (chars : List Char) : Bool :=
  chars == "NaN".toList || dropSign chars == "INF".toList ||
    match splitDecimal? (dropSign chars) with
    | some [] => true
    | some (mark :: rest) => (mark == 'e' || mark == 'E') && isIntegerForm rest
    | none => false

/-- Whether a literal has a lexical form of its datatype; unknown datatypes accept every form. -/
def Literal.isWellFormed (literal : Literal) : Bool :=
  let form := literal.lexical.toList
  if isIntegerType literal.datatype then isIntegerForm form
  else if literal.datatype = xsd "decimal" then isDecimalForm form
  else if isFloatType literal.datatype then isDoubleForm form
  else if literal.datatype = xsd "boolean" then
    ["true", "false", "1", "0"].contains literal.lexical
  else true

/-! ## Order -/

/-- The number that a lexical form denotes, blanks around it ignored. -/
def readNumber? (lexical : String) : Option Binary64 :=
  let trimmed := Text.trim lexical
  if trimmed = "INF" ∨ trimmed = "+INF" then some (.infinite false)
  else if trimmed = "-INF" then some (.infinite true)
  else Binary64.parse? trimmed

/-- Numeric literals compare as numbers, other literals of one datatype by their lexical forms.
Texts with a language are not ordered. -/
def Literal.compare? (left right : Literal) : Option Ordering :=
  if isNumericType left.datatype && isNumericType right.datatype then do
    let x ← readNumber? left.lexical
    let y ← readNumber? right.lexical
    x.compare? y
  else if left.datatype = right.datatype ∧ left.datatype ≠ rdf "langString" then
    some (compare left.lexical right.lexical)
  else none

/-- Only literals are ordered. -/
def Term.compare? : Term → Term → Option Ordering
  | .literal left, .literal right => left.compare? right
  | _, _ => none

end RdfPipeline.Rdf
