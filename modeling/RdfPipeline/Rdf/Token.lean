import RdfPipeline.Rdf.LanguageTag

/-!
# Tokens of Turtle and N-Triples

The words that both formats are made of. Reading a token leaves the rest of the text; a text that
starts with no token is refused.
-/

set_option autoImplicit false

namespace RdfPipeline.Rdf

inductive Token where
  /-- An IRI reference between angle brackets, escapes resolved. -/
  | reference (text : String)
  /-- A name with a namespace label. -/
  | qualified (label localPart : String)
  | blankLabel (label : String)
  | string (text : String)
  /-- A word after `@`. -/
  | language (tag : String)
  | integer (lexical : String)
  | decimal (lexical : String)
  | double (lexical : String)
  | word (text : String)
  | mark (c : Char)
  /-- The mark between a literal and its datatype. -/
  | carets
  | lineEnd
  deriving DecidableEq, Repr

namespace Token

/-! ## Characters of names -/

def isNameStart (c : Char) : Bool :=
  let code := c.toNat
  Reference.isAsciiLetter c || (0xC0 ≤ code && code ≤ 0xD6) || (0xD8 ≤ code && code ≤ 0xF6) ||
    (0xF8 ≤ code && code ≤ 0x2FF) || (0x370 ≤ code && code ≤ 0x37D) ||
    (0x37F ≤ code && code ≤ 0x1FFF) || (0x200C ≤ code && code ≤ 0x200D) ||
    (0x2070 ≤ code && code ≤ 0x218F) || (0x2C00 ≤ code && code ≤ 0x2FEF) ||
    (0x3001 ≤ code && code ≤ 0xD7FF) || (0xF900 ≤ code && code ≤ 0xFDCF) ||
    (0xFDF0 ≤ code && code ≤ 0xFFFD) || (0x10000 ≤ code && code ≤ 0xEFFFF)

def isNameStartOrUnderscore (c : Char) : Bool :=
  isNameStart c || c == '_'

def isNameChar (c : Char) : Bool :=
  let code := c.toNat
  isNameStartOrUnderscore c || c == '-' || Text.isDigit c || code == 0xB7 ||
    (0x300 ≤ code && code ≤ 0x36F) || (0x203F ≤ code && code ≤ 0x2040)

/-- The longest run of characters that a namespace label or a word may have after its first. -/
def spanName (chars : List Char) : List Char × List Char :=
  let admits := fun c => isNameChar c || c == '.'
  (chars.takeWhile admits, chars.dropWhile admits)

/-- Gives back the dots at the end of a run of characters. -/
def returnDots (run rest : List Char) : List Char × List Char :=
  let kept := (run.reverse.dropWhile (· == '.')).reverse
  (kept, List.replicate (run.length - kept.length) '.' ++ rest)

/-! ## Escapes -/

/-- The character of an escape by its code, after the letter that sets the length of the code. A plus
sign may stand before the digits and counts as one of them. -/
def codeEscape? (code : List Char) : Option Char :=
  let digits := if code.head? = some '+' then code.tail else code
  if digits.all Text.isHexDigit then Text.charOfCode? (Text.hexValue digits) else none

/-- Reads an escape after its backslash; `named` allows the short ones. -/
def readEscape? (named : Bool) : List Char → Option (Char × List Char)
  | 'u' :: a :: b :: c :: d :: rest => (codeEscape? [a, b, c, d]).map (·, rest)
  | 'U' :: a :: b :: c :: d :: e :: f :: g :: h :: rest =>
      (codeEscape? [a, b, c, d, e, f, g, h]).map (·, rest)
  | c :: rest =>
      if named then
        match c with
        | 't' => some ('\t', rest)
        | 'b' => some ('\x08', rest)
        | 'n' => some ('\n', rest)
        | 'r' => some ('\r', rest)
        | 'f' => some ('\x0c', rest)
        | '"' => some ('"', rest)
        | '\'' => some ('\'', rest)
        | '\\' => some ('\\', rest)
        | _ => none
      else none
  | [] => none

/-! ## Single tokens -/

/-- The rest of an IRI reference, up to the closing bracket; each call takes at least one of `fuel`
characters. -/
def readReference? : Nat → List Char → Option (List Char × List Char)
  | 0, _ => none
  | _ + 1, [] => none
  | _ + 1, '>' :: rest => some ([], rest)
  | fuel + 1, '\\' :: rest => do
      let (c, rest) ← readEscape? false rest
      let (text, rest) ← readReference? fuel rest
      some (c :: text, rest)
  | fuel + 1, c :: rest => do
      let (text, rest) ← readReference? fuel rest
      some (c :: text, rest)

/-- The rest of a text in single quote marks, which stays on one line. -/
def readShortString? (quote : Char) : Nat → List Char → Option (List Char × List Char)
  | 0, _ => none
  | _ + 1, [] => none
  | fuel + 1, c :: rest =>
      if c = quote then some ([], rest)
      else if c = '\n' ∨ c = '\r' then none
      else if c = '\\' then do
        let (c, rest) ← readEscape? true rest
        let (text, rest) ← readShortString? quote fuel rest
        some (c :: text, rest)
      else do
        let (text, rest) ← readShortString? quote fuel rest
        some (c :: text, rest)

/-- The rest of a text in tripled quote marks. -/
def readLongString? (quote : Char) : Nat → List Char → Option (List Char × List Char)
  | 0, _ => none
  | _ + 1, [] => none
  | fuel + 1, c :: rest =>
      if c = quote ∧ rest.take 2 = [quote, quote] then some ([], rest.drop 2)
      else if c = '\\' then do
        let (c, rest) ← readEscape? true rest
        let (text, rest) ← readLongString? quote fuel rest
        some (c :: text, rest)
      else do
        let (text, rest) ← readLongString? quote fuel rest
        some (c :: text, rest)

/-- A text after its first quote mark; tripled marks only where `long` allows them. -/
def readString? (long : Bool) (quote : Char) (rest : List Char) : Option (Token × List Char) := do
  let (text, rest) ←
    if long ∧ rest.take 2 = [quote, quote] then
      readLongString? quote (rest.length + 1) (rest.drop 2)
    else readShortString? quote (rest.length + 1) rest
  some (.string (String.ofList text), rest)

/-- The characters of a label, with single dots between them. -/
def spanLabel : List Char → List Char × List Char
  | [] => ([], [])
  | c :: rest =>
      if isNameChar c || (c == '.' && (rest.head?.map isNameChar).getD false) then
        let (more, after) := spanLabel rest
        (c :: more, after)
      else ([], c :: rest)

/-- A label after the underscore and colon. What ends it has to be in the text: a label, with or
without a dot behind it, is refused at the end of the text. -/
def readBlankLabel? (chars : List Char) : Option (Token × List Char) :=
  match chars with
  | first :: _ =>
      if isNameStartOrUnderscore first || Text.isDigit first then
        let (label, rest) := spanLabel chars
        if rest = [] ∨ rest = ['.'] then none
        else some (.blankLabel (String.ofList label), rest)
      else none
  | [] => none

/-- The runs of letters at the front, divided by single hyphens. -/
def spanLetters : List Char → List Char × List Char
  | [] => ([], [])
  | c :: rest =>
      if Reference.isAsciiLetter c ||
          (c == '-' && (rest.head?.map Reference.isAsciiLetter).getD false) then
        let (more, after) := spanLetters rest
        (c :: more, after)
      else ([], c :: rest)

/-- A word after `@`, which has to be a well-formed language tag. Only letters belong to it: a hyphen
before a digit starts a number. -/
def readLanguage? (chars : List Char) : Option (Token × List Char) :=
  match chars with
  | first :: _ =>
      if Reference.isAsciiLetter first then
        let (letters, rest) := spanLetters chars
        let tag := String.ofList letters
        if LanguageTag.isWellFormed tag then some (.language tag, rest) else none
      else none
  | [] => none

/-! ## Numbers -/

/-- How the text goes on after the digits of a number. -/
inductive Exponent where
  | absent
  | present (text rest : List Char)
  /-- A letter without digits. -/
  | broken

def readExponent : List Char → Exponent
  | [] => .absent
  | letter :: rest =>
      if letter = 'e' ∨ letter = 'E' then
        let (sign, rest) :=
          match rest with
          | '+' :: after => (['+'], after)
          | '-' :: after => (['-'], after)
          | other => ([], other)
        let digits := rest.takeWhile Text.isDigit
        if digits = [] then .broken
        else .present (letter :: sign ++ digits) (rest.dropWhile Text.isDigit)
      else .absent

/-- A number with an optional sign. A point belongs to it if a digit or an exponent follows. What ends
the number has to be in the text, and where a point was read, what follows the point. -/
def readNumber? (sign : List Char) (chars : List Char) : Option (Token × List Char) :=
  let whole := chars.takeWhile Text.isDigit
  let (point, fraction, rest) :=
    match chars.dropWhile Text.isDigit with
    | '.' :: after => (['.'], after.takeWhile Text.isDigit, after.dropWhile Text.isDigit)
    | other => ([], [], other)
  match readExponent rest with
  | .broken => none
  | .present exponent rest =>
      if rest = [] ∨ (whole = [] ∧ fraction = []) then none
      else some (.double (String.ofList (sign ++ whole ++ point ++ fraction ++ exponent)), rest)
  | .absent =>
      if rest = [] ∨ (whole = [] ∧ fraction = []) then none
      else if fraction = [] then some (.integer (String.ofList (sign ++ whole)), point ++ rest)
      else some (.decimal (String.ofList (sign ++ whole ++ point ++ fraction)), rest)

/-! ## Names -/

/-- Characters that a backslash makes part of a local name. -/
def isEscapable (c : Char) : Bool :=
  "_~.-!$&'()*+,;=/?#@%".toList.contains c

/-- The characters of a local name, each with a flag that tells a bare dot. -/
def spanLocal : Nat → Bool → List Char → Option (List (Char × Bool) × List Char)
  | 0, _, chars => some ([], chars)
  | fuel + 1, first, chars =>
      match chars with
      | '%' :: a :: b :: rest =>
          if Text.isHexDigit a && Text.isHexDigit b then do
            let (more, rest) ← spanLocal fuel false rest
            some (('%', false) :: (a, false) :: (b, false) :: more, rest)
          else none
      | '%' :: _ => none
      | '\\' :: c :: rest =>
          if isEscapable c then do
            let (more, rest) ← spanLocal fuel false rest
            some ((c, false) :: more, rest)
          else none
      | '\\' :: [] => none
      | c :: rest =>
          let admitted :=
            if first then isNameStartOrUnderscore c || c == ':' || Text.isDigit c
            else isNameChar c || c == ':' || c == '.'
          if admitted then do
            let (more, rest) ← spanLocal fuel false rest
            some ((c, c == '.') :: more, rest)
          else some ([], c :: rest)
      | [] => some ([], [])

/-- A local name; bare dots at its end are given back. -/
def readLocal? (chars : List Char) : Option (List Char × List Char) := do
  let (run, rest) ← spanLocal (chars.length + 1) true chars
  let kept := (run.reverse.dropWhile (·.2)).reverse
  some (kept.map (·.1), List.replicate (run.length - kept.length) '.' ++ rest)

/-- A word, or a qualified name if a colon follows. A word leaves dots at its end to what follows; a
namespace label may not end in a dot. -/
def readName? (chars : List Char) : Option (Token × List Char) :=
  let (run, rest) :=
    match chars with
    | first :: _ => if isNameStart first then spanName chars else ([], chars)
    | [] => ([], [])
  match rest with
  | ':' :: after =>
      if run.getLast? = some '.' then none
      else do
        let (localPart, rest) ← readLocal? after
        some (.qualified (String.ofList run) (String.ofList localPart), rest)
  | rest =>
      if run = [] then none
      else
        let (kept, rest) := returnDots run rest
        some (.word (String.ofList kept), rest)

/-! ## Token streams -/

/-- Drops a comment up to the end of its line. -/
def skipComment (chars : List Char) : List Char :=
  chars.dropWhile fun c => c != '\n' && c != '\r'

/-- Reads the token at the front of a text that starts with no blank. -/
def readTurtle? : List Char → Option (Token × List Char)
  | [] => none
  | '<' :: rest => do
      let (text, rest) ← readReference? (rest.length + 1) rest
      some (.reference (String.ofList text), rest)
  | '_' :: ':' :: rest => readBlankLabel? rest
  | '"' :: rest => readString? true '"' rest
  | '\'' :: rest => readString? true '\'' rest
  | '@' :: rest => readLanguage? rest
  | '^' :: '^' :: rest => some (.carets, rest)
  | '+' :: rest => readNumber? ['+'] rest
  | '-' :: rest => readNumber? ['-'] rest
  | c :: rest =>
      if Text.isDigit c || (c == '.' && (rest.head?.map Text.isDigit).getD false) then
        readNumber? [] (c :: rest)
      else if ".;,[]()".toList.contains c then some (.mark c, rest)
      else readName? (c :: rest)

def turtleTokens? : Nat → List Char → Option (List Token)
  | 0, _ => none
  | _ + 1, [] => some []
  | fuel + 1, '#' :: rest => turtleTokens? fuel (skipComment rest)
  | fuel + 1, c :: rest =>
      if c = ' ' ∨ c = '\t' ∨ c = '\n' ∨ c = '\r' then turtleTokens? fuel rest
      else do
        let (token, rest) ← readTurtle? (c :: rest)
        let tokens ← turtleTokens? fuel rest
        some (token :: tokens)

/-- Reads the token at the front of an N-Triples text that starts with no blank. -/
def readNTriples? : List Char → Option (Token × List Char)
  | [] => none
  | '<' :: rest => do
      let (text, rest) ← readReference? (rest.length + 1) rest
      some (.reference (String.ofList text), rest)
  | '_' :: ':' :: rest => readBlankLabel? rest
  | '"' :: rest => readString? false '"' rest
  | '@' :: rest => readLanguage? rest
  | '^' :: '^' :: rest => some (.carets, rest)
  | '.' :: rest => some (.mark '.', rest)
  | '\n' :: rest => some (.lineEnd, rest)
  | '\r' :: rest => some (.lineEnd, rest)
  | _ => none

def nTriplesTokens? : Nat → List Char → Option (List Token)
  | 0, _ => none
  | _ + 1, [] => some []
  | fuel + 1, '#' :: rest => nTriplesTokens? fuel (skipComment rest)
  | fuel + 1, c :: rest =>
      if c = ' ' ∨ c = '\t' then nTriplesTokens? fuel rest
      else do
        let (token, rest) ← readNTriples? (c :: rest)
        let tokens ← nTriplesTokens? fuel rest
        some (token :: tokens)

end Token

end RdfPipeline.Rdf
