import RdfPipeline.Rdf.Term
import RdfPipeline.Text.Ascii
import RdfPipeline.Text.Blank

/-!
# Internationalized resource identifiers

The parts of a reference, the characters each part admits, and the resolution of a reference
against a base. `Iri.parse?` accepts exactly the absolute identifiers whose parts are valid.
-/

set_option autoImplicit false

namespace RdfPipeline.Rdf

structure Reference where
  scheme : Option (List Char)
  authority : Option (List Char)
  path : List Char
  query : Option (List Char)
  fragment : Option (List Char)

namespace Reference

/-! ## Characters -/

def isAsciiLetter (c : Char) : Bool :=
  ('a' ≤ c && c ≤ 'z') || ('A' ≤ c && c ≤ 'Z')

/-- Letters outside ASCII that identifiers admit everywhere. -/
def isUniversalChar (c : Char) : Bool :=
  let code := c.toNat
  (0xA0 ≤ code && code ≤ 0xD7FF) || (0xF900 ≤ code && code ≤ 0xFDCF) ||
    (0xFDF0 ≤ code && code ≤ 0xFFEF) ||
    (0x10000 ≤ code && code ≤ 0xEFFFD && code % 0x10000 ≤ 0xFFFD &&
      !(0xE0000 ≤ code && code < 0xE1000))

/-- Characters for private use, which only queries admit. -/
def isPrivateChar (c : Char) : Bool :=
  let code := c.toNat
  (0xE000 ≤ code && code ≤ 0xF8FF) || (0xF0000 ≤ code && code ≤ 0xFFFFD) ||
    (0x100000 ≤ code && code ≤ 0x10FFFD)

/-- Unreserved characters and delimiters within a part. -/
def isNameChar (c : Char) : Bool :=
  isAsciiLetter c || Text.isDigit c || "-._~!$&'()*+,;=".toList.contains c || isUniversalChar c

/-- Every character is admitted or starts a percent sign with two hexadecimal digits. -/
def allAdmitted (admits : Char → Bool) : List Char → Bool
  | [] => true
  | '%' :: a :: b :: rest => Text.isHexDigit a && Text.isHexDigit b && allAdmitted admits rest
  | c :: rest => admits c && c != '%' && allAdmitted admits rest

/-! ## Parts -/

def isSchemeChar (c : Char) : Bool :=
  isAsciiLetter c || Text.isDigit c || c == '+' || c == '-' || c == '.'

def splitScheme (chars : List Char) : Option (List Char) × List Char :=
  match chars with
  | first :: _ =>
      if isAsciiLetter first then
        match chars.dropWhile isSchemeChar with
        | ':' :: rest => (some (chars.takeWhile isSchemeChar), rest)
        | _ => (none, chars)
      else (none, chars)
  | [] => (none, [])

/-- Splits at the first `mark`, which is dropped. -/
def splitAtFirst (mark : Char) (chars : List Char) : List Char × Option (List Char) :=
  match chars.dropWhile (· != mark) with
  | _ :: rest => (chars.takeWhile (· != mark), some rest)
  | [] => (chars, none)

def split (chars : List Char) : Reference :=
  let (scheme, rest) := splitScheme chars
  let (rest, fragment) := splitAtFirst '#' rest
  let (rest, query) := splitAtFirst '?' rest
  match rest with
  | '/' :: '/' :: after =>
      { scheme, authority := some (after.takeWhile (· != '/')), path := after.dropWhile (· != '/'),
        query, fragment }
  | path => { scheme, authority := none, path, query, fragment }

def optionalPart (mark : List Char) : Option (List Char) → List Char
  | some part => mark ++ part
  | none => []

def toChars (reference : Reference) : List Char :=
  (match reference.scheme with
    | some scheme => scheme ++ [':']
    | none => []) ++
    optionalPart ['/', '/'] reference.authority ++ reference.path ++
    optionalPart ['?'] reference.query ++ optionalPart ['#'] reference.fragment

/-! ## Hosts -/

/-- Splits a text at every `mark`. -/
def splitOnChar (mark : Char) : List Char → List (List Char)
  | [] => [[]]
  | c :: rest =>
      if c = mark then [] :: splitOnChar mark rest
      else
        match splitOnChar mark rest with
        | part :: parts => (c :: part) :: parts
        | [] => [[c]]

/-- Four decimal bytes without superfluous zeros, divided by dots. -/
def isIpv4 (chars : List Char) : Bool :=
  let parts := splitOnChar '.' chars
  parts.length == 4 && parts.all fun part =>
    part != [] && part.length ≤ 3 && part.all Text.isDigit && Text.decimalValue part < 256 &&
      (part.length == 1 || part.head? != some '0')

/-- The number of 16-bit groups that parts divided by colons stand for. -/
def ipv6Groups? : List (List Char) → Option Nat
  | [] => some 0
  | [last] =>
      if last.contains '.' then if isIpv4 last then some 2 else none
      else if last != [] && last.length ≤ 4 && last.all Text.isHexDigit then some 1 else none
  | part :: rest =>
      if part != [] && part.length ≤ 4 && part.all Text.isHexDigit then
        (ipv6Groups? rest).map (· + 1)
      else none

/-- The first place where two colons stand side by side. -/
def splitDoubleColon? : List Char → Option (List Char × List Char)
  | ':' :: ':' :: rest => some ([], rest)
  | c :: rest => (splitDoubleColon? rest).map fun (before, after) => (c :: before, after)
  | [] => none

def ipv6Count? (chars : List Char) : Option Nat :=
  if chars = [] then some 0 else ipv6Groups? (splitOnChar ':' chars)

/-- Eight groups, or fewer with one double colon for the missing ones. -/
def isIpv6 (chars : List Char) : Bool :=
  match splitDoubleColon? chars with
  | none => ipv6Count? chars == some 8
  | some (before, after) =>
      match ipv6Count? before, ipv6Count? after with
      | some left, some right => left + right ≤ 7 && !before.contains '.'
      | _, _ => false

/-- An address of a later version: `v`, a hexadecimal version, a dot and the address. -/
def isFutureAddress : List Char → Bool
  | v :: rest =>
      (v == 'v' || v == 'V') &&
        match splitAtFirst '.' rest with
        | (version, some address) =>
            version != [] && version.all Text.isHexDigit && address != [] &&
              address.all fun c => (isNameChar c && c.toNat < 0x80) || c == ':'
        | _ => false
  | [] => false

def isPort : Option (List Char) → Bool
  | none => true
  | some digits => digits.all Text.isDigit

def isHostAndPort : List Char → Bool
  | '[' :: rest =>
      match splitAtFirst ']' rest with
      | (address, some after) =>
          (isIpv6 address || isFutureAddress address) &&
            match after with
            | [] => true
            | ':' :: digits => isPort (some digits)
            | _ => false
      | _ => false
  | chars =>
      let (host, digits) := splitAtFirst ':' chars
      allAdmitted isNameChar host && isPort digits

def isAuthority (chars : List Char) : Bool :=
  match splitAtFirst '@' chars with
  | (user, some host) => allAdmitted (fun c => isNameChar c || c == ':') user && isHostAndPort host
  | (host, none) => isHostAndPort host

/-! ## Validity -/

def isPathChar (c : Char) : Bool :=
  isNameChar c || c == ':' || c == '@' || c == '/'

/-- Every part holds only what it admits, and the reference does not start with a colon. -/
def isValid (reference : Reference) : Bool :=
  (match reference.authority with
    | some authority => isAuthority authority
    | none => true) &&
    allAdmitted isPathChar reference.path &&
    (reference.scheme.isSome || reference.authority.isSome ||
      reference.path.head? != some ':') &&
    (match reference.query with
      | some query => allAdmitted (fun c => isPathChar c || c == '?' || isPrivateChar c) query
      | none => true) &&
    (match reference.fragment with
      | some fragment => allAdmitted (fun c => isPathChar c || c == '?') fragment
      | none => true)

/-! ## Resolution -/

/-- Goes up one segment, last one first. At the top an empty segment stays, so that the path starts
with a slash. -/
def dropSegment : List (List Char) → List (List Char)
  | _ :: next :: kept => next :: kept
  | _ => [[]]

/-- Resolves `.` and `..` among the segments; `kept` holds the segments so far, last one first. -/
def resolveDots (kept : List (List Char)) : List (List Char) → List (List Char)
  | [] => kept.reverse
  | ['.'] :: [] => ([] :: kept).reverse
  | ['.'] :: rest => resolveDots kept rest
  | ['.', '.'] :: [] => ([] :: dropSegment kept).reverse
  | ['.', '.'] :: rest => resolveDots (dropSegment kept) rest
  | segment :: rest => resolveDots (segment :: kept) rest

/-- A path with its dots resolved, below the segments in `front`, last one first. Where nothing
stands in front, the first segment is taken as it is. -/
def resolvePath (front : List (List Char)) (path : List Char) : List Char :=
  List.intercalate ['/']
    (match front, splitOnChar '/' path with
      | [], first :: rest => resolveDots [first] rest
      | front, segments => resolveDots front segments)

/-- What a base puts in front of a relative path: the segments of its own path but the last, as they
are. A base without authority and with a single segment puts nothing there. -/
def frontSegments (base : Reference) : List (List Char) :=
  match base.authority, (splitOnChar '/' base.path).reverse.tail with
  | none, [[]] => []
  | some _, [] => [[]]
  | _, front => front

/-- The target of a reference seen from a base. Only paths that are completed by the base have their
dots resolved; a reference with a scheme or an authority of its own keeps its path. -/
def resolve (base reference : Reference) : Reference :=
  if reference.scheme.isSome then reference
  else if reference.authority.isSome then { reference with scheme := base.scheme }
  else if reference.path = [] then
    { scheme := base.scheme
      authority := base.authority
      path := base.path
      query := reference.query <|> base.query
      fragment := reference.fragment }
  else
    { scheme := base.scheme
      authority := base.authority
      path :=
        if reference.path.head? = some '/' then resolvePath [] reference.path
        else resolvePath base.frontSegments reference.path
      query := reference.query
      fragment := reference.fragment }

end Reference

namespace Iri

def parse? (text : String) : Option Iri :=
  let reference := Reference.split text.toList
  if reference.scheme.isSome ∧ reference.isValid then some ⟨text⟩ else none

/-- The target of a valid reference seen from an absolute base. A target without authority whose path
starts with two slashes is refused, since the path would read as an authority. -/
def resolve? (base : Iri) (text : String) : Option Iri :=
  let reference := Reference.split text.toList
  let target := (Reference.split base.text.toList).resolve reference
  if reference.isValid ∧ (target.authority.isSome ∨ target.path.take 2 ≠ ['/', '/']) then
    some ⟨String.ofList target.toChars⟩
  else none

/-- The part after the last `#`, `/` or `:`. -/
def localName (iri : String) : String :=
  String.ofList (iri.toList.reverse.takeWhile fun c => c != '#' && c != '/' && c != ':').reverse

/-- Shaped like an absolute identifier: a scheme with `://` or `urn:`, then at least one character
and neither blanks nor angle brackets. -/
def looksAbsolute (text : String) : Bool :=
  let admits (rest : List Char) :=
    rest != [] && rest.all fun c => !Text.isBlank c && c != '<' && c != '>'
  let afterUrn :=
    match text.toList with
    | 'u' :: 'r' :: 'n' :: ':' :: rest => admits rest
    | _ => false
  let afterScheme :=
    match Reference.splitScheme text.toList with
    | (some _, '/' :: '/' :: rest) => admits rest
    | _ => false
  afterUrn || afterScheme

end Iri

end RdfPipeline.Rdf
