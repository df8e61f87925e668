import RdfPipeline.Error
import RdfPipeline.Text.Ascii
import RdfPipeline.Value.Json

/-!
# URI templates

Templates with placeholders in braces. A placeholder names a variable, and the character in front of
the name says how its value is inserted: `{name}` encoded, `{+name}` as it is, `{#name}` after `#`
and `{/name}` after `/`. A variable without value expands to nothing, its mark included.
-/

set_option autoImplicit false

namespace RdfPipeline

inductive Template.Modifier where
  | simple
  | reserved
  | fragment
  | path
  deriving DecidableEq, Repr

structure Template.Variable where
  name : String
  modifier : Template.Modifier
  deriving DecidableEq, Repr

inductive Template.Segment where
  | literal (text : String)
  | variable (placeholder : Template.Variable)
  deriving DecidableEq, Repr

structure Template where
  source : String
  segments : List Template.Segment
  deriving DecidableEq, Repr

namespace Template

/-! ## Placeholders -/

def Modifier.ofChar? : Char → Option Modifier
  | '+' => some .reserved
  | '#' => some .fragment
  | '/' => some .path
  | _ => none

def Modifier.symbol : Modifier → String
  | .simple => ""
  | .reserved => "+"
  | .fragment => "#"
  | .path => "/"

def Modifier.lead : Modifier → String
  | .simple | .reserved => ""
  | .fragment => "#"
  | .path => "/"

/-- The placeholder with its braces. -/
def Variable.toText (placeholder : Variable) : String :=
  "\x7b" ++ placeholder.modifier.symbol ++ placeholder.name ++ "\x7d"

/-- Splits the text between braces into modifier and name, both trimmed. -/
def splitExpression (expression : List Char) : Modifier × List Char :=
  match Text.trimChars expression with
  | [] => (.simple, [])
  | first :: rest =>
      match Modifier.ofChar? first with
      | some modifier => (modifier, Text.trimChars rest)
      | none => (.simple, first :: rest)

/-! ## Parsing -/

/-- Why a text is no template. Offsets count bytes up to the opening brace of the expression. -/
inductive Fault where
  | nested (offset : Nat)
  | unterminated (offset : Nat)
  | emptyName (offset : Nat)
  /-- The template could not expand to a web address. -/
  | relativeStart
  deriving DecidableEq, Repr

def Fault.message : Fault → String
  | .nested offset => "nested '\x7b' in expression at offset " ++ toString offset
  | .unterminated offset => "unterminated expression at offset " ++ toString offset
  | .emptyName offset => "empty variable name at offset " ++ toString offset
  | .relativeStart => "template must start with http://, https:// or a placeholder"

/-- How the text after an opening brace continues. -/
inductive Closing where
  | closed (expression rest : List Char)
  | nested
  | unterminated

def findClosing : List Char → Closing
  | [] => .unterminated
  | c :: rest =>
      if c = '\x7d' then .closed [] rest
      else if c = '\x7b' then .nested
      else
        match findClosing rest with
        | .closed expression rest => .closed (c :: expression) rest
        | other => other

theorem length_lt_of_findClosing {chars expression rest : List Char}
    (closed : findClosing chars = .closed expression rest) : rest.length < chars.length := by
  induction chars generalizing expression with
  | nil => simp [findClosing] at closed
  | cons c chars ih =>
      simp only [findClosing] at closed
      split at closed
      · simp only [Closing.closed.injEq] at closed
        simp [closed.2]
      · split at closed
        · simp at closed
        · split at closed
          · next found =>
              simp only [Closing.closed.injEq] at closed
              have := ih (closed.2 ▸ found)
              simp only [List.length_cons]
              omega
          · next other notClosed =>
              exact absurd closed (notClosed _ _)

def literalSegment (text : List Char) : List Segment :=
  if text = [] then [] else [.literal (String.ofList text)]

def byteLength : List Char → Nat
  | [] => 0
  | c :: rest => c.utf8Size + byteLength rest

/-- Parses the text ahead; `offset` bytes lie behind it. -/
def parseSegments (offset : Nat) (chars : List Char) : Except Fault (List Segment) :=
  let literal := chars.takeWhile (· != '\x7b')
  match _ahead : chars.dropWhile (· != '\x7b') with
  | [] => .ok (literalSegment literal)
  | _ :: rest =>
      let start := offset + byteLength literal
      match _found : findClosing rest with
      | .nested => .error (.nested start)
      | .unterminated => .error (.unterminated start)
      | .closed expression rest' =>
          let (modifier, name) := splitExpression expression
          if name = [] then .error (.emptyName start)
          else do
            let more ← parseSegments (start + byteLength expression + 2) rest'
            .ok (literalSegment literal ++ .variable ⟨String.ofList name, modifier⟩ :: more)
termination_by chars.length
decreasing_by
  have shorter := length_lt_of_findClosing _found
  have dropped := (List.dropWhile_sublist (fun c => c != '\x7b') (l := chars)).length_le
  rw [_ahead] at dropped
  simp only [List.length_cons] at dropped
  omega

def parseFault (text : String) : Except Fault Template := do
  let segments ← parseSegments 0 text.toList
  .ok ⟨text, segments⟩

/-- Parses a template; the error names the text. -/
def parse (text : String) : Except EngineError Template :=
  (parseFault text).mapError fun fault => .template text fault.message

/-! ## Views -/

def Segment.variable? : Segment → Option Variable
  | .literal _ => none
  | .variable placeholder => some placeholder

def distinctNames : List Variable → List Variable → List Variable
  | seen, [] => seen.reverse
  | seen, placeholder :: rest =>
      if seen.any (·.name == placeholder.name) then distinctNames seen rest
      else distinctNames (placeholder :: seen) rest

/-- The distinct variables in the order of their first appearance. -/
def placeholders (template : Template) : List Variable :=
  distinctNames [] (template.segments.filterMap Segment.variable?)

def startsWithPlaceholder (template : Template) : Bool :=
  match template.segments with
  | .variable _ :: _ => true
  | _ => false

/-! ## Expansion -/

def isUnencoded (c : Char) : Bool :=
  ('a' ≤ c && c ≤ 'z') || ('A' ≤ c && c ≤ 'Z') || Text.isDigit c || c == '.' || c == '-' ||
    c == '*' || c == '_' || c == '/'

/-- A byte as a percent sign and two hexadecimal digits. -/
def encodeByte (byte : UInt8) : List Char :=
  '%' :: Text.upperHex 2 byte.toNat

def encodeChar (c : Char) : List Char :=
  if isUnencoded c then [c] else (String.utf8EncodeChar c).flatMap encodeByte

/-- Encodes a value for an IRI: trimmed, runs of blanks as `_`, and all bytes but those of letters,
digits and `.-*_/` as percent codes. -/
def encodeValue (raw : String) : String :=
  String.ofList ((Text.joinBlankRuns (Text.trimChars raw.toList)).flatMap encodeChar)

/-- The text of one segment under a look-up of values and an encoding of them. -/
def expandSegment (lookup : String → Option String) (encode : Modifier → String → String) :
    Segment → String
  | .literal text => text
  | .variable placeholder =>
      match lookup placeholder.name with
      | some raw => placeholder.modifier.lead ++ encode placeholder.modifier raw
      | none => ""

def expandWith (template : Template) (lookup : String → Option String)
    (encode : Modifier → String → String) : String :=
  String.join (template.segments.map (expandSegment lookup encode))

/-- The text of a field of a record, unless it is null. -/
def fieldText? (record : Record) (name : String) : Option String :=
  match Dict.get? name record with
  | some value => if value.isNull then none else some value.toText
  | none => none

/-- Reserved expansion keeps the value as it is. -/
def encodeFor (modifier : Modifier) (raw : String) : String :=
  match modifier with
  | .reserved => raw
  | _ => encodeValue raw

def expand (template : Template) (record : Record) : String :=
  template.expandWith (fieldText? record) encodeFor

/-! ## Checks and defaults -/

/-- The variables of a template that starts, blanks aside, with a web scheme or a placeholder. -/
def validate (text : String) : Except EngineError (List Variable) := do
  let trimmed := Text.trimStart text
  let template ← parse trimmed
  if trimmed.startsWith "http://" || trimmed.startsWith "https://" ||
      template.startsWithPlaceholder then
    .ok template.placeholders
  else
    .error (.template text Fault.relativeStart.message)

/-- A base, ended by a slash, with one simple placeholder for each key column. -/
def defaultFor (base : String) (columns : List String) : String :=
  let start := if base.toList.getLast? = some '/' then base else base ++ "/"
  start ++ String.intercalate "/" (columns.map fun name => "\x7b" ++ name ++ "\x7d")

end Template

end RdfPipeline
