import RdfPipeline.Pattern.Basic

/-!
# Reading patterns

The written form of patterns. Look-around and back-references have no place in it, and a pattern
that is too deep or too large is refused.
-/

set_option autoImplicit false

namespace RdfPipeline.Pattern

/-- Switches that change how the text ahead is read. -/
structure Flags where
  ignoreCase : Bool := false
  multiLine : Bool := false
  dotMatchesLineEnd : Bool := false
  ignoreBlanks : Bool := false
  returnEndsLine : Bool := false
  unicode : Bool := true
  deriving DecidableEq, Repr

namespace Flags

/-- Sets the flag of a letter. The letter for greediness changes nothing. -/
def set? (flags : Flags) (value : Bool) (letter : Char) : Option Flags :=
  match letter with
  | 'i' => some { flags with ignoreCase := value }
  | 'm' => some { flags with multiLine := value }
  | 's' => some { flags with dotMatchesLineEnd := value }
  | 'x' => some { flags with ignoreBlanks := value }
  | 'R' => some { flags with returnEndsLine := value }
  | 'u' => some { flags with unicode := value }
  | 'U' => some flags
  | _ => none

end Flags

/-- Drops blanks and comments where they carry no meaning. Each round drops one of them. -/
def skipIgnored (flags : Flags) : Nat → List Char → List Char
  | 0, chars => chars
  | _ + 1, [] => []
  | fuel + 1, c :: rest =>
      if !flags.ignoreBlanks then c :: rest
      else if Text.isBlank c then skipIgnored flags fuel rest
      else if c = '#' then skipIgnored flags fuel (rest.dropWhile (· != '\n'))
      else c :: rest

def skip (flags : Flags) (chars : List Char) : List Char :=
  skipIgnored flags (chars.length + 1) chars

/-! ## Escapes -/

inductive Primitive where
  | literal (c : Char)
  | members (set : CharSet)
  | anchor (condition : Anchor)

def isMeta (c : Char) : Bool :=
  "\\.+*?()|[]\x7b\x7d^$#&-~".toList.contains c

/-- Characters that stand for themselves after a backslash. -/
def isEscapable (c : Char) : Bool :=
  isMeta c || (c.toNat < 0x80 && !c.isAlphanum && c != '<' && c != '>')

/-- Reads the hexadecimal code of a character: in braces, or as many digits as the letter says. -/
def readCode? (width : Nat) : List Char → Option (Char × List Char)
  | '\x7b' :: rest =>
      let digits := rest.takeWhile (· != '\x7d')
      match rest.dropWhile (· != '\x7d') with
      | _ :: rest =>
          if digits != [] && digits.all Text.isHexDigit then
            (Text.charOfCode? (Text.hexValue digits)).map (·, rest)
          else none
      | [] => none
  | chars =>
      let digits := chars.take width
      if digits.length = width ∧ digits.all Text.isHexDigit then
        (Text.charOfCode? (Text.hexValue digits)).map (·, chars.drop width)
      else none

/-- The spelling of property names in which they are compared. -/
def normalizeName (name : List Char) : String :=
  let word := (name.filter fun c => !Text.isBlank c && c != '_' && c != '-').map Char.toLower
  String.ofList (if word.take 2 = ['i', 's'] ∧ 2 < word.length then word.drop 2 else word)

/-- Reads the name of a property, a single letter or a text in braces. -/
def readProperty? (negated : Bool) : List Char → Option (Bool × CharSet × List Char)
  | '\x7b' :: rest =>
      let name := rest.takeWhile (· != '\x7d')
      match rest.dropWhile (· != '\x7d') with
      | _ :: rest =>
          let (inverted, name) :=
            match name with
            | '^' :: name => (true, name)
            | name => (false, name)
          let value := name.dropWhile fun c => c != '=' && c != ':'
          let differs := (name.takeWhile fun c => c != '=' && c != ':').getLast? = some '!'
          let wanted := if value = [] then name else value.tail
          (CharSet.property? (normalizeName wanted)).map fun set =>
            ((negated != inverted) != (differs && value != []), set, rest)
      | [] => none
  | c :: rest => (CharSet.property? (normalizeName [c])).map fun set => (negated, set, rest)
  | [] => none

def boundary? (unicode : Bool) (name : String) : Option Anchor :=
  match name with
  | "start" => some (.wordStart unicode)
  | "end" => some (.wordEnd unicode)
  | "start-half" => some (.wordStartHalf unicode)
  | "end-half" => some (.wordEndHalf unicode)
  | _ => none

/-- A class letter with its complement in upper case. Without Unicode, complements would take parts
of characters and are refused. -/
def classLetter? (flags : Flags) (c : Char) : Option CharSet :=
  let negated (set : CharSet) := if flags.unicode then some (CharSet.complement set) else none
  match c with
  | 'd' => some (if flags.unicode then .digits else .asciiDigits)
  | 's' => some (if flags.unicode then .blanks else .asciiBlanks)
  | 'w' => some (if flags.unicode then .wordChars else .asciiWordChars)
  | 'D' => negated .digits
  | 'S' => negated .blanks
  | 'W' => negated .wordChars
  | _ => none

/-- Reads an escape after its backslash. -/
def readEscape? (flags : Flags) : List Char → Option (Primitive × List Char)
  | [] => none
  | c :: rest =>
      match c with
      | 'x' => (readCode? 2 rest).map fun (c, rest) => (.literal c, rest)
      | 'u' => (readCode? 4 rest).map fun (c, rest) => (.literal c, rest)
      | 'U' => (readCode? 8 rest).map fun (c, rest) => (.literal c, rest)
      | 'a' => some (.literal '\x07', rest)
      | 'f' => some (.literal '\x0c', rest)
      | 't' => some (.literal '\t', rest)
      | 'n' => some (.literal '\n', rest)
      | 'r' => some (.literal '\r', rest)
      | 'v' => some (.literal '\x0b', rest)
      | 'A' => some (.anchor .textStart, rest)
      | 'z' => some (.anchor .textEnd, rest)
      | 'B' => some (.anchor (.noWordBoundary flags.unicode), rest)
      | '<' => some (.anchor (.wordStart flags.unicode), rest)
      | '>' => some (.anchor (.wordEnd flags.unicode), rest)
      | 'b' =>
          match rest with
          | '\x7b' :: after =>
              let name := after.takeWhile fun c => c.isAlpha || c == '-'
              match after.dropWhile fun c => c.isAlpha || c == '-' with
              | '\x7d' :: after =>
                  (boundary? flags.unicode (String.ofList name)).map fun condition =>
                    (.anchor condition, after)
              | _ => some (.anchor (.wordBoundary flags.unicode), rest)
          | _ => some (.anchor (.wordBoundary flags.unicode), rest)
      | c =>
          if c = 'p' ∨ c = 'P' then
            if flags.unicode then
              (readProperty? (c == 'P') rest).map fun (negated, set, rest) =>
                (.members (.complementIf negated (.caseClosedIf flags.ignoreCase set)), rest)
            else none
          else
            match classLetter? flags c with
            | some set => some (.members set, rest)
            | none => if isEscapable c then some (.literal c, rest) else none

/-! ## Bracketed sets -/

/-- Reads one member or one end of a range. -/
def readMember? (flags : Flags) : List Char → Option (Primitive × List Char)
  | [] => none
  | '\\' :: rest => readEscape? flags rest
  | c :: rest => some (.literal c, rest)

def Primitive.toSet? : Primitive → Option CharSet
  | .literal c => some (.single c)
  | .members set => some set
  | .anchor _ => none

/-- Reads a member, or a range if a dash and another member follow. -/
def readRange? (flags : Flags) (chars : List Char) : Option (CharSet × List Char) := do
  let (first, rest) ← readMember? flags chars
  let rest := skip flags rest
  let single := first.toSet?.map (·, rest)
  match rest with
  | '-' :: after =>
      match (skip flags after).head? with
      | some ']' => single
      | some '-' => single
      | _ =>
          let (last, rest) ← readMember? flags (skip flags after)
          match first, last with
          | .literal low, .literal high =>
              if low ≤ high then some (.ranges [(low.toNat, high.toNat)], rest) else none
          | _, _ => none
  | [] => none
  | _ => single

/-- Reads a name between `[:` and `:]`. -/
def readBracketedName? : List Char → Option (CharSet × List Char)
  | '[' :: ':' :: rest =>
      let (negated, rest) :=
        match rest with
        | '^' :: after => (true, after)
        | other => (false, other)
      let name := rest.takeWhile (· != ':')
      match rest.dropWhile (· != ':') with
      | ':' :: ']' :: rest =>
          (CharSet.bracketed? (String.ofList name)).map fun set =>
            (.complementIf negated set, rest)
      | _ => none
  | _ => none

inductive SetOperation where
  | intersection
  | difference
  | symmetricDifference
  deriving DecidableEq, Repr

def SetOperation.apply (operation : SetOperation) (left right : CharSet) : CharSet :=
  match operation with
  | .intersection => .intersection left right
  | .difference => .difference left right
  | .symmetricDifference => .union (.difference left right) (.difference right left)

def SetOperation.ofChar? : Char → Option SetOperation
  | '&' => some .intersection
  | '-' => some .difference
  | '~' => some .symmetricDifference
  | _ => none

/-- Applies the operation that waits for its right side. -/
def combine (flags : Flags) (pending : Option (CharSet × SetOperation)) (set : CharSet) :
    CharSet :=
  match pending with
  | some (left, operation) =>
      operation.apply (.caseClosedIf flags.ignoreCase left) (.caseClosedIf flags.ignoreCase set)
  | none => set

/-- Literal dashes, or a literal bracket, at the front of a bracketed set. -/
def readLeading (flags : Flags) : Nat → CharSet → List Char → CharSet × List Char
  | 0, set, chars => (set, chars)
  | fuel + 1, set, chars =>
      match chars with
      | '-' :: rest => readLeading flags fuel (.union set (.single '-')) (skip flags rest)
      | ']' :: rest => if set = .empty then (.single ']', skip flags rest) else (set, chars)
      | _ => (set, chars)

mutual

/-- Reads a bracketed set after its opening bracket. -/
def readSet? (flags : Flags) : Nat → List Char → Option (CharSet × List Char)
  | 0, _ => none
  | fuel + 1, chars => do
      let chars := skip flags chars
      let (negated, chars) :=
        match chars with
        | '^' :: rest => (true, skip flags rest)
        | other => (false, other)
      let (leading, chars) := readLeading flags (chars.length + 1) .empty chars
      let (set, rest) ← readSetItems? flags fuel none leading chars
      if negated && !flags.unicode then none
      some (.complementIf negated (.caseClosedIf flags.ignoreCase set), rest)

/-- Reads the members of a bracketed set up to its closing bracket. -/
def readSetItems? (flags : Flags) :
    Nat → Option (CharSet × SetOperation) → CharSet → List Char → Option (CharSet × List Char)
  | 0, _, _, _ => none
  | fuel + 1, pending, union, chars =>
      match skip flags chars with
      | [] => none
      | ']' :: rest => some (combine flags pending union, rest)
      | '[' :: rest =>
          match readBracketedName? ('[' :: rest) with
          | some (set, rest) => readSetItems? flags fuel pending (.union union set) rest
          | none => do
              let (set, rest) ← readSet? flags fuel rest
              readSetItems? flags fuel pending (.union union set) rest
      | c :: rest =>
          match SetOperation.ofChar? c, decide (rest.head? = some c) with
          | some operation, true =>
              readSetItems? flags fuel (some (combine flags pending union, operation)) .empty
                rest.tail
          | _, _ => do
              let (set, rest) ← readRange? flags (c :: rest)
              readSetItems? flags fuel pending (.union union set) rest

end

/-! ## Groups and repetitions -/

/-- Reads flags up to a colon or a closing parenthesis, which stays ahead. -/
def readFlags? : Nat → Bool → List Char → Flags → List Char → Option (Flags × List Char)
  | 0, _, _, _, _ => none
  | _ + 1, _, _, _, [] => none
  | fuel + 1, value, seen, flags, c :: rest =>
      if c = ':' ∨ c = ')' then
        if seen.head? = some '-' then none else some (flags, c :: rest)
      else if seen.contains c then none
      else if c = '-' then readFlags? fuel false (c :: seen) flags rest
      else do
        let flags ← flags.set? value c
        readFlags? fuel value (c :: seen) flags rest

def isGroupNameStart (c : Char) : Bool :=
  c == '_' || CharSet.letters.contains c.toNat

def isGroupNameChar (c : Char) : Bool :=
  isGroupNameStart c || c == '.' || c == '[' || c == ']' || CharSet.digits.contains c.toNat

/-- Reads the name of a group and the bracket after it. -/
def readGroupName? (taken : List String) (chars : List Char) : Option (String × List Char) :=
  let name := chars.takeWhile (· != '>')
  match name, chars.dropWhile (· != '>') with
  | first :: others, _ :: rest =>
      let text := String.ofList name
      if isGroupNameStart first && others.all isGroupNameChar && !taken.contains text then
        some (text, rest)
      else none
  | _, _ => none

inductive GroupStart where
  | group (flags : Flags) (names : List String) (rest : List Char)
  | setFlags (flags : Flags) (rest : List Char)

def readGroupStart? (flags : Flags) (names : List String) (chars : List Char) :
    Option GroupStart :=
  match skip flags chars with
  | '?' :: 'P' :: '<' :: rest =>
      (readGroupName? names rest).map fun (name, rest) => .group flags (name :: names) rest
  | '?' :: '<' :: rest =>
      (readGroupName? names rest).map fun (name, rest) => .group flags (name :: names) rest
  | '?' :: ')' :: _ => none
  | '?' :: rest =>
      match readFlags? (rest.length + 1) true [] flags rest with
      | some (inner, ':' :: rest) => some (.group inner names rest)
      | some (inner, ')' :: rest) => some (.setFlags inner rest)
      | _ => none
  | rest => some (.group flags names rest)

def readBound? (chars : List Char) : Option (Nat × List Char) :=
  let chars := chars.dropWhile Text.isBlank
  let digits := chars.takeWhile Text.isDigit
  let value := Text.decimalValue digits
  if digits = [] ∨ Nat.pow 2 32 ≤ value then none
  else some (value, (chars.dropWhile Text.isDigit).dropWhile Text.isBlank)

/-- Reads the bounds of a repetition after the opening brace. -/
def readBounds? (flags : Flags) (chars : List Char) : Option (Nat × Option Nat × List Char) := do
  let (least, rest) ← readBound? (skip flags chars)
  match rest with
  | '\x7d' :: rest => some (least, some least, rest)
  | ',' :: rest =>
      match skip flags rest with
      | '\x7d' :: rest => some (least, none, rest)
      | rest =>
          let (most, rest) ← readBound? rest
          match rest with
          | '\x7d' :: rest => if least ≤ most then some (least, some most, rest) else none
          | _ => none
  | _ => none

def dropReluctant : List Char → List Char
  | '?' :: rest => rest
  | rest => rest

/-! ## Whole patterns -/

def Primitive.toPattern (flags : Flags) : Primitive → Pattern
  | .literal c => .oneOf (.caseClosedIf flags.ignoreCase (.single c))
  | .members set => .oneOf set
  | .anchor condition => .anchor condition

/-- Any character, line ends only if the flags say so. -/
def dot? (flags : Flags) : Option Pattern :=
  if !flags.unicode then none
  else if flags.dotMatchesLineEnd then some (.oneOf .any)
  else if flags.returnEndsLine then some (.oneOf (.complement (.ofString "\r\n")))
  else some (.oneOf (.complement (.single '\n')))

def lineStart (flags : Flags) : Anchor :=
  if !flags.multiLine then .textStart
  else if flags.returnEndsLine then .lineStartAfterReturn else .lineStart

def lineEnd (flags : Flags) : Anchor :=
  if !flags.multiLine then .textEnd
  else if flags.returnEndsLine then .lineEndBeforeReturn else .lineEnd

/-- What has been read of a group: earlier branches and the items of the current one, each the last
first. An item that only sets flags is absent. -/
structure Branches where
  flags : Flags
  names : List String
  earlier : List Pattern
  items : List (Option Pattern)

def sequenceOf (items : List (Option Pattern)) : Pattern :=
  items.reverse.foldr
    (fun item rest =>
      match item with
      | some pattern => if rest = .empty then pattern else .sequence pattern rest
      | none => rest)
    .empty

def choiceOf (last : Pattern) (earlier : List Pattern) : Pattern :=
  earlier.foldl (fun right left => .choice left right) last

def Branches.toPattern (branches : Branches) : Pattern :=
  choiceOf (sequenceOf branches.items) branches.earlier

def Branches.push (branches : Branches) (item : Pattern) : Branches :=
  { branches with items := some item :: branches.items }

/-- Repeats the last item, which has to match something. -/
def Branches.repeatLast? (branches : Branches) (least : Nat) (most : Option Nat) :
    Option Branches :=
  match branches.items with
  | some item :: rest =>
      some { branches with items := some (.repetition item least most) :: rest }
  | _ => none

def depthLimit : Nat := 250

/-- Reads branches up to the end of their group, or of the text at depth zero. Each call takes at
least one of `fuel` characters. -/
def readBranches? : Nat → Nat → Branches → List Char → Option (Pattern × List String × List Char)
  | 0, _, _, _ => none
  | fuel + 1, depth, branches, chars =>
      let flags := branches.flags
      match skip flags chars with
      | [] => if depth = 0 then some (branches.toPattern, branches.names, []) else none
      | ')' :: rest => if depth = 0 then none else some (branches.toPattern, branches.names, rest)
      | '|' :: rest =>
          readBranches? fuel depth
            { branches with
              earlier := sequenceOf branches.items :: branches.earlier
              items := [] }
            rest
      | '(' :: rest => do
          match ← readGroupStart? flags branches.names rest with
          | .setFlags flags rest =>
              readBranches? fuel depth { branches with flags, items := none :: branches.items } rest
          | .group inner names rest =>
              if depthLimit ≤ depth then none
              let (pattern, names, rest) ←
                readBranches? fuel (depth + 1) ⟨inner, names, [], []⟩ rest
              readBranches? fuel depth { branches.push pattern with names } rest
      | '[' :: rest => do
          let (set, rest) ← readSet? flags (rest.length + 2) rest
          readBranches? fuel depth (branches.push (.oneOf set)) rest
      | '*' :: rest => do
          readBranches? fuel depth (← branches.repeatLast? 0 none) (dropReluctant rest)
      | '+' :: rest => do
          readBranches? fuel depth (← branches.repeatLast? 1 none) (dropReluctant rest)
      | '?' :: rest => do
          readBranches? fuel depth (← branches.repeatLast? 0 (some 1)) (dropReluctant rest)
      | '\x7b' :: rest => do
          let (least, most, rest) ← readBounds? flags rest
          readBranches? fuel depth (← branches.repeatLast? least most)
            (dropReluctant (skip flags rest))
      | '.' :: rest => do
          readBranches? fuel depth (branches.push (← dot? flags)) rest
      | '^' :: rest => readBranches? fuel depth (branches.push (.anchor (lineStart flags))) rest
      | '$' :: rest => readBranches? fuel depth (branches.push (.anchor (lineEnd flags))) rest
      | '\\' :: rest => do
          let (primitive, rest) ← readEscape? flags rest
          readBranches? fuel depth (branches.push (primitive.toPattern flags)) rest
      | c :: rest =>
          readBranches? fuel depth (branches.push ((Primitive.literal c).toPattern flags)) rest

/-- Reads a pattern under the flags, unless it is too large. -/
def parse? (flags : Flags) (text : String) : Option Pattern := do
  let chars := text.toList
  let (pattern, _, _) ← readBranches? (chars.length + 1) 0 ⟨flags, [], [], []⟩ chars
  if pattern.weight ≤ weightLimit then some pattern else none

/-- The flags named by letters; other letters mean nothing here. -/
def Flags.ofLetters (letters : String) : Flags :=
  { ignoreCase := letters.toList.contains 'i'
    multiLine := letters.toList.contains 'm'
    dotMatchesLineEnd := letters.toList.contains 's'
    ignoreBlanks := letters.toList.contains 'x' }

end RdfPipeline.Pattern
