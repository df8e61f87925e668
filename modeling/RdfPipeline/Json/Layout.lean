import RdfPipeline.Json.Reader

/-!
# Reading under a layout

A layout says where a document has structures and which fields they know. A structure is an object
or an array of its fields in order. Members of an object that are not known are passed over: their
brackets, quotes and digits have to be in place, but they may be nested to any depth, hold numbers
out of range and escape half of a surrogate pair.
-/

set_option autoImplicit false

namespace RdfPipeline.Json

inductive Layout where
  /-- Any value, read as it is. -/
  | whole
  /-- An array of values of one layout. -/
  | items (item : Layout)
  /-- A structure of fields. -/
  | fields (known : List (String × Layout))

/-- The names of the fields of a structure in their order. -/
def Layout.names : Layout → List String
  | .fields known => known.map (·.1)
  | _ => []

/-! ## Passing over -/

def skipDigits? (chars : List Char) : Option (List Char) :=
  let (digits, rest) := Decimal.spanDigits chars
  if digits = [] then none else some rest

def skipExponent? : List Char → Option (List Char)
  | [] => some []
  | mark :: rest =>
      if mark = 'e' ∨ mark = 'E' then skipDigits? (Decimal.splitSign rest).2
      else some (mark :: rest)

/-- Passes over a number after its optional minus. -/
def skipNumber? (chars : List Char) : Option (List Char) :=
  let (whole, rest) := Decimal.spanDigits chars
  match whole with
  | [] => none
  | '0' :: _ :: _ => none
  | _ =>
      match rest with
      | '.' :: after => (skipDigits? after).bind skipExponent?
      | other => skipExponent? other

/-- Passes over the rest of a string with its closing quote. -/
def skipString? : List Char → Option (List Char)
  | [] => none
  | '"' :: rest => some rest
  | '\\' :: 'u' :: a :: b :: c :: d :: rest =>
      if (codeUnit? a b c d).isSome then skipString? rest else none
  | '\\' :: c :: rest => if (simpleEscape? c).isSome then skipString? rest else none
  | c :: rest => if c.toNat < 0x20 ∨ c = '\\' then none else skipString? rest

mutual

/-- Passes over one value. `fuel` bounds the number of calls. -/
def skipValue? : Nat → List Char → Option (List Char)
  | 0, _ => none
  | fuel + 1, chars =>
      match skipSpaces chars with
      | '"' :: rest => skipString? rest
      | '[' :: rest =>
          match skipSpaces rest with
          | ']' :: rest => some rest
          | rest => skipItems? fuel rest
      | '\x7b' :: rest =>
          match skipSpaces rest with
          | '\x7d' :: rest => some rest
          | rest => skipMembers? fuel rest
      | '-' :: rest => skipNumber? rest
      | 't' :: rest => stripWord? "rue".toList rest
      | 'f' :: rest => stripWord? "alse".toList rest
      | 'n' :: rest => stripWord? "ull".toList rest
      | rest => skipNumber? rest

/-- Passes over the items of a non-empty array and its closing bracket. -/
def skipItems? : Nat → List Char → Option (List Char)
  | 0, _ => none
  | fuel + 1, chars => do
      let rest ← skipValue? fuel chars
      match skipSpaces rest with
      | ',' :: rest => skipItems? fuel rest
      | ']' :: rest => some rest
      | _ => none

/-- Passes over the members of a non-empty object and its closing brace. -/
def skipMembers? : Nat → List Char → Option (List Char)
  | 0, _ => none
  | fuel + 1, chars =>
      match skipSpaces chars with
      | '"' :: rest => do
          let rest ← skipString? rest
          match skipSpaces rest with
          | ':' :: rest =>
              let rest ← skipValue? fuel rest
              match skipSpaces rest with
              | ',' :: rest => skipMembers? fuel rest
              | '\x7d' :: rest => some rest
              | _ => none
          | _ => none
      | _ => none

end

/-- Enough calls for any value at the front of a text. -/
def callsFor (chars : List Char) : Nat :=
  2 * chars.length + 1

/-! ## Structures -/

mutual

/-- Reads one value. `fuel` bounds the number of calls and `depth` the levels still allowed. -/
def readUnder? : Nat → Nat → Layout → List Char → Option (Json × List Char)
  | 0, _, _, _ => none
  | _ + 1, depth, .whole, chars => readValue? (callsFor chars) depth chars
  | fuel + 1, depth, .items item, chars =>
      match skipSpaces chars, depth with
      | '[' :: rest, depth + 1 =>
          match skipSpaces rest with
          | ']' :: rest => some (.array [], rest)
          | rest => do
              let (items, rest) ← readAlike? fuel depth item rest
              some (.array items, rest)
      | _, _ => none
  | fuel + 1, depth, .fields known, chars =>
      match skipSpaces chars, depth with
      | '[' :: rest, depth + 1 =>
          match skipSpaces rest with
          | ']' :: rest => some (.array [], rest)
          | rest => do
              let (items, rest) ← readInOrder? fuel depth (known.map (·.2)) rest
              some (.array items, rest)
      | '\x7b' :: rest, depth + 1 =>
          match skipSpaces rest with
          | '\x7d' :: rest => some (.object [], rest)
          | rest => do
              let (members, rest) ← readKnown? fuel depth known rest
              some (.object members, rest)
      | _, _ => none

/-- Reads the items of a non-empty array, all under one layout, up to its closing bracket. -/
def readAlike? : Nat → Nat → Layout → List Char → Option (List Json × List Char)
  | 0, _, _, _ => none
  | fuel + 1, depth, layout, chars => do
      let (item, rest) ← readUnder? fuel depth layout chars
      match skipSpaces rest with
      | ',' :: rest =>
          let (items, rest) ← readAlike? fuel depth layout rest
          some (item :: items, rest)
      | ']' :: rest => some ([item], rest)
      | _ => none

/-- Reads the items of a non-empty array, each under the layout of its place, up to its closing
bracket. There may be fewer items than layouts but not more. -/
def readInOrder? : Nat → Nat → List Layout → List Char → Option (List Json × List Char)
  | 0, _, _, _ => none
  | _ + 1, _, [], _ => none
  | fuel + 1, depth, layout :: layouts, chars => do
      let (item, rest) ← readUnder? fuel depth layout chars
      match skipSpaces rest with
      | ',' :: rest =>
          let (items, rest) ← readInOrder? fuel depth layouts rest
          some (item :: items, rest)
      | ']' :: rest => some ([item], rest)
      | _ => none

/-- Reads the known members of a non-empty object up to its closing brace. -/
def readKnown? : Nat → Nat → List (String × Layout) → List Char →
    Option (List (String × Json) × List Char)
  | 0, _, _, _ => none
  | fuel + 1, depth, known, chars =>
      match skipSpaces chars with
      | '"' :: rest => do
          let (name, rest) ← readString? rest
          match skipSpaces rest with
          | ':' :: rest =>
              let (members, rest) ←
                match known.lookup (String.ofList name) with
                | some layout =>
                    (readUnder? fuel depth layout rest).map fun (value, rest) =>
                      ([(String.ofList name, value)], rest)
                | none => (skipValue? (callsFor rest) rest).map fun rest => ([], rest)
              match skipSpaces rest with
              | ',' :: rest =>
                  let (more, rest) ← readKnown? fuel depth known rest
                  some (members ++ more, rest)
              | '\x7d' :: rest => some (members, rest)
              | _ => none
          | _ => none
      | _ => none

end

/-- Reads a text as one document under a layout, known members in written order. -/
def parseUnder? (layout : Layout) (text : String) : Option Json := do
  let (document, rest) ← readUnder? (callsFor text.toList) depthLimit layout text.toList
  if skipSpaces rest = [] then some document else none

end RdfPipeline.Json
