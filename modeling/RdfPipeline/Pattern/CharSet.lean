import RdfPipeline.Text.Blank
import RdfPipeline.Text.CaseFold

/-!
# Sets of characters

The sets that a single place of a pattern admits, built from ranges by the set operations and by
closing under case.
-/

set_option autoImplicit false

namespace RdfPipeline.Pattern

inductive CharSet where
  /-- Code points between two ends, both included. -/
  | ranges (ends : List (Nat × Nat))
  | complement (set : CharSet)
  | union (left right : CharSet)
  | intersection (left right : CharSet)
  | difference (left right : CharSet)
  /-- All case variants of the members. -/
  | caseClosed (set : CharSet)
  deriving DecidableEq, Repr

namespace CharSet

def contains : CharSet → Nat → Bool
  | .ranges ends, code => ends.any fun range => range.1 ≤ code && code ≤ range.2
  | .complement set, code => !contains set code
  | .union left right, code => contains left code || contains right code
  | .intersection left right, code => contains left code && contains right code
  | .difference left right, code => contains left code && !contains right code
  | .caseClosed set, code => (Text.caseVariants code).any (contains set)

def size : CharSet → Nat
  | .ranges ends => ends.length
  | .complement set => size set + 1
  | .union left right => size left + size right
  | .intersection left right => size left + size right
  | .difference left right => size left + size right
  | .caseClosed set => 2 * size set

def empty : CharSet :=
  .ranges []

def any : CharSet :=
  .ranges [(0, 0x10FFFF)]

def single (c : Char) : CharSet :=
  .ranges [(c.toNat, c.toNat)]

def ofString (chars : String) : CharSet :=
  .ranges (chars.toList.map fun c => (c.toNat, c.toNat))

def complementIf (negated : Bool) (set : CharSet) : CharSet :=
  if negated then .complement set else set

def caseClosedIf (ignoreCase : Bool) (set : CharSet) : CharSet :=
  if ignoreCase then .caseClosed set else set

/-! ## Named sets -/

open Text.Property in
/-- The general categories with their short and long names. -/
def categories : List (List String × List String) :=
  [ (["lu", "uppercaseletter"], categoryLu), (["ll", "lowercaseletter"], categoryLl),
    (["lt", "titlecaseletter"], categoryLt), (["lm", "modifierletter"], categoryLm),
    (["lo", "otherletter"], categoryLo), (["mn", "nonspacingmark"], categoryMn),
    (["mc", "spacingmark"], categoryMc), (["me", "enclosingmark"], categoryMe),
    (["nd", "decimalnumber", "digit"], categoryNd), (["nl", "letternumber"], categoryNl),
    (["no", "othernumber"], categoryNo), (["pc", "connectorpunctuation"], categoryPc),
    (["pd", "dashpunctuation"], categoryPd), (["ps", "openpunctuation"], categoryPs),
    (["pe", "closepunctuation"], categoryPe), (["pi", "initialpunctuation"], categoryPi),
    (["pf", "finalpunctuation"], categoryPf), (["po", "otherpunctuation"], categoryPo),
    (["sm", "mathsymbol"], categorySm), (["sc", "currencysymbol"], categorySc),
    (["sk", "modifiersymbol"], categorySk), (["so", "othersymbol"], categorySo),
    (["zs", "spaceseparator"], categoryZs), (["zl", "lineseparator"], categoryZl),
    (["zp", "paragraphseparator"], categoryZp), (["cc", "control", "cntrl"], categoryCc),
    (["cf", "format"], categoryCf), (["co", "privateuse"], categoryCo),
    (["cn", "unassigned"], categoryCn) ]

/-- The groups of categories, by the letter that their short names start with. -/
def categoryGroups : List (List String × Char) :=
  [ (["l", "letter"], 'l'), (["m", "mark", "combiningmark"], 'm'), (["n", "number"], 'n'),
    (["p", "punctuation", "punct"], 'p'), (["s", "symbol"], 's'), (["z", "separator"], 'z'),
    (["c", "other"], 'c') ]

open Text.Property in
def otherProperties : List (List String × List String) :=
  [ (["latin", "latn"], scriptLatin), (["greek", "grek"], scriptGreek),
    (["cyrillic", "cyrl"], scriptCyrillic), (["arabic", "arab"], scriptArabic),
    (["hebrew", "hebr"], scriptHebrew), (["hiragana", "hira"], scriptHiragana),
    (["katakana", "kana"], scriptKatakana), (["han", "hani"], scriptHan),
    (["hangul", "hang"], scriptHangul), (["thai"], scriptThai),
    (["devanagari", "deva"], scriptDevanagari) ]

def ofTable (table : List String) : CharSet :=
  .ranges (Text.Property.decode table)

def ofTables (tables : List (List String)) : CharSet :=
  .ranges (tables.flatMap Text.Property.decode)

def letters : CharSet :=
  ofTables ((categories.filter fun entry =>
    (entry.1.head?.map fun name => name.startsWith "l").getD false).map (·.2))

def marks : CharSet :=
  ofTables ((categories.filter fun entry =>
    (entry.1.head?.map fun name => name.startsWith "m").getD false).map (·.2))

/-- Symbols that count as letters: circled, parenthesized and squared ones. -/
def letterSymbols : CharSet :=
  .ranges [(0x24B6, 0x24E9), (0x1F130, 0x1F149), (0x1F150, 0x1F169), (0x1F170, 0x1F189)]

def digits : CharSet :=
  ofTable Text.Property.categoryNd

def blanks : CharSet :=
  .ranges [(9, 13), (0x20, 0x20), (0x85, 0x85), (0xA0, 0xA0), (0x1680, 0x1680), (0x2000, 0x200A),
    (0x2028, 0x2029), (0x202F, 0x202F), (0x205F, 0x205F), (0x3000, 0x3000)]

def wordChars : CharSet :=
  .union letters (.union marks (.union letterSymbols (.union
    (ofTables [Text.Property.categoryNd, Text.Property.categoryNl, Text.Property.categoryPc])
    (.ranges [(0x200C, 0x200D)]))))

def asciiDigits : CharSet :=
  .ranges [(0x30, 0x39)]

def asciiBlanks : CharSet :=
  .ranges [(9, 13), (0x20, 0x20)]

def asciiWordChars : CharSet :=
  .ranges [(0x30, 0x39), (0x41, 0x5A), (0x5F, 0x5F), (0x61, 0x7A)]

/-- A property by its name, spelled without blanks, dashes and underscores in lower case. -/
def property? (name : String) : Option CharSet :=
  match categories.find? (·.1.contains name), categoryGroups.find? (·.1.contains name),
      otherProperties.find? (·.1.contains name) with
  | some entry, _, _ => some (ofTable entry.2)
  | _, some group, _ =>
      some (ofTables ((categories.filter fun entry =>
        (entry.1.head?.bind fun name => name.toList.head?) == some group.2).map (·.2)))
  | _, _, some entry => some (ofTable entry.2)
  | none, none, none =>
      match name with
      | "any" => some any
      | "assigned" => some (.complement (ofTable Text.Property.categoryCn))
      | "ascii" => some (.ranges [(0, 0x7F)])
      | "lc" | "casedletter" =>
          some (ofTables [Text.Property.categoryLu, Text.Property.categoryLl,
            Text.Property.categoryLt])
      | "alphabetic" | "alpha" =>
          some (.union letters (.union letterSymbols (ofTable Text.Property.categoryNl)))
      | "uppercase" | "upper" =>
          some (ofTables [Text.Property.categoryLu, Text.Property.otherUpper])
      | "lowercase" | "lower" =>
          some (ofTables [Text.Property.categoryLl, Text.Property.otherLower])
      | "whitespace" | "wspace" | "space" => some blanks
      | _ => none

/-- A set by the name that it has between `[:` and `:]`. -/
def bracketed? (name : String) : Option CharSet :=
  match name with
  | "alnum" => some (.ranges [(0x30, 0x39), (0x41, 0x5A), (0x61, 0x7A)])
  | "alpha" => some (.ranges [(0x41, 0x5A), (0x61, 0x7A)])
  | "ascii" => some (.ranges [(0, 0x7F)])
  | "blank" => some (.ranges [(9, 9), (0x20, 0x20)])
  | "cntrl" => some (.ranges [(0, 0x1F), (0x7F, 0x7F)])
  | "digit" => some asciiDigits
  | "graph" => some (.ranges [(0x21, 0x7E)])
  | "lower" => some (.ranges [(0x61, 0x7A)])
  | "print" => some (.ranges [(0x20, 0x7E)])
  | "punct" => some (.ranges [(0x21, 0x2F), (0x3A, 0x40), (0x5B, 0x60), (0x7B, 0x7E)])
  | "space" => some asciiBlanks
  | "upper" => some (.ranges [(0x41, 0x5A)])
  | "word" => some asciiWordChars
  | "xdigit" => some (.ranges [(0x30, 0x39), (0x41, 0x46), (0x61, 0x66)])
  | _ => none

end CharSet

end RdfPipeline.Pattern
