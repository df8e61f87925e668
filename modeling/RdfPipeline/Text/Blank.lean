/-!
# Blank characters

The characters that Unicode calls white space, cutting them from the ends of a text and
collapsing runs of them.
-/

set_option autoImplicit false

namespace RdfPipeline.Text

/-- Has the Unicode property `White_Space`. -/
def isBlank (c : Char) : Bool :=
  let code := c.toNat
  (9 ≤ code && code ≤ 13) || code == 0x20 || code == 0x85 || code == 0xA0 || code == 0x1680 ||
    (0x2000 ≤ code && code ≤ 0x200A) || code == 0x2028 || code == 0x2029 || code == 0x202F ||
    code == 0x205F || code == 0x3000

def trimStartChars (chars : List Char) : List Char :=
  chars.dropWhile isBlank

def trimEndChars (chars : List Char) : List Char :=
  (chars.reverse.dropWhile isBlank).reverse

def trimChars (chars : List Char) : List Char :=
  trimEndChars (trimStartChars chars)

def trimStart (text : String) : String :=
  String.ofList (trimStartChars text.toList)

def trim (text : String) : String :=
  String.ofList (trimChars text.toList)

/-- A text without any character that is not blank; the empty text is one. -/
def isAllBlank (text : String) : Bool :=
  text.toList.all isBlank

/-- Writes one `_` for each longest run of blanks. -/
def joinBlankRuns (chars : List Char) : List Char :=
  match chars with
  | [] => []
  | c :: rest =>
      if isBlank c then '_' :: joinBlankRuns (rest.dropWhile isBlank)
      else c :: joinBlankRuns rest
termination_by chars.length
decreasing_by
  · have := (List.dropWhile_sublist isBlank (l := rest)).length_le
    simp only [List.length_cons]
    omega
  · simp only [List.length_cons]
    omega

end RdfPipeline.Text
