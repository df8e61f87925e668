import RdfPipeline.Rdf.Iri

/-!
# Language tags

The well-formed language tags: a language, up to three extensions of it, a script, a region,
variants, extensions and a private part, in this order, or a private part alone. No subtag is longer
than eight characters.
-/

set_option autoImplicit false

namespace RdfPipeline.Rdf.LanguageTag

/-- How far the subtags read so far have come. -/
inductive Stage where
  | start
  | language (extensions : Nat)
  | extendedLanguage
  | script
  | region
  | extension (waiting : Bool)
  | privateUse (waiting : Bool)
  deriving DecidableEq, Repr

def isLetters (subtag : List Char) : Bool :=
  subtag.all Reference.isAsciiLetter

def isLettersOrDigits (subtag : List Char) : Bool :=
  subtag.all fun c => Reference.isAsciiLetter c || Text.isDigit c

def isScript (subtag : List Char) : Bool :=
  subtag.length == 4 && isLetters subtag

def isRegion (subtag : List Char) : Bool :=
  (subtag.length == 2 && isLetters subtag) || (subtag.length == 3 && subtag.all Text.isDigit)

/-- Five characters or more, or four of which the first is a digit. -/
def isVariant (subtag : List Char) : Bool :=
  isLettersOrDigits subtag &&
    (5 ≤ subtag.length ||
      (subtag.length == 4 && (subtag.head?.map Text.isDigit).getD false))

/-- The first of the later parts that a subtag can be. -/
def laterPart? (beforeScript beforeRegion : Bool) (subtag : List Char) : Option Stage :=
  if beforeScript && isScript subtag then some .script
  else if beforeRegion && isRegion subtag then some .region
  else if isVariant subtag then some .region
  else none

def step? (stage : Stage) (subtag : List Char) : Option Stage :=
  if subtag = [] ∨ 8 < subtag.length ∨ !isLettersOrDigits subtag then none
  else
    match stage with
    | .start =>
        if subtag = ['x'] ∨ subtag = ['X'] then some (.privateUse true)
        else if subtag.length < 2 ∨ !isLetters subtag then none
        else if subtag.length < 4 then some (.language 0)
        else some .extendedLanguage
    | .privateUse _ => some (.privateUse false)
    | .extension true =>
        if subtag.length = 1 then none else some (.extension false)
    | stage =>
        if subtag = ['x'] ∨ subtag = ['X'] then some (.privateUse true)
        else if subtag.length = 1 then some (.extension true)
        else
          match stage with
          | .language extensions =>
              if subtag.length = 3 ∧ isLetters subtag then
                if extensions < 3 then some (.language (extensions + 1)) else none
              else laterPart? true true subtag
          | .extendedLanguage => laterPart? true true subtag
          | .script => laterPart? false true subtag
          | .region => laterPart? false false subtag
          | .extension _ => some (.extension false)
          | _ => none

def Stage.isComplete : Stage → Bool
  | .start => false
  | .extension waiting => !waiting
  | .privateUse waiting => !waiting
  | _ => true

/-- Old tags that do not follow the rules. -/
def irregular : List String :=
  ["en-gb-oed", "i-ami", "i-bnn", "i-default", "i-enochian", "i-hak", "i-klingon", "i-lux",
    "i-mingo", "i-navajo", "i-pwn", "i-tao", "i-tay", "i-tsu", "sgn-be-fr", "sgn-be-nl",
    "sgn-ch-de"]

def isWellFormed (tag : String) : Bool :=
  irregular.contains (Text.lowerAscii tag) ||
    match (Reference.splitOnChar '-' tag.toList).foldlM step? Stage.start with
    | some stage => stage.isComplete
    | none => false

end RdfPipeline.Rdf.LanguageTag
