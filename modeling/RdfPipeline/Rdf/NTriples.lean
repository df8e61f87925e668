import RdfPipeline.Rdf.Graph
import RdfPipeline.Rdf.Token

/-!
# Reading N-Triples

One triple a line, made of absolute IRIs, labelled blank nodes and quoted literals.
-/

set_option autoImplicit false

namespace RdfPipeline.Rdf.NTriples

def readIri? : Token → Option Iri
  | .reference text => Iri.parse? text
  | _ => none

def readSubject? : Token → Option Subject
  | .blankLabel label => some (.blank (.named label))
  | token => (readIri? token).map .iri

/-- The object at the front of the tokens, with the tokens after it. -/
def readObject? : List Token → Option (Term × List Token)
  | .string text :: .language tag :: rest => some (.literal (.tagged text tag), rest)
  | .string text :: .carets :: token :: rest =>
      (readIri? token).map fun datatype => (.literal (.typed text datatype), rest)
  | .string _ :: .carets :: [] => none
  | .string text :: rest => some (.literal (.plain text), rest)
  | token :: rest => (readSubject? token).map fun subject => (subject.toTerm, rest)
  | [] => none

/-- The triple of one line, or nothing on a line without tokens. -/
def readLine? : List Token → Option (List Triple)
  | [] => some []
  | subject :: predicate :: rest => do
      let subject ← readSubject? subject
      let predicate ← readIri? predicate
      let (object, rest) ← readObject? rest
      if rest = [.mark '.'] then some [⟨subject, predicate, object⟩] else none
  | _ => none

def splitLines : List Token → List (List Token)
  | [] => [[]]
  | token :: rest =>
      if token = .lineEnd then [] :: splitLines rest
      else
        match splitLines rest with
        | line :: lines => (token :: line) :: lines
        | [] => [[token]]

def parse? (text : String) : Option Graph := do
  let chars := text.toList
  let tokens ← Token.nTriplesTokens? (chars.length + 1) chars
  let lines ← (splitLines tokens).mapM readLine?
  some (Graph.ofList lines.flatten)

end RdfPipeline.Rdf.NTriples
