import RdfPipeline.Text.Ascii

/-!
# RDF terms and triples

Terms with their N-Triples texts. A blank node either has a label that a document gave it, or is
fresh, and then its number tells it from every other one.
-/

set_option autoImplicit false

namespace RdfPipeline.Rdf

structure Iri where
  text : String
  deriving DecidableEq, Repr

inductive BlankNode where
  | named (label : String)
  | fresh (index : Nat)
  deriving DecidableEq, Repr

/-- What a literal has beside its lexical form: a datatype, or a language tag in lower case. -/
inductive Annotation where
  | datatype (iri : Iri)
  | language (tag : String)
  deriving DecidableEq, Repr

structure Literal where
  lexical : String
  annotation : Annotation
  deriving DecidableEq, Repr

inductive Subject where
  | iri (iri : Iri)
  | blank (node : BlankNode)
  deriving DecidableEq, Repr

inductive Term where
  | iri (iri : Iri)
  | blank (node : BlankNode)
  | literal (literal : Literal)
  deriving DecidableEq, Repr

structure Triple where
  subject : Subject
  predicate : Iri
  object : Term
  deriving DecidableEq, Repr

/-! ## Names that the terms themselves need -/

def xsdNamespace : String := "http://www.w3.org/2001/XMLSchema#"

def rdfNamespace : String := "http://www.w3.org/1999/02/22-rdf-syntax-ns#"

def xsd (name : String) : Iri :=
  ⟨xsdNamespace ++ name⟩

def rdf (name : String) : Iri :=
  ⟨rdfNamespace ++ name⟩

/-! ## Views -/

def Subject.toTerm : Subject → Term
  | .iri name => .iri name
  | .blank node => .blank node

def Term.toSubject? : Term → Option Subject
  | .iri name => some (.iri name)
  | .blank node => some (.blank node)
  | .literal _ => none

def Term.isLiteral : Term → Bool
  | .literal _ => true
  | _ => false

def Term.asIri? : Term → Option Iri
  | .iri name => some name
  | _ => none

def Term.lexical? : Term → Option String
  | .literal value => some value.lexical
  | _ => none

namespace Literal

def plain (lexical : String) : Literal :=
  ⟨lexical, .datatype (xsd "string")⟩

def typed (lexical : String) (datatype : Iri) : Literal :=
  ⟨lexical, .datatype datatype⟩

def tagged (lexical tag : String) : Literal :=
  ⟨lexical, .language (Text.lowerAscii tag)⟩

def ofBool (value : Bool) : Literal :=
  typed (if value then "true" else "false") (xsd "boolean")

/-- Texts with a language tag have the datatype `rdf:langString`. -/
def datatype (literal : Literal) : Iri :=
  match literal.annotation with
  | .datatype iri => iri
  | .language _ => rdf "langString"

def language? (literal : Literal) : Option String :=
  match literal.annotation with
  | .datatype _ => none
  | .language tag => some tag

end Literal

/-! ## Texts -/

def Iri.toText (iri : Iri) : String :=
  "<" ++ iri.text ++ ">"

/-- The label under which a blank node is written. Fresh nodes have labels of one width, so that
they sort by their numbers. -/
def BlankNode.label : BlankNode → String
  | .named label => label
  | .fresh index => String.ofList ('f' :: (Text.upperHex 31 index).map Char.toLower)

def BlankNode.toText (node : BlankNode) : String :=
  "_:" ++ node.label

def escapeLiteralChar (c : Char) : List Char :=
  match c with
  | '\x08' => ['\\', 'b']
  | '\t' => ['\\', 't']
  | '\n' => ['\\', 'n']
  | '\x0c' => ['\\', 'f']
  | '\r' => ['\\', 'r']
  | '"' => ['\\', '"']
  | '\\' => ['\\', '\\']
  | c =>
      if c.toNat < 0x20 ∨ c.toNat = 0x7F then '\\' :: 'u' :: Text.upperHex 4 c.toNat else [c]

def quoteLiteral (lexical : String) : String :=
  String.ofList ('"' :: lexical.toList.flatMap escapeLiteralChar ++ ['"'])

/-- The datatype of plain texts is left out. -/
def Literal.toText (literal : Literal) : String :=
  match literal.annotation with
  | .language tag => quoteLiteral literal.lexical ++ "@" ++ tag
  | .datatype iri =>
      if iri = xsd "string" then quoteLiteral literal.lexical
      else quoteLiteral literal.lexical ++ "^^" ++ iri.toText

def Subject.toText : Subject → String
  | .iri name => name.toText
  | .blank node => node.toText

def Term.toText : Term → String
  | .iri name => name.toText
  | .blank node => node.toText
  | .literal value => value.toText

/-- A triple without the final dot. -/
def Triple.toText (triple : Triple) : String :=
  triple.subject.toText ++ " " ++ triple.predicate.toText ++ " " ++ triple.object.toText

/-- A term as people read it: IRIs bare, literals by their lexical form. -/
def Term.readable : Term → String
  | .iri name => name.text
  | .blank node => node.toText
  | .literal value => value.lexical

end RdfPipeline.Rdf
