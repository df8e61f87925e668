import RdfPipeline.Rdf.Graph
import RdfPipeline.Rdf.Token

/-!
# Reading Turtle

Statements of a Turtle document, read from its tokens. Blank nodes without a label are fresh ones,
numbered from a supply that the caller passes on from document to document.
-/

set_option autoImplicit false

namespace RdfPipeline.Rdf.Turtle

/-- What has been declared and found so far, and the tokens ahead. -/
structure State where
  base : Option Iri
  namespaces : List (String × String)
  supply : Nat
  graph : Graph
  tokens : List Token

/-- A step of the reader, which may refuse the document. -/
abbrev Reader := StateT State Option

def refuse {α : Type} : Reader α :=
  StateT.lift none

def peek : Reader (Option Token) := do
  return (← get).tokens.head?

def advance : Reader Unit :=
  modify fun state => { state with tokens := state.tokens.tail }

def expect (token : Token) : Reader Unit := do
  if (← peek) = some token then advance else refuse

def freshNode : Reader BlankNode := do
  let state ← get
  set { state with supply := state.supply + 1 }
  return .fresh state.supply

def emit (subject : Subject) (predicate : Iri) (object : Term) : Reader Unit :=
  modify fun state => { state with graph := state.graph.insert ⟨subject, predicate, object⟩ }

/-- The IRI of a reference, seen from the base if one was declared. -/
def resolveReference (text : String) : Reader Iri := do
  let resolved :=
    match (← get).base with
    | some base => Iri.resolve? base text
    | none => Iri.parse? text
  match resolved with
  | some iri => return iri
  | none => refuse

/-- The IRI of a name whose namespace was declared. -/
def resolveQualified (label localPart : String) : Reader Iri := do
  match (← get).namespaces.lookup label with
  | some start =>
      match Iri.parse? (start ++ localPart) with
      | some iri => return iri
      | none => refuse
  | none => refuse

def readIri : Reader Iri := do
  match ← peek with
  | some (.reference text) => advance; resolveReference text
  | some (.qualified label localPart) => advance; resolveQualified label localPart
  | _ => refuse

def readPredicate : Reader Iri := do
  match ← peek with
  | some (.word "a") => advance; return rdf "type"
  | _ => readIri

/-- What may follow a quoted text: a language or a datatype. -/
def readLiteralEnd (text : String) : Reader Literal := do
  match ← peek with
  | some (.language tag) => advance; return .tagged text tag
  | some .carets => advance; return .typed text (← readIri)
  | _ => return .plain text

mutual

/-- The object of a triple; each call takes one of `fuel`. -/
def readObject : Nat → Reader Term
  | 0 => refuse
  | fuel + 1 => do
      match ← peek with
      | some (.mark '[') => advance; return .blank (← readProperties fuel)
      | some (.mark '(') => advance; return (← readCollection fuel).toTerm
      | some (.blankLabel label) => advance; return .blank (.named label)
      | some (.string text) => advance; return .literal (← readLiteralEnd text)
      | some (.integer text) => advance; return .literal (.typed text (xsd "integer"))
      | some (.decimal text) => advance; return .literal (.typed text (xsd "decimal"))
      | some (.double text) => advance; return .literal (.typed text (xsd "double"))
      | some (.word "true") => advance; return .literal (.ofBool true)
      | some (.word "false") => advance; return .literal (.ofBool false)
      | _ => return .iri (← readIri)

/-- A blank node with its properties, after the opening bracket. -/
def readProperties : Nat → Reader BlankNode
  | 0 => refuse
  | fuel + 1 => do
      let node ← freshNode
      match ← peek with
      | some (.mark ']') => advance
      | _ => do
          readPredicates fuel (.blank node)
          expect (.mark ']')
      return node

/-- A collection, after the opening parenthesis. -/
def readCollection : Nat → Reader Subject
  | 0 => refuse
  | fuel + 1 => do
      match ← peek with
      | some (.mark ')') => advance; return .iri (rdf "nil")
      | _ =>
          let node ← freshNode
          let item ← readObject fuel
          emit (.blank node) (rdf "first") item
          let rest ← readCollection fuel
          emit (.blank node) (rdf "rest") rest.toTerm
          return .blank node

/-- Predicates with their objects, divided by semicolons of which some may be superfluous. -/
def readPredicates : Nat → Subject → Reader Unit
  | 0, _ => refuse
  | fuel + 1, subject => do
      let predicate ← readPredicate
      readObjects fuel subject predicate
      readMorePredicates fuel subject

def readMorePredicates : Nat → Subject → Reader Unit
  | 0, _ => refuse
  | fuel + 1, subject => do
      match ← peek with
      | some (.mark ';') => do
          advance
          match ← peek with
          | some (.mark ';') => readMorePredicates fuel subject
          | some (.mark '.') => return ()
          | some (.mark ']') => return ()
          | _ => readPredicates fuel subject
      | _ => return ()

def readObjects : Nat → Subject → Iri → Reader Unit
  | 0, _, _ => refuse
  | fuel + 1, subject, predicate => do
      let object ← readObject fuel
      emit subject predicate object
      match ← peek with
      | some (.mark ',') => advance; readObjects fuel subject predicate
      | _ => return ()

end

/-- A subject with its predicates. Only a node with properties of its own may stand alone. -/
def readTriples (fuel : Nat) : Reader Unit := do
  match ← peek with
  | some (.mark '[') =>
      advance
      match ← peek with
      | some (.mark ']') => do
          let node ← readProperties fuel
          readPredicates fuel (.blank node)
      | _ => do
          let node ← readProperties fuel
          match ← peek with
          | some (.mark '.') => return ()
          | _ => readPredicates fuel (.blank node)
  | some (.mark '(') => do
      advance
      let subject ← readCollection fuel
      readPredicates fuel subject
  | some (.blankLabel label) => do
      advance
      readPredicates fuel (.blank (.named label))
  | _ => do
      let subject ← readIri
      readPredicates fuel (.iri subject)

/-- A namespace declaration after its keyword. -/
def readNamespace : Reader Unit := do
  match ← peek with
  | some (.qualified label "") => do
      advance
      match ← peek with
      | some (.reference text) => do
          advance
          let start ← resolveReference text
          modify fun state => { state with namespaces := (label, start.text) :: state.namespaces }
      | _ => refuse
  | _ => refuse

/-- A base declaration after its keyword. -/
def readBase : Reader Unit := do
  match ← peek with
  | some (.reference text) => do
      advance
      let base ← resolveReference text
      modify fun state => { state with base := some base }
  | _ => refuse

def readStatement (fuel : Nat) : Reader Unit := do
  match ← peek with
  | some (.language "prefix") => advance; readNamespace; expect (.mark '.')
  | some (.language "base") => advance; readBase; expect (.mark '.')
  | some (.word text) =>
      if Text.lowerAscii text = "prefix" then do advance; readNamespace
      else if Text.lowerAscii text = "base" then do advance; readBase
      else refuse
  | _ => readTriples fuel; expect (.mark '.')

/-- Statements up to the end; each one takes at least one of `fuel` tokens. -/
def readStatements : Nat → Reader Unit
  | 0 => refuse
  | fuel + 1 => do
      match ← peek with
      | none => return ()
      | some _ => readStatement (4 * (← get).tokens.length + 8); readStatements fuel

/-- The graph of a document and the supply of fresh nodes that is left. -/
def parse? (supply : Nat) (text : String) : Option (Graph × Nat) := do
  let chars := text.toList
  let tokens ← Token.turtleTokens? (chars.length + 1) chars
  let start : State :=
    { base := none, namespaces := [], supply, graph := Graph.empty, tokens }
  let (_, state) ← (readStatements (tokens.length + 1)).run start
  some (state.graph, state.supply)

end RdfPipeline.Rdf.Turtle
