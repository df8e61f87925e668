import RdfPipeline.Proofs.Rdf.Tokens
import RdfPipeline.Proofs.Rdf.Union

/-!
# Reading back what was written

A graph of valid terms is written with one line for each triple, and a reader of the text finds the
same triples, with the labels under which blank nodes are written, if all of them are legible. The
text of any other valid graph is refused as a whole: no graph is read as another one.
-/

set_option autoImplicit false

namespace RdfPipeline.Rdf

open Token (stream?)

/-! ## Tokens of terms -/

def Subject.token : Subject → Token
  | .iri name => .reference name.text
  | .blank node => .blankLabel node.label

def Annotation.tokens : Annotation → List Token
  | .language tag => [.language tag]
  | .datatype iri => if iri = xsd "string" then [] else [.carets, .reference iri.text]

def Term.tokens : Term → List Token
  | .iri name => [.reference name.text]
  | .blank node => [.blankLabel node.label]
  | .literal value => .string value.lexical :: value.annotation.tokens

def Triple.tokens (triple : Triple) : List Token :=
  triple.subject.token :: .reference triple.predicate.text :: triple.object.tokens ++ [.mark '.']

theorem stream_node {node : BlankNode} (valid : node.IsValid) (legible : node.IsLegible)
    (rest : List Char) :
    stream? (node.toText.toList ++ ' ' :: rest) =
      (stream? rest).map (.blankLabel node.label :: ·) := by
  have read := Token.stream_label valid.isLabel (BlankNode.isLegible_iff.mp legible) rest
  rw [String.ofList_toList] at read
  rw [BlankNode.toText, String.toList_append]
  exact read

theorem stream_illegible_node {node : BlankNode} (valid : node.IsValid)
    (illegible : ¬ node.IsLegible) {rest : List Char} {tokens : List Token}
    (read : stream? (node.toText.toList ++ rest) = some tokens) :
    ∃ kept more, tokens = .blankLabel kept :: .mark '.' :: .mark '.' :: more := by
  rw [BlankNode.toText, String.toList_append] at read
  exact Token.stream_illegible_label valid.isLabel (mt BlankNode.isLegible_iff.mpr illegible) read

theorem Subject.IsValid.stream {subject : Subject} (valid : subject.IsValid)
    (legible : subject.IsLegible) (rest : List Char) :
    stream? (subject.toText.toList ++ ' ' :: rest) = (stream? rest).map (subject.token :: ·) := by
  cases valid with
  | iri valid => exact Token.stream_iri valid (' ' :: rest)
  | blank valid => exact stream_node valid legible rest

theorem Subject.IsValid.stream_illegible {subject : Subject} (valid : subject.IsValid)
    (illegible : ¬ subject.IsLegible) {rest : List Char} {tokens : List Token}
    (read : stream? (subject.toText.toList ++ rest) = some tokens) :
    ∃ kept more, tokens = .blankLabel kept :: .mark '.' :: .mark '.' :: more := by
  cases valid with
  | iri => exact absurd trivial illegible
  | blank valid => exact stream_illegible_node valid illegible read

theorem stream_literal {value : Literal} (valid : value.annotation.IsValid)
    (legible : value.annotation.IsLegible) (rest : List Char) :
    stream? (value.toText.toList ++ ' ' :: rest) =
      (stream? rest).map (.string value.lexical :: value.annotation.tokens ++ ·) := by
  obtain ⟨lexical, annotation⟩ := value
  cases annotation with
  | language tag =>
      cases valid with
      | language wellFormed lower =>
          have divided := LanguageTag.isDivided_of_isWellFormed wellFormed lower
          have read : stream? ("@".toList ++ (tag.toList ++ ' ' :: rest)) = _ :=
            Token.stream_language divided wellFormed legible rest
          simp only [Literal.toText, String.toList_append, List.append_assoc]
          rw [Token.stream_quoteLiteral, read, Option.map_map]
          rfl
  | datatype iri =>
      simp only [Literal.toText, Annotation.tokens]
      split
      next => exact Token.stream_quoteLiteral lexical (' ' :: rest)
      next =>
        cases valid with
        | datatype valid =>
            have read : stream? ("^^".toList ++ (iri.toText.toList ++ ' ' :: rest)) = _ :=
              Token.stream_carets (iri.toText.toList ++ ' ' :: rest)
            simp only [String.toList_append, List.append_assoc]
            rw [Token.stream_quoteLiteral, read, Token.stream_iri valid, Token.stream_blank,
              Option.map_map, Option.map_map]
            rfl

theorem stream_illegible_literal {value : Literal} (valid : value.annotation.IsValid)
    (illegible : ¬ value.annotation.IsLegible) (rest : List Char) :
    stream? (value.toText.toList ++ rest) = none := by
  obtain ⟨lexical, annotation⟩ := value
  cases valid with
  | datatype => exact absurd trivial illegible
  | @language tag wellFormed lower =>
      have divided := LanguageTag.isDivided_of_isWellFormed wellFormed lower
      have digit := exists_digit_of_not_isLegible illegible
      have stops : stream? ("@".toList ++ (tag.toList ++ rest)) = _ :=
        Token.stream_illegible_language divided digit rest
      simp only [Literal.toText, String.toList_append, List.append_assoc]
      rw [Token.stream_quoteLiteral, stops, Option.map_none]

theorem Term.IsValid.stream {term : Term} (valid : term.IsValid) (legible : term.IsLegible)
    (rest : List Char) :
    stream? (term.toText.toList ++ ' ' :: rest) = (stream? rest).map (term.tokens ++ ·) := by
  cases valid with
  | iri valid => exact Token.stream_iri valid (' ' :: rest)
  | blank valid => exact stream_node valid legible rest
  | literal valid => exact stream_literal valid legible rest

theorem Term.IsValid.stream_illegible {term : Term} (valid : term.IsValid)
    (illegible : ¬ term.IsLegible) {rest : List Char} {tokens : List Token}
    (read : stream? (term.toText.toList ++ rest) = some tokens) :
    ∃ kept more, tokens = .blankLabel kept :: .mark '.' :: .mark '.' :: more := by
  cases valid with
  | iri => exact absurd trivial illegible
  | blank valid => exact stream_illegible_node valid illegible read
  | literal valid =>
      rw [Term.toText, stream_illegible_literal valid illegible rest] at read
      cases read

/-! ## Lines -/

/-- The line of a triple with its end. -/
def Triple.line (triple : Triple) : List Char :=
  (triple.toText ++ " ." ++ "\n").toList

theorem Triple.line_append (triple : Triple) (rest : List Char) :
    triple.line ++ rest = triple.subject.toText.toList ++ ' ' ::
      (triple.predicate.toText.toList ++ ' ' ::
        (triple.object.toText.toList ++ ' ' :: '.' :: '\n' :: rest)) := by
  simp [Triple.line, Triple.toText]

variable {triple : Triple}

theorem stream_end (rest : List Char) :
    stream? ('.' :: '\n' :: rest) = (stream? rest).map ([.mark '.', .lineEnd] ++ ·) := by
  rw [Token.stream_dot, Token.stream_lineEnd, Option.map_map]
  rfl

theorem Triple.IsValid.stream (valid : triple.IsValid) (legible : triple.IsLegible)
    (rest : List Char) :
    stream? (triple.line ++ rest) = (stream? rest).map (triple.tokens ++ .lineEnd :: ·) := by
  rw [Triple.line_append, valid.subject.stream legible.1, Token.stream_iri valid.predicate,
    Token.stream_blank, valid.object.stream legible.2, stream_end]
  simp only [Option.map_map]
  congr 1
  funext tokens
  simp [Triple.tokens]

namespace NTriples

theorem readIri_reference {iri : Iri} (valid : iri.IsValid) :
    readIri? (.reference iri.text) = some iri :=
  valid

theorem readSubject_reference {iri : Iri} (valid : iri.IsValid) :
    readSubject? (.reference iri.text) = some (.iri iri) := by
  simp only [readSubject?, readIri_reference valid, Option.map_some]

theorem readSubject_token {subject : Subject} (valid : subject.IsValid) :
    readSubject? subject.token = some subject.labelled := by
  cases valid with
  | iri valid => exact readSubject_reference valid
  | blank => rfl

theorem readObject_tokens {object : Term} (valid : object.IsValid) :
    readObject? (object.tokens ++ [.mark '.']) = some (object.labelled, [.mark '.']) := by
  cases valid with
  | iri valid =>
      simp only [Term.tokens, List.cons_append, List.nil_append, readObject?,
        readSubject_reference valid, Option.map_some]
      rfl
  | blank => rfl
  | @literal value valid =>
      obtain ⟨lexical, annotation⟩ := value
      cases valid with
      | @datatype iri valid =>
          simp only [Term.tokens, Annotation.tokens]
          split
          next plain =>
            rw [plain]
            rfl
          next =>
            simp only [List.cons_append, List.nil_append, readObject?, readIri_reference valid,
              Option.map_some]
            rfl
      | @language tag wellFormed lower =>
          simp only [Term.tokens, Annotation.tokens, List.cons_append, List.nil_append, readObject?,
            Literal.tagged, lower]
          rfl

theorem readLine_tokens (valid : triple.IsValid) :
    readLine? triple.tokens = some [triple.labelled] := by
  simp only [readLine?, Triple.tokens, List.cons_append, readSubject_token valid.subject,
    readIri_reference valid.predicate, readObject_tokens valid.object, Option.bind_eq_bind,
    Option.bind_some]
  rfl

/-! ## Lines of tokens -/

theorem splitLines_ne_nil (tokens : List Token) : splitLines tokens ≠ [] := by
  cases tokens with
  | nil => exact List.cons_ne_nil _ _
  | cons token rest =>
      rw [splitLines]
      split
      next => exact List.cons_ne_nil _ _
      next => split <;> exact List.cons_ne_nil _ _

/-- Tokens that stand on one line are the beginning of the first line. -/
theorem splitLines_append {front : List Token} (oneLine : Token.lineEnd ∉ front)
    (rest : List Token) :
    ∃ line lines, splitLines rest = line :: lines ∧
      splitLines (front ++ rest) = (front ++ line) :: lines := by
  induction front with
  | nil =>
      cases lines : splitLines rest with
      | nil => exact absurd lines (splitLines_ne_nil rest)
      | cons line later => exact ⟨line, later, rfl, lines⟩
  | cons token front ih =>
      rw [List.mem_cons, not_or] at oneLine
      obtain ⟨line, lines, ofRest, whole⟩ := ih oneLine.2
      refine ⟨line, lines, ofRest, ?_⟩
      rw [List.cons_append, splitLines, if_neg (Ne.symm oneLine.1), whole]
      rfl

theorem splitLines_lineEnd {line : List Token} (oneLine : Token.lineEnd ∉ line)
    (rest : List Token) : splitLines (line ++ .lineEnd :: rest) = line :: splitLines rest := by
  obtain ⟨first, lines, ofRest, whole⟩ := splitLines_append oneLine (.lineEnd :: rest)
  rw [splitLines, if_pos rfl] at ofRest
  cases ofRest
  rw [whole, List.append_nil]

theorem lineEnd_ne_subjectToken (subject : Subject) : Token.lineEnd ≠ subject.token := by
  cases subject <;> exact Token.noConfusion

theorem lineEnd_not_mem_objectTokens (object : Term) : Token.lineEnd ∉ object.tokens := by
  cases object with
  | iri => simp [Term.tokens]
  | blank => simp [Term.tokens]
  | literal value =>
      cases form : value.annotation with
      | language => simp [Term.tokens, form, Annotation.tokens]
      | datatype =>
          simp only [Term.tokens, form, Annotation.tokens]
          split <;> simp

theorem lineEnd_not_mem_tokens (triple : Triple) : Token.lineEnd ∉ triple.tokens := by
  simp [Triple.tokens, lineEnd_ne_subjectToken, lineEnd_not_mem_objectTokens]

/-! ## Texts -/

def lines? (chars : List Char) : Option (List (List Triple)) :=
  (stream? chars).bind fun tokens => (splitLines tokens).mapM readLine?

theorem parse_eq (text : String) :
    parse? text = (lines? text.toList).map fun lines => Graph.ofList lines.flatten := by
  simp only [parse?, lines?, stream?]
  cases Token.nTriplesTokens? (text.toList.length + 1) text.toList with
  | none => rfl
  | some tokens =>
      simp only [Option.bind_eq_bind, Option.bind_some]
      cases (splitLines tokens).mapM readLine? <;> rfl

theorem lines_of_legible (valid : triple.IsValid) (legible : triple.IsLegible)
    (rest : List Char) :
    lines? (triple.line ++ rest) = (lines? rest).map ([triple.labelled] :: ·) := by
  unfold lines?
  rw [valid.stream legible]
  cases stream? rest with
  | none => rfl
  | some tokens =>
      simp only [Option.map_some, Option.bind_some]
      rw [splitLines_lineEnd (lineEnd_not_mem_tokens triple), List.mapM_cons, readLine_tokens valid]
      cases (splitLines tokens).mapM readLine? <;> rfl

theorem mapM_readLine_of_refused (front more : List Token) (oneLine : Token.lineEnd ∉ front)
    (refused : ∀ line, readLine? (front ++ line) = none) :
    (splitLines (front ++ more)).mapM readLine? = none := by
  obtain ⟨line, lines, -, whole⟩ := splitLines_append oneLine more
  rw [whole, List.mapM_cons, refused]
  rfl

/-- A line with two dots behind its first label is refused. -/
theorem mapM_readLine_of_subject (kept : String) (more : List Token) :
    (splitLines (.blankLabel kept :: .mark '.' :: .mark '.' :: more)).mapM readLine? = none := by
  apply mapM_readLine_of_refused [.blankLabel kept, .mark '.', .mark '.'] more
  case oneLine => simp
  case refused => exact fun _ => rfl

/-- So is one with two dots behind the label that is its object. -/
theorem mapM_readLine_of_object (valid : triple.IsValid) (kept : String) (more : List Token) :
    (splitLines (triple.subject.token :: .reference triple.predicate.text :: .blankLabel kept ::
      .mark '.' :: .mark '.' :: more)).mapM readLine? = none := by
  apply mapM_readLine_of_refused [triple.subject.token, .reference triple.predicate.text,
    .blankLabel kept, .mark '.', .mark '.'] more
  case oneLine => simp [lineEnd_ne_subjectToken]
  case refused =>
    intro line
    have object : readObject? (.blankLabel kept :: .mark '.' :: .mark '.' :: line) =
        some (.blank (.named kept), .mark '.' :: .mark '.' :: line) := rfl
    simp only [List.cons_append, List.nil_append, readLine?, readSubject_token valid.subject,
      readIri_reference valid.predicate, object, Option.bind_eq_bind, Option.bind_some]
    exact if_neg (by simp)

theorem lines_of_illegible (valid : triple.IsValid) (illegible : ¬ triple.IsLegible)
    (rest : List Char) : lines? (triple.line ++ rest) = none := by
  unfold lines?
  rw [Triple.line_append]
  by_cases subjectLegible : triple.subject.IsLegible
  · have objectIllegible : ¬ triple.object.IsLegible :=
      fun legible => illegible ⟨subjectLegible, legible⟩
    rw [valid.subject.stream subjectLegible, Token.stream_iri valid.predicate, Token.stream_blank]
    cases read : stream? (triple.object.toText.toList ++ ' ' :: '.' :: '\n' :: rest) with
    | none => rfl
    | some tokens =>
        obtain ⟨kept, more, rfl⟩ := valid.object.stream_illegible objectIllegible read
        exact mapM_readLine_of_object valid kept more
  · cases read : stream? (triple.subject.toText.toList ++ ' ' :: (triple.predicate.toText.toList ++
      ' ' :: (triple.object.toText.toList ++ ' ' :: '.' :: '\n' :: rest))) with
    | none => rfl
    | some tokens =>
        obtain ⟨kept, more, rfl⟩ := valid.subject.stream_illegible subjectLegible read
        exact mapM_readLine_of_subject kept more

theorem lines_of_all_legible {triples : List Triple} (valid : ∀ triple ∈ triples, triple.IsValid)
    (legible : ∀ triple ∈ triples, triple.IsLegible) :
    lines? (triples.flatMap Triple.line) =
      some (triples.map (fun triple => [triple.labelled]) ++ [[]]) := by
  induction triples with
  | nil => rfl
  | cons first rest ih =>
      have later := ih (fun triple member => valid triple (List.mem_cons_of_mem _ member))
        (fun triple member => legible triple (List.mem_cons_of_mem _ member))
      rw [List.flatMap_cons, lines_of_legible (valid first List.mem_cons_self)
        (legible first List.mem_cons_self), later]
      rfl

theorem lines_of_some_illegible {triples : List Triple}
    (valid : ∀ triple ∈ triples, triple.IsValid)
    (illegible : ∃ triple ∈ triples, ¬ triple.IsLegible) :
    lines? (triples.flatMap Triple.line) = none := by
  induction triples with
  | nil =>
      obtain ⟨triple, member, -⟩ := illegible
      cases member
  | cons first rest ih =>
      rw [List.flatMap_cons]
      by_cases legible : first.IsLegible
      · have later : ∃ triple ∈ rest, ¬ triple.IsLegible := by
          obtain ⟨triple, member, unread⟩ := illegible
          rcases List.mem_cons.mp member with rfl | member
          · exact absurd legible unread
          · exact ⟨triple, member, unread⟩
        rw [lines_of_legible (valid first List.mem_cons_self) legible,
          ih (fun triple member => valid triple (List.mem_cons_of_mem _ member)) later]
        rfl
      · exact lines_of_illegible (valid first List.mem_cons_self) legible _

end NTriples

/-! ## Documents -/

namespace Graph

variable {graph : Graph}

theorem toNTriples_toList (graph : Graph) :
    graph.toNTriples.toList = graph.triples.flatMap Triple.line := by
  rw [toNTriples, String.toList_join, List.flatMap_map, lines, List.flatMap_map]
  rfl

theorem parse_of_legible (valid : graph.IsValid) (legible : graph.IsLegible) :
    NTriples.parse? graph.toNTriples = some (ofList (graph.triples.map Triple.labelled)) := by
  have together : (graph.triples.map (fun triple : Triple => [triple.labelled]) ++ [[]]).flatten =
      graph.triples.map Triple.labelled := by
    rw [List.flatten_append, ← List.flatMap_def, ← List.map_eq_flatMap]
    exact List.append_nil _
  rw [NTriples.parse_eq, toNTriples_toList, NTriples.lines_of_all_legible valid legible,
    Option.map_some, together]

theorem parse_of_illegible (valid : graph.IsValid) (illegible : ¬ graph.IsLegible) :
    NTriples.parse? graph.toNTriples = none := by
  have unread := exists_of_not_isLegible illegible
  rw [NTriples.parse_eq, toNTriples_toList, NTriples.lines_of_some_illegible valid unread]
  rfl

end Graph

/-! ## Line ends -/

theorem lineEnd_not_mem_iri {iri : Iri} (valid : iri.IsValid) : '\n' ∉ iri.toText.toList := by
  intro member
  simp only [Iri.toText, String.toList_append, List.mem_append] at member
  rcases member with (opening | inside) | closing
  · exact absurd opening (by decide)
  · exact absurd (Iri.hasReferenceChars_of_parse valid _ inside) (by decide)
  · exact absurd closing (by decide)

theorem lineEnd_not_mem_node {node : BlankNode} (valid : node.IsValid) :
    '\n' ∉ node.toText.toList := by
  intro member
  simp only [BlankNode.toText, String.toList_append, List.mem_append] at member
  rcases member with opening | inside
  · exact absurd opening (by decide)
  · exact absurd (valid.isLabel.each _ inside) (by decide)

theorem lineEnd_not_mem_upperHex : ∀ code < 0x80, '\n' ∉ Text.upperHex 4 code := by
  decide

theorem lineEnd_not_mem_escapeLiteralChar (c : Char) : '\n' ∉ escapeLiteralChar c := by
  unfold escapeLiteralChar
  split
  case h_8 _ _ _ noLineEnd _ _ _ _ =>
    split
    next control =>
      have digits := lineEnd_not_mem_upperHex c.toNat (by omega)
      simp [digits]
    next =>
      rw [List.mem_singleton]
      exact Ne.symm noLineEnd
  all_goals decide

theorem lineEnd_not_mem_quoteLiteral (lexical : String) :
    '\n' ∉ (quoteLiteral lexical).toList := by
  simp [quoteLiteral, lineEnd_not_mem_escapeLiteralChar]

theorem lineEnd_not_mem_literal {value : Literal} (valid : value.annotation.IsValid) :
    '\n' ∉ value.toText.toList := by
  obtain ⟨lexical, annotation⟩ := value
  have quoted := lineEnd_not_mem_quoteLiteral lexical
  cases valid with
  | @datatype iri valid =>
      simp only [Literal.toText]
      split
      next => exact quoted
      next => simp [quoted, lineEnd_not_mem_iri valid]
  | @language tag wellFormed lower =>
      have divided := LanguageTag.isDivided_of_isWellFormed wellFormed lower
      have inTag : '\n' ∉ tag.toList := fun member => absurd (divided.cases_mem member) (by decide)
      simp [Literal.toText, quoted, inTag]

theorem lineEnd_not_mem_subject {subject : Subject} (valid : subject.IsValid) :
    '\n' ∉ subject.toText.toList := by
  cases valid with
  | iri valid => exact lineEnd_not_mem_iri valid
  | blank valid => exact lineEnd_not_mem_node valid

theorem lineEnd_not_mem_object {object : Term} (valid : object.IsValid) :
    '\n' ∉ object.toText.toList := by
  cases valid with
  | iri valid => exact lineEnd_not_mem_iri valid
  | blank valid => exact lineEnd_not_mem_node valid
  | literal valid => exact lineEnd_not_mem_literal valid

theorem Triple.IsValid.count_lineEnd (valid : triple.IsValid) : triple.line.count '\n' = 1 := by
  have inSubject := List.count_eq_zero.mpr (lineEnd_not_mem_subject valid.subject)
  have inPredicate := List.count_eq_zero.mpr (lineEnd_not_mem_iri valid.predicate)
  have inObject := List.count_eq_zero.mpr (lineEnd_not_mem_object valid.object)
  have written := triple.line_append []
  rw [List.append_nil] at written
  rw [written]
  simp [List.count_append, inSubject, inPredicate, inObject]

namespace Graph

theorem count_lineEnd {graph : Graph} (valid : graph.IsValid) :
    graph.toNTriples.toList.count '\n' = graph.size := by
  have each : ∀ triples : List Triple, (∀ triple ∈ triples, triple.IsValid) →
      (triples.flatMap Triple.line).count '\n' = triples.length := by
    intro triples valid
    induction triples with
    | nil => rfl
    | cons first rest ih =>
        rw [List.flatMap_cons, List.count_append, (valid first List.mem_cons_self).count_lineEnd,
          ih fun triple member => valid triple (List.mem_cons_of_mem _ member), List.length_cons,
          Nat.add_comm]
  rw [toNTriples_toList]
  exact each graph.triples valid

/-- The triples are read back, with the labels under which their nodes are written. -/
theorem parseDocument_of_legible {graph : Graph} (valid : graph.IsValid)
    (legible : graph.IsLegible) (supply : Nat) :
    ∃ parsed, parseDocument .nTriples supply graph.toNTriples = .ok (parsed, supply) ∧
      (∀ triple, triple ∈ parsed ↔ ∃ original ∈ graph, original.labelled = triple) ∧
      (graph.HasLabels → parsed = graph) := by
  refine ⟨ofList (graph.triples.map Triple.labelled), ?_, ?_, ?_⟩
  · rw [parseDocument, parse_of_legible valid legible]
  · intro triple
    rw [mem_ofList_iff, List.mem_map]
    rfl
  · intro labels
    have same : graph.triples.map Triple.labelled = graph.triples :=
      (List.map_congr_left labels).trans (List.map_id graph.triples)
    rw [same, ofList_triples]

theorem parseDocument_of_illegible {graph : Graph} (valid : graph.IsValid)
    (illegible : ¬ graph.IsLegible) (supply : Nat) :
    parseDocument .nTriples supply graph.toNTriples =
      .error (.rdfParse TextFormat.nTriples.complaint) := by
  rw [parseDocument, parse_of_illegible valid illegible]

end Graph

end RdfPipeline.Rdf
