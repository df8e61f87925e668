import RdfPipeline.Proofs.Rdf.IriCharacters
import RdfPipeline.Rdf.Graph
import RdfPipeline.Rdf.Token
import Mathlib.Data.List.Infix

/-!
# Valid terms

What identifiers, labels of blank nodes and language tags have to look like. A valid term is legible
if its label or tag is one word for a reader of N-Triples: the reader's labels hold no colons and no
dots side by side, and its tags no digits.
-/

set_option autoImplicit false

namespace RdfPipeline.Rdf

/-! ## Valid terms -/

def Iri.IsValid (iri : Iri) : Prop :=
  Iri.parse? iri.text = some iri

def isLabelStart (c : Char) : Bool :=
  Token.isNameStartOrUnderscore c || Text.isDigit c || c == ':'

def isLabelChar (c : Char) : Bool :=
  Token.isNameChar c || c == ':'

/-- What a label in the language of N-Triples looks like from any place in it on. -/
structure IsLabelEnd (label : List Char) : Prop where
  each : ∀ c ∈ label, isLabelChar c = true ∨ c = '.'
  last : label.getLast? ≠ some '.'

structure IsLabel (label : List Char) : Prop extends IsLabelEnd label where
  first : ∃ c ∈ label.head?, isLabelStart c = true

/-- Fresh nodes make their own labels. -/
inductive BlankNode.IsValid : BlankNode → Prop where
  | named {label : String} (isLabel : IsLabel label.toList) : IsValid (.named label)
  | fresh {index : Nat} : IsValid (.fresh index)

inductive Annotation.IsValid : Annotation → Prop where
  | datatype {iri : Iri} (valid : iri.IsValid) : IsValid (.datatype iri)
  | language {tag : String} (wellFormed : LanguageTag.isWellFormed tag = true)
      (lower : Text.lowerAscii tag = tag) : IsValid (.language tag)

inductive Subject.IsValid : Subject → Prop where
  | iri {iri : Iri} (valid : iri.IsValid) : IsValid (.iri iri)
  | blank {node : BlankNode} (valid : node.IsValid) : IsValid (.blank node)

/-- The lexical form of a literal may be any text. -/
inductive Term.IsValid : Term → Prop where
  | iri {iri : Iri} (valid : iri.IsValid) : IsValid (.iri iri)
  | blank {node : BlankNode} (valid : node.IsValid) : IsValid (.blank node)
  | literal {literal : Literal} (valid : literal.annotation.IsValid) : IsValid (.literal literal)

structure Triple.IsValid (triple : Triple) : Prop where
  subject : triple.subject.IsValid
  predicate : triple.predicate.IsValid
  object : triple.object.IsValid

def Graph.IsValid (graph : Graph) : Prop :=
  ∀ triple ∈ graph, triple.IsValid

/-! ## Legible terms -/

structure IsLegibleLabel (label : List Char) : Prop where
  noColon : ':' ∉ label
  dotsApart : ¬ ['.', '.'] <:+: label

def BlankNode.IsLegible : BlankNode → Prop
  | .named label => IsLegibleLabel label.toList
  | .fresh _ => True

def Annotation.IsLegible : Annotation → Prop
  | .datatype _ => True
  | .language tag => ∀ c ∈ tag.toList, Text.isDigit c = false

def Subject.IsLegible : Subject → Prop
  | .iri _ => True
  | .blank node => node.IsLegible

def Term.IsLegible : Term → Prop
  | .iri _ => True
  | .blank node => node.IsLegible
  | .literal value => value.annotation.IsLegible

def Triple.IsLegible (triple : Triple) : Prop :=
  triple.subject.IsLegible ∧ triple.object.IsLegible

def Graph.IsLegible (graph : Graph) : Prop :=
  ∀ triple ∈ graph, triple.IsLegible

theorem exists_digit_of_not_isLegible {tag : String}
    (illegible : ¬ Annotation.IsLegible (.language tag)) :
    ∃ c ∈ tag.toList, Text.isDigit c = true := by
  simpa only [not_forall, Annotation.IsLegible, exists_prop, Bool.not_eq_false] using illegible

theorem Graph.exists_of_not_isLegible {graph : Graph} (illegible : ¬ graph.IsLegible) :
    ∃ triple ∈ graph, ¬ triple.IsLegible := by
  simpa only [IsLegible, not_forall, exists_prop] using illegible

/-! ## Deciding validity and legibility -/

instance (iri : Iri) : Decidable iri.IsValid :=
  inferInstanceAs (Decidable (Iri.parse? iri.text = some iri))

-- Statements about the characters of a text are decided along the text, not for every character.

instance (label : List Char) : Decidable (IsLabelEnd label) :=
  decidable_of_iff
    ((label.all fun c => isLabelChar c || c == '.') = true ∧ label.getLast? ≠ some '.') <| by
      simp only [List.all_eq_true, Bool.or_eq_true, beq_iff_eq]
      exact ⟨fun ⟨each, last⟩ => ⟨each, last⟩, fun isEnd => ⟨isEnd.each, isEnd.last⟩⟩

instance (label : List Char) : Decidable (IsLabel label) :=
  decidable_of_iff (IsLabelEnd label ∧ label.head?.any isLabelStart = true) <| by
    rw [Option.any_eq_true]
    exact ⟨fun ⟨isEnd, first⟩ => ⟨isEnd, first⟩,
      fun isLabel => ⟨isLabel.toIsLabelEnd, isLabel.first⟩⟩

instance : (node : BlankNode) → Decidable node.IsValid
  | .named label =>
      decidable_of_iff (IsLabel label.toList) ⟨.named, fun | .named isLabel => isLabel⟩
  | .fresh _ => .isTrue .fresh

instance : ( annotation : Annotation) → Decidable annotation.IsValid
  | .datatype iri => decidable_of_iff iri.IsValid ⟨.datatype, fun | .datatype valid => valid⟩
  | .language tag =>
      decidable_of_iff (LanguageTag.isWellFormed tag = true ∧ Text.lowerAscii tag = tag)
        ⟨fun ⟨wellFormed, lower⟩ => .language wellFormed lower,
          fun | .language wellFormed lower => ⟨wellFormed, lower⟩⟩

instance : (subject : Subject) → Decidable subject.IsValid
  | .iri iri => decidable_of_iff iri.IsValid ⟨.iri, fun | .iri valid => valid⟩
  | .blank node => decidable_of_iff node.IsValid ⟨.blank, fun | .blank valid => valid⟩

instance : (term : Term) → Decidable term.IsValid
  | .iri iri => decidable_of_iff iri.IsValid ⟨.iri, fun | .iri valid => valid⟩
  | .blank node => decidable_of_iff node.IsValid ⟨.blank, fun | .blank valid => valid⟩
  | .literal value =>
      decidable_of_iff value.annotation.IsValid ⟨.literal, fun | .literal valid => valid⟩

instance (triple : Triple) : Decidable triple.IsValid :=
  decidable_of_iff
    (triple.subject.IsValid ∧ triple.predicate.IsValid ∧ triple.object.IsValid)
    ⟨fun ⟨subject, predicate, object⟩ => ⟨subject, predicate, object⟩,
      fun valid => ⟨valid.subject, valid.predicate, valid.object⟩⟩

instance (graph : Graph) : Decidable graph.IsValid :=
  inferInstanceAs (Decidable (∀ triple ∈ graph.triples, triple.IsValid))

instance (label : List Char) : Decidable (IsLegibleLabel label) :=
  decidable_of_iff (':' ∉ label ∧ ¬ ['.', '.'] <:+: label)
    ⟨fun ⟨noColon, dotsApart⟩ => ⟨noColon, dotsApart⟩,
      fun legible => ⟨legible.noColon, legible.dotsApart⟩⟩

instance : (node : BlankNode) → Decidable node.IsLegible
  | .named label => inferInstanceAs (Decidable (IsLegibleLabel label.toList))
  | .fresh _ => .isTrue trivial

instance : ( annotation : Annotation) → Decidable annotation.IsLegible
  | .datatype _ => .isTrue trivial
  | .language tag =>
      decidable_of_iff ((tag.toList.all fun c => !Text.isDigit c) = true) <| by
        simp only [List.all_eq_true, Bool.not_eq_true', Annotation.IsLegible]

instance : (subject : Subject) → Decidable subject.IsLegible
  | .iri _ => .isTrue trivial
  | .blank node => inferInstanceAs (Decidable node.IsLegible)

instance : (term : Term) → Decidable term.IsLegible
  | .iri _ => .isTrue trivial
  | .blank node => inferInstanceAs (Decidable node.IsLegible)
  | .literal value => inferInstanceAs (Decidable value.annotation.IsLegible)

instance (triple : Triple) : Decidable triple.IsLegible :=
  inferInstanceAs (Decidable (triple.subject.IsLegible ∧ triple.object.IsLegible))

instance (graph : Graph) : Decidable graph.IsLegible :=
  inferInstanceAs (Decidable (∀ triple ∈ graph.triples, triple.IsLegible))

/-! ## Labels for fresh nodes -/

/-- The node that a document names with the label under which a node is written. -/
def BlankNode.labelled (node : BlankNode) : BlankNode :=
  .named node.label

def Subject.labelled : Subject → Subject
  | .iri name => .iri name
  | .blank node => .blank node.labelled

def Term.labelled : Term → Term
  | .iri name => .iri name
  | .blank node => .blank node.labelled
  | .literal value => .literal value

def Triple.labelled (triple : Triple) : Triple :=
  ⟨triple.subject.labelled, triple.predicate, triple.object.labelled⟩

/-- No blank node of the graph is fresh. -/
def Graph.HasLabels (graph : Graph) : Prop :=
  ∀ triple ∈ graph, triple.labelled = triple

instance (graph : Graph) : Decidable graph.HasLabels :=
  inferInstanceAs (Decidable (∀ triple ∈ graph.triples, triple.labelled = triple))

theorem ne_of_isNameChar {c : Char} (name : Token.isNameChar c = true) : c ≠ '.' ∧ c ≠ ':' := by
  constructor
  · rintro rfl
    revert name
    decide
  · rintro rfl
    revert name
    decide

theorem mem_toDigits {c : Char} {base value : Nat} (large : 1 < base)
    (member : c ∈ Nat.toDigits base value) : ∃ digit < base, c = Nat.digitChar digit := by
  induction value using Nat.strongRecOn with
  | ind value ih =>
      rcases Nat.lt_or_ge value base with small | big
      · rw [Nat.toDigits_of_lt_base small, List.mem_singleton] at member
        exact ⟨value, small, member⟩
      · rw [Nat.toDigits_of_base_le large big, List.mem_append, List.mem_singleton] at member
        rcases member with earlier | last
        · exact ih (value / base) (Nat.div_lt_self (by omega) large) earlier
        · exact ⟨value % base, Nat.mod_lt value (by omega), last⟩

theorem isNameChar_digitChar :
    ∀ digit < 16, Token.isNameChar (Nat.digitChar digit).toUpper.toLower = true := by
  decide

theorem isNameChar_of_mem_label_fresh {index : Nat} {c : Char}
    (member : c ∈ (BlankNode.label (.fresh index)).toList) : Token.isNameChar c = true := by
  rw [BlankNode.label, String.toList_ofList, List.mem_cons] at member
  rcases member with rfl | member
  · decide
  · obtain ⟨digit, inDigits, rfl⟩ := List.mem_map.mp member
    rcases List.mem_append.mp inDigits with padding | inDigits
    · rw [List.eq_of_mem_replicate padding]
      decide
    · obtain ⟨lowerDigit, written, rfl⟩ := List.mem_map.mp inDigits
      obtain ⟨value, small, rfl⟩ := mem_toDigits (by decide : 1 < 16) written
      exact isNameChar_digitChar value small

theorem isLabelStart_of_head?_label_fresh {index : Nat} :
    ∃ c ∈ (BlankNode.label (.fresh index)).toList.head?, isLabelStart c = true := by
  refine ⟨'f', ?_, by decide⟩
  rw [BlankNode.label, String.toList_ofList]
  rfl

theorem BlankNode.IsValid.isLabel {node : BlankNode} (valid : node.IsValid) :
    IsLabel node.label.toList := by
  cases valid with
  | named isLabel => exact isLabel
  | fresh =>
      constructor
      case first => exact isLabelStart_of_head?_label_fresh
      case toIsLabelEnd =>
        constructor
        case each =>
          intro c member
          left
          simp only [isLabelChar, isNameChar_of_mem_label_fresh member, Bool.true_or]
        case last =>
          intro dot
          have name := isNameChar_of_mem_label_fresh (List.mem_of_getLast? dot)
          exact (ne_of_isNameChar name).1 rfl

theorem BlankNode.isLegible_iff {node : BlankNode} :
    node.IsLegible ↔ IsLegibleLabel node.label.toList := by
  cases node with
  | named label => rfl
  | fresh index =>
      refine iff_of_true trivial ⟨?_, ?_⟩
      · intro colon
        exact (ne_of_isNameChar (isNameChar_of_mem_label_fresh colon)).2 rfl
      · intro dots
        have dot := dots.subset List.mem_cons_self
        exact (ne_of_isNameChar (isNameChar_of_mem_label_fresh dot)).1 rfl

/-! ## Along a label -/

variable {label : List Char}

theorem IsLabelEnd.tail {c : Char} (isEnd : IsLabelEnd (c :: label)) : IsLabelEnd label := by
  constructor
  case each => exact fun d member => isEnd.each d (List.mem_cons_of_mem c member)
  case last =>
    intro dot
    apply isEnd.last
    rw [List.getLast?_cons, dot]
    rfl

theorem IsLabelEnd.cases_head {c : Char} (isEnd : IsLabelEnd (c :: label)) :
    Token.isNameChar c = true ∨ c = ':' ∨ c = '.' := by
  rcases isEnd.each c List.mem_cons_self with inLabel | dot
  · simp only [isLabelChar, Bool.or_eq_true, beq_iff_eq] at inLabel
    exact inLabel.imp_right .inl
  · exact .inr (.inr dot)

/-- Something follows a dot. -/
theorem IsLabelEnd.exists_after_dot (isEnd : IsLabelEnd ('.' :: label)) :
    ∃ c rest, label = c :: rest := by
  cases label with
  | nil => exact absurd rfl isEnd.last
  | cons c rest => exact ⟨c, rest, rfl⟩

theorem IsLegibleLabel.tail {c : Char} (legible : IsLegibleLabel (c :: label)) :
    IsLegibleLabel label := by
  constructor
  case noColon => exact fun colon => legible.noColon (List.mem_cons_of_mem c colon)
  case dotsApart => exact fun dots => legible.dotsApart (List.infix_cons dots)

theorem isLegibleLabel_nil : IsLegibleLabel [] := by
  constructor
  case noColon => exact List.not_mem_nil
  case dotsApart => exact fun dots => List.cons_ne_nil _ _ (List.infix_nil.mp dots)

theorem IsLegibleLabel.cons {c : Char} (legible : IsLegibleLabel label)
    (noColon : c ≠ ':') (dotsApart : c = '.' → label.head? ≠ some '.') :
    IsLegibleLabel (c :: label) := by
  constructor
  case noColon =>
    intro colon
    rcases List.mem_cons.mp colon with same | later
    · exact noColon same.symm
    · exact legible.noColon later
  case dotsApart =>
    intro dots
    rcases List.infix_cons_iff.mp dots with here | later
    · obtain ⟨first, second⟩ := List.cons_prefix_cons.mp here
      obtain ⟨rest, same⟩ := second
      apply dotsApart first.symm
      rw [← same]
      rfl
    · exact legible.dotsApart later

/-! ## The subtags of a language tag -/

namespace LanguageTag

open Reference (isAsciiLetter splitOnChar)

/-- Hyphens divide the tag into words of letters and digits, the first of letters alone. -/
structure IsDivided (tag : List Char) : Prop where
  words : ∀ word ∈ splitOnChar '-' tag, word ≠ [] ∧ isLettersOrDigits word = true
  language : ∀ word ∈ (splitOnChar '-' tag).head?, isLetters word = true

theorem word_of_step {stage next : Stage} {word : List Char}
    (taken : step? stage word = some next) : word ≠ [] ∧ isLettersOrDigits word = true := by
  unfold step? at taken
  split at taken
  next => cases taken
  next admitted =>
    simp only [not_or, Bool.not_eq_true, Bool.not_eq_false'] at admitted
    exact ⟨admitted.1, admitted.2.2⟩

theorem words_of_steps {stage final : Stage} {words : List (List Char)}
    (taken : words.foldlM step? stage = some final) :
    ∀ word ∈ words, word ≠ [] ∧ isLettersOrDigits word = true := by
  induction words generalizing stage with
  | nil =>
      intro word member
      cases member
  | cons first rest ih =>
      rw [List.foldlM_cons] at taken
      obtain ⟨next, here, later⟩ := Option.bind_eq_some_iff.mp taken
      intro word member
      rcases List.mem_cons.mp member with rfl | member
      · exact word_of_step here
      · exact ih later word member

theorem isLetters_of_step_start {next : Stage} {word : List Char}
    (taken : step? .start word = some next) : isLetters word = true := by
  unfold step? at taken
  split at taken
  next => cases taken
  next =>
    simp only at taken
    split at taken
    next privateUse => rcases privateUse with rfl | rfl <;> decide
    next =>
      split at taken
      next => cases taken
      next letters =>
        simp only [not_or, Bool.not_eq_true, Bool.not_eq_false'] at letters
        exact letters.2

theorem isDivided_of_irregular : ∀ tag ∈ irregular, IsDivided tag.toList := by
  have decided : ∀ tag ∈ irregular,
      (∀ word ∈ splitOnChar '-' tag.toList, word ≠ [] ∧ isLettersOrDigits word = true) ∧
        ∀ word ∈ (splitOnChar '-' tag.toList).head?, isLetters word = true := by
    decide
  intro tag member
  exact ⟨(decided tag member).1, (decided tag member).2⟩

theorem isDivided_of_isWellFormed {tag : String} (wellFormed : isWellFormed tag = true)
    (lower : Text.lowerAscii tag = tag) : IsDivided tag.toList := by
  unfold isWellFormed at wellFormed
  rcases Bool.or_eq_true_iff.mp wellFormed with old | regular
  · rw [lower] at old
    exact isDivided_of_irregular tag (List.contains_iff_mem.mp old)
  · split at regular
    next final taken =>
      refine ⟨words_of_steps taken, ?_⟩
      intro word first
      cases words : splitOnChar '-' tag.toList with
      | nil => exact absurd words (Reference.splitOnChar_ne_nil _ _)
      | cons front others =>
          rw [words] at first taken
          cases first
          rw [List.foldlM_cons] at taken
          obtain ⟨next, here, -⟩ := Option.bind_eq_some_iff.mp taken
          exact isLetters_of_step_start here
    next => cases regular

variable {tag : List Char}

theorem IsDivided.cases_mem (divided : IsDivided tag) {c : Char} (member : c ∈ tag) :
    c = '-' ∨ isAsciiLetter c = true ∨ Text.isDigit c = true := by
  refine (Reference.mem_splitOnChar '-' member).imp_right ?_
  rintro ⟨word, isWord, inWord⟩
  have admitted := List.all_eq_true.mp (divided.words word isWord).2 c inWord
  exact Bool.or_eq_true_iff.mp admitted

theorem head?_splitOnChar {mark : Char} {chars word : List Char} {others : List (List Char)}
    (words : splitOnChar mark chars = word :: others) (filled : word ≠ []) :
    word.head? = chars.head? := by
  cases chars with
  | nil =>
      cases words
      exact absurd rfl filled
  | cons first rest =>
      rw [splitOnChar] at words
      split at words
      next =>
        cases words
        exact absurd rfl filled
      next => split at words <;> cases words <;> rfl

/-- A letter or a digit follows every hyphen. -/
theorem IsDivided.exists_after_hyphen (divided : IsDivided tag) {before after : List Char}
    (split : tag = before ++ '-' :: after) :
    ∃ c ∈ after.head?, isAsciiLetter c = true ∨ Text.isDigit c = true := by
  cases words : splitOnChar '-' after with
  | nil => exact absurd words (Reference.splitOnChar_ne_nil _ _)
  | cons word others =>
      have isWord : word ∈ splitOnChar '-' tag := by
        rw [split, Reference.splitOnChar_append, words]
        exact List.mem_append_right _ List.mem_cons_self
      obtain ⟨filled, admitted⟩ := divided.words word isWord
      obtain ⟨c, front⟩ := Option.ne_none_iff_exists'.mp (mt List.head?_eq_none_iff.mp filled)
      refine ⟨c, head?_splitOnChar words filled ▸ front, ?_⟩
      exact Bool.or_eq_true_iff.mp (List.all_eq_true.mp admitted c (List.mem_of_head? front))

theorem IsDivided.exists_first (divided : IsDivided tag) :
    ∃ c ∈ tag.head?, isAsciiLetter c = true := by
  cases words : splitOnChar '-' tag with
  | nil => exact absurd words (Reference.splitOnChar_ne_nil _ _)
  | cons word others =>
      have isWord : word ∈ splitOnChar '-' tag := words ▸ List.mem_cons_self
      have filled := (divided.words word isWord).1
      have letters := divided.language word (by rw [words]; rfl)
      obtain ⟨c, front⟩ := Option.ne_none_iff_exists'.mp (mt List.head?_eq_none_iff.mp filled)
      exact ⟨c, head?_splitOnChar words filled ▸ front,
        List.all_eq_true.mp letters c (List.mem_of_head? front)⟩

end LanguageTag

end RdfPipeline.Rdf
