import RdfPipeline.Proofs.Template.Parsing

/-!
# The normal form of templates

A parsed template is written back with its literal texts as they are and each variable as its mark
and its name. No name is mistaken for a mark or loses one on the way: the written text has the same
segments, so it is its own normal form and expands as the template does.
-/

set_option autoImplicit false

namespace RdfPipeline.Template

def Segment.toText : Segment → String
  | .literal text => text
  | .variable placeholder => placeholder.toText

def normalForm (template : Template) : String :=
  String.join (template.segments.map Segment.toText)

/-! ## Expressions -/

theorem Modifier.symbol_of_ofChar? {c : Char} {modifier : Modifier}
    (marks : ofChar? c = some modifier) : modifier.symbol.toList = [c] := by
  unfold ofChar? at marks
  split at marks <;> cases marks <;> rfl

theorem Modifier.not_isBlank_of_ofChar? {c : Char} {modifier : Modifier}
    (marks : ofChar? c = some modifier) : Text.isBlank c = false := by
  unfold ofChar? at marks
  split at marks <;> cases marks <;> rfl

theorem dropMark_of_unmarked {chars : List Char}
    (unmarked : ∀ c ∈ chars.head?, Modifier.ofChar? c = none) : dropMark chars = chars := by
  cases chars with
  | nil => rfl
  | cons c rest =>
      have noMark : ¬(c = '+' ∨ c = '#' ∨ c = '/') := by
        rw [← Modifier.ofChar?_isSome_iff, unmarked c rfl]
        exact Bool.false_ne_true
      rw [dropMark, if_neg noMark]

theorem dropMark_cons {c : Char} {modifier : Modifier} (marks : Modifier.ofChar? c = some modifier)
    (rest : List Char) : dropMark (c :: rest) = rest := by
  have isMark : c = '+' ∨ c = '#' ∨ c = '/' := by
    rw [← Modifier.ofChar?_isSome_iff, marks]
    rfl
  rw [dropMark, if_pos isMark]

/-- An expression is its mark and its name, but for blanks. Without a mark the name does not start
with one. -/
inductive Reads (expression : List Char) : Prop where
  | plain :
      modifierIn expression = .simple → nameIn expression = Text.trimChars expression →
      (∀ c ∈ (nameIn expression).head?, Modifier.ofChar? c = none) → Reads expression
  | marked (mark : Char) :
      Modifier.ofChar? mark = some (modifierIn expression) → Reads expression

theorem reads (expression : List Char) : Reads expression := by
  have trimmed := Text.isTrimmed_trimChars expression
  cases marks : (Text.trimChars expression).head?.bind Modifier.ofChar? with
  | some modifier =>
      obtain ⟨mark, -, isMark⟩ := Option.bind_eq_some_iff.mp marks
      refine .marked mark ?_
      rw [modifierIn, marks, isMark]
      rfl
  | none =>
      have unmarked := Option.bind_eq_none_iff.mp marks
      have name : nameIn expression = Text.trimChars expression := by
        rw [nameIn, dropMark_of_unmarked unmarked, trimmed.trimChars_eq]
      refine .plain ?_ name (name ▸ unmarked)
      rw [modifierIn, marks]
      rfl

/-- The expression as it is written back. -/
def normalExpression (expression : List Char) : List Char :=
  (modifierIn expression).symbol.toList ++ nameIn expression

theorem isTrimmed_cons {c : Char} {chars : List Char} (notBlank : Text.isBlank c = false)
    (nonempty : chars ≠ []) (trimmed : Text.IsTrimmed chars) : Text.IsTrimmed (c :: chars) := by
  refine ⟨fun d first => ?_, fun d last => trimmed.last d ?_⟩
  · cases first
    exact notBlank
  · rwa [List.getLast?_cons_of_ne_nil nonempty] at last

theorem nameIn_normalExpression {expression : List Char} (named : nameIn expression ≠ []) :
    modifierIn (normalExpression expression) = modifierIn expression ∧
      nameIn (normalExpression expression) = nameIn expression := by
  have trimmed : Text.IsTrimmed (nameIn expression) := Text.isTrimmed_trimChars _
  cases reads expression with
  | plain simple _ unmarked =>
      have whole : normalExpression expression = nameIn expression := by
        rw [normalExpression, simple]
        rfl
      have noMark : (nameIn expression).head?.bind Modifier.ofChar? = none :=
        Option.bind_eq_none_iff.mpr unmarked
      rw [whole, simple]
      generalize nameIn expression = name at trimmed unmarked noMark
      rw [modifierIn, nameIn, trimmed.trimChars_eq, noMark, dropMark_of_unmarked unmarked,
        trimmed.trimChars_eq]
      exact ⟨rfl, rfl⟩
  | marked mark marks =>
      have whole : normalExpression expression = mark :: nameIn expression := by
        rw [normalExpression, Modifier.symbol_of_ofChar? marks]
        rfl
      have markTrimmed : Text.IsTrimmed (mark :: nameIn expression) :=
        isTrimmed_cons (Modifier.not_isBlank_of_ofChar? marks) named trimmed
      rw [whole]
      constructor
      · rw [modifierIn, markTrimmed.trimChars_eq, List.head?_cons, Option.bind_some, marks]
        rfl
      · rw [nameIn, markTrimmed.trimChars_eq, dropMark_cons marks, trimmed.trimChars_eq]

theorem HasNoBrace.of_subset {chars within : List Char} (none : HasNoBrace chars)
    (subset : within ⊆ chars) : HasNoBrace within :=
  ⟨fun opening => none.1 (subset opening), fun closing => none.2 (subset closing)⟩

theorem dropMark_sublist (chars : List Char) : (dropMark chars).Sublist chars := by
  cases chars with
  | nil => exact .slnil
  | cons c rest =>
      rw [dropMark]
      split
      · exact List.sublist_cons_self c rest
      · exact List.Sublist.refl _

theorem nameIn_sublist (expression : List Char) : (nameIn expression).Sublist expression :=
  ((Text.trimChars_sublist _).trans (dropMark_sublist _)).trans (Text.trimChars_sublist expression)

theorem hasNoBrace_normalExpression {expression : List Char} (none : HasNoBrace expression) :
    HasNoBrace (normalExpression expression) := by
  have symbol : HasNoBrace (modifierIn expression).symbol.toList := by
    cases modifierIn expression <;> exact ⟨by decide, by decide⟩
  have name := none.of_subset (nameIn_sublist expression).subset
  simp [HasNoBrace, normalExpression, symbol.1, symbol.2, name.1, name.2]

/-! ## Spellings -/

/-- The characters of the segments, one after the other. -/
def writtenSegments (segments : List Segment) : List Char :=
  segments.flatMap fun segment => segment.toText.toList

theorem toList_normalForm (template : Template) :
    template.normalForm.toList = writtenSegments template.segments := by
  simp [normalForm, writtenSegments, String.toList_join, List.flatMap_map]

theorem writtenSegments_append (front rest : List Segment) :
    writtenSegments (front ++ rest) = writtenSegments front ++ writtenSegments rest :=
  List.flatMap_append

/-- Empty literal texts are not missed where they stand for nothing. -/
theorem flatMap_withoutEmpty {α : Type} {f : Segment → List α} (nothing : f (.literal "") = [])
    (segments : List Segment) : (withoutEmpty segments).flatMap f = segments.flatMap f := by
  induction segments with
  | nil => rfl
  | cons segment rest ih =>
      rw [withoutEmpty, List.filter_cons]
      split
      next => exact congrArg (f segment ++ ·) ih
      next empty =>
        have same : segment = .literal "" := by simpa using empty
        rw [List.flatMap_cons, same, nothing]
        exact ih

namespace Piece

def normal (piece : Piece) : Piece :=
  ⟨piece.literal, normalExpression piece.expression⟩

theorem IsValid.normal {piece : Piece} (valid : piece.IsValid) : piece.normal.IsValid := by
  refine ⟨valid.literal, hasNoBrace_normalExpression valid.expression, ?_⟩
  rw [Piece.normal, (nameIn_normalExpression valid.named).2]
  exact valid.named

theorem IsValid.segments_normal {piece : Piece} (valid : piece.IsValid) :
    piece.normal.segments = piece.segments := by
  obtain ⟨modifier, name⟩ := nameIn_normalExpression valid.named
  rw [segments, segments, placeholder, placeholder, Piece.normal, modifier, name]

theorem writtenSegments_segments (piece : Piece) :
    writtenSegments piece.segments = piece.normal.written := by
  simp [writtenSegments, segments, Segment.toText, placeholder, Variable.toText, written, normal,
    normalExpression]

end Piece

namespace Spelling

def normal (spelling : Spelling) : Spelling :=
  ⟨spelling.pieces.map Piece.normal, spelling.tail⟩

theorem IsValid.normal {spelling : Spelling} (valid : spelling.IsValid) :
    spelling.normal.IsValid := by
  refine ⟨fun piece member => ?_, valid.tail⟩
  obtain ⟨original, isPiece, rfl⟩ := List.mem_map.mp member
  exact (valid.pieces original isPiece).normal

theorem IsValid.segments_normal {spelling : Spelling} (valid : spelling.IsValid) :
    spelling.normal.segments = spelling.segments := by
  have pieces : (spelling.pieces.map Piece.normal).flatMap Piece.segments =
      spelling.pieces.flatMap Piece.segments := by
    rw [List.flatMap_map]
    exact List.flatMap_congr fun piece member => (valid.pieces piece member).segments_normal
  rw [segments, segments, Spelling.normal, pieces]

theorem writtenSegments_segments (spelling : Spelling) :
    writtenSegments spelling.segments = spelling.normal.written := by
  have pieces : writtenSegments (spelling.pieces.flatMap Piece.segments) =
      (spelling.pieces.map Piece.normal).flatMap Piece.written := by
    rw [writtenSegments, List.flatMap_assoc, List.flatMap_map]
    exact List.flatMap_congr fun piece _ => piece.writtenSegments_segments
  rw [segments, writtenSegments, flatMap_withoutEmpty rfl, ← writtenSegments,
    writtenSegments_append, pieces]
  simp [writtenSegments, Segment.toText, normal, written]

end Spelling

/-! ## Normal forms -/

/-- The normal form of a template is parsed, into the same segments. So it is its own normal form,
and it expands as the template does, under every look-up of values and every encoding of them. -/
theorem parse_normalForm {text : String} {template : Template}
    (parsed : parse text = .ok template) :
    ∃ again, parse template.normalForm = .ok again ∧ again.segments = template.segments ∧
      again.normalForm = template.normalForm ∧
      (∀ record, again.expand record = template.expand record) ∧
      ∀ lookup encode, again.expandWith lookup encode = template.expandWith lookup encode := by
  obtain ⟨spelling, valid, whole⟩ | ⟨before, complaint, breaks⟩ := spelled_or_breaks text.toList
  · rw [parse_spelled valid whole] at parsed
    cases parsed
    have spelled : (normalForm ⟨text, spelling.segments⟩).toList = spelling.normal.written := by
      rw [toList_normalForm, spelling.writtenSegments_segments]
    refine ⟨_, parse_spelled valid.normal spelled, valid.segments_normal, ?_, ?_, ?_⟩
    · rw [normalForm, normalForm, valid.segments_normal]
    · intro record
      rw [expand, expand, expandWith, expandWith, valid.segments_normal]
    · intro lookup encode
      rw [expandWith, expandWith, valid.segments_normal]
  · rw [parse_breaks breaks] at parsed
    cases parsed

theorem parse_normalForm_strayBraces :
    parse strayBraces = .ok strayBracesTemplate ∧
      strayBracesTemplate.normalForm = "a\x7d\x7b++x y\x7d\x7bz\x7d\x7db" ∧
      ∃ again, parse "a\x7d\x7b++x y\x7d\x7bz\x7d\x7db" = .ok again ∧
        again.segments = strayBracesTemplate.segments ∧
        again.normalForm = strayBracesTemplate.normalForm ∧
        ∀ record, again.expand record = strayBracesTemplate.expand record := by
  have parsed : parse strayBraces = .ok strayBracesTemplate := by with_unfolding_all rfl
  have written : strayBracesTemplate.normalForm = "a\x7d\x7b++x y\x7d\x7bz\x7d\x7db" := by
    decide +kernel
  obtain ⟨again, parsedAgain, sameSegments, sameForm, sameExpansion, -⟩ := parse_normalForm parsed
  rw [written] at parsedAgain
  exact ⟨parsed, written, again, parsedAgain, sameSegments, sameForm, sameExpansion⟩

end RdfPipeline.Template
