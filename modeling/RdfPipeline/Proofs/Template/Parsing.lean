import Mathlib.Data.List.Chain
import RdfPipeline.Proofs.Text.Blank
import RdfPipeline.Template

/-!
# The grammar of templates

A template is literal text with expressions in braces in between. Literal text may have closing
braces but no opening ones, an expression has no braces at all and names a variable. A text that is
written so is written so in one way only, and these are the texts that are parsed. In any other text
some expression is the first one that is nested, unterminated or empty, and there parsing fails.
-/

set_option autoImplicit false

namespace RdfPipeline.Template

/-! ## Expressions -/

/-- The text without one mark in front. -/
def dropMark : List Char → List Char
  | [] => []
  | c :: rest => if c = '+' ∨ c = '#' ∨ c = '/' then rest else c :: rest

/-- What is left of an expression without the blanks around it, its mark and the blanks behind. -/
def nameIn (expression : List Char) : List Char :=
  Text.trimChars (dropMark (Text.trimChars expression))

/-- The modifier that an expression is marked with, blanks aside. -/
def modifierIn (expression : List Char) : Modifier :=
  ((Text.trimChars expression).head?.bind Modifier.ofChar?).getD .simple

theorem Modifier.ofChar?_isSome_iff {c : Char} :
    (ofChar? c).isSome ↔ c = '+' ∨ c = '#' ∨ c = '/' := by
  unfold ofChar?
  split <;> simp_all

theorem splitExpression_eq (expression : List Char) :
    splitExpression expression = (modifierIn expression, nameIn expression) := by
  have trimmed := Text.isTrimmed_trimChars expression
  unfold splitExpression modifierIn nameIn
  cases within : Text.trimChars expression with
  | nil => rfl
  | cons first rest =>
      have marked := Modifier.ofChar?_isSome_iff (c := first)
      rw [within] at trimmed
      cases modified : Modifier.ofChar? first with
      | some modifier =>
          rw [modified] at marked
          simp [dropMark, marked.mp rfl, modified]
      | none =>
          rw [modified] at marked
          have unmarked : ¬(first = '+' ∨ first = '#' ∨ first = '/') := by simpa using marked
          simp [dropMark, unmarked, modified, trimmed.trimChars_eq]

/-! ## Pieces -/

/-- An expression with the literal text in front of it. -/
structure Piece where
  literal : List Char
  expression : List Char

def HasNoBrace (chars : List Char) : Prop :=
  '\x7b' ∉ chars ∧ '\x7d' ∉ chars

theorem hasNoBrace_nil : HasNoBrace [] :=
  ⟨List.not_mem_nil, List.not_mem_nil⟩

theorem hasNoBrace_cons_iff {c : Char} {chars : List Char} :
    HasNoBrace (c :: chars) ↔ (c ≠ '\x7b' ∧ c ≠ '\x7d') ∧ HasNoBrace chars := by
  simp only [HasNoBrace, List.mem_cons, not_or]
  exact ⟨fun ⟨⟨opening, noOpening⟩, closing, noClosing⟩ =>
      ⟨⟨Ne.symm opening, Ne.symm closing⟩, noOpening, noClosing⟩,
    fun ⟨⟨opening, closing⟩, noOpening, noClosing⟩ =>
      ⟨⟨Ne.symm opening, noOpening⟩, Ne.symm closing, noClosing⟩⟩

namespace Piece

def written (piece : Piece) : List Char :=
  piece.literal ++ '\x7b' :: (piece.expression ++ ['\x7d'])

theorem written_append (piece : Piece) (rest : List Char) :
    piece.written ++ rest = piece.literal ++ '\x7b' :: (piece.expression ++ '\x7d' :: rest) := by
  simp [written]

def placeholder (piece : Piece) : Variable :=
  ⟨String.ofList (nameIn piece.expression), modifierIn piece.expression⟩

def segments (piece : Piece) : List Segment :=
  [.literal (String.ofList piece.literal), .variable piece.placeholder]

structure IsValid (piece : Piece) : Prop where
  literal : '\x7b' ∉ piece.literal
  expression : HasNoBrace piece.expression
  named : nameIn piece.expression ≠ []

end Piece

/-- The segments but for empty literal texts. -/
def withoutEmpty (segments : List Segment) : List Segment :=
  segments.filter (· ≠ .literal "")

/-- A text in pieces, and the literal text behind them. -/
structure Spelling where
  pieces : List Piece
  tail : List Char

namespace Spelling

def written (spelling : Spelling) : List Char :=
  spelling.pieces.flatMap Piece.written ++ spelling.tail

structure IsValid (spelling : Spelling) : Prop where
  pieces : ∀ piece ∈ spelling.pieces, piece.IsValid
  tail : '\x7b' ∉ spelling.tail

/-- The literal texts that are not empty, and a variable for each expression. -/
def segments (spelling : Spelling) : List Segment :=
  withoutEmpty
    (spelling.pieces.flatMap Piece.segments ++ [Segment.literal (String.ofList spelling.tail)])

end Spelling

/-- The text behind an opening brace is that of a nested, unterminated or empty expression. -/
inductive IsBroken : List Char → String → Prop where
  | nested {expression rest : List Char} :
      HasNoBrace expression →
      IsBroken (expression ++ '\x7b' :: rest) "nested '\x7b' in expression"
  | unterminated {expression : List Char} :
      HasNoBrace expression → IsBroken expression "unterminated expression"
  | empty {expression rest : List Char} :
      HasNoBrace expression → nameIn expression = [] →
      IsBroken (expression ++ '\x7d' :: rest) "empty variable name"

theorem byteLength_eq (chars : List Char) :
    byteLength chars = (String.ofList chars).utf8ByteSize := by
  induction chars with
  | nil => rfl
  | cons c rest ih =>
      rw [byteLength, ih, String.ofList_cons, String.utf8ByteSize_append,
        String.utf8ByteSize_singleton]

/-! ## Closing braces -/

section Closing

variable {expression : List Char}

theorem findClosing_closed (noBrace : HasNoBrace expression) (rest : List Char) :
    findClosing (expression ++ '\x7d' :: rest) = .closed expression rest := by
  induction expression with
  | nil => simp [findClosing]
  | cons c chars ih =>
      obtain ⟨⟨notOpening, notClosing⟩, others⟩ := hasNoBrace_cons_iff.mp noBrace
      rw [List.cons_append, findClosing, if_neg notClosing, if_neg notOpening, ih others]

theorem findClosing_nested (noBrace : HasNoBrace expression) (rest : List Char) :
    findClosing (expression ++ '\x7b' :: rest) = .nested := by
  induction expression with
  | nil => simp [findClosing]
  | cons c chars ih =>
      obtain ⟨⟨notOpening, notClosing⟩, others⟩ := hasNoBrace_cons_iff.mp noBrace
      rw [List.cons_append, findClosing, if_neg notClosing, if_neg notOpening, ih others]

theorem findClosing_unterminated (noBrace : HasNoBrace expression) :
    findClosing expression = .unterminated := by
  induction expression with
  | nil => rfl
  | cons c chars ih =>
      obtain ⟨⟨notOpening, notClosing⟩, others⟩ := hasNoBrace_cons_iff.mp noBrace
      rw [findClosing, if_neg notClosing, if_neg notOpening, ih others]

end Closing

/-! ## Parsing -/

section Parsing

variable {literal : List Char}

theorem ne_opening_of_mem (noOpening : '\x7b' ∉ literal) : ∀ c ∈ literal, (c != '\x7b') = true :=
  fun _ member => bne_iff_ne.mpr fun isOpening => noOpening (isOpening ▸ member)

theorem takeWhile_literal (noOpening : '\x7b' ∉ literal) (rest : List Char) :
    (literal ++ '\x7b' :: rest).takeWhile (· != '\x7b') = literal := by
  rw [List.takeWhile_append_of_pos (ne_opening_of_mem noOpening)]
  simp

theorem dropWhile_literal (noOpening : '\x7b' ∉ literal) (rest : List Char) :
    (literal ++ '\x7b' :: rest).dropWhile (· != '\x7b') = '\x7b' :: rest := by
  rw [List.dropWhile_append_of_pos (ne_opening_of_mem noOpening)]
  simp

theorem parseSegments_tail (offset : Nat) (noOpening : '\x7b' ∉ literal) :
    parseSegments offset literal = .ok (literalSegment literal) := by
  have plain := ne_opening_of_mem noOpening
  rw [parseSegments]
  split
  next => rw [List.takeWhile_eq_self_iff.mpr plain]
  next ahead =>
    rw [List.dropWhile_eq_nil_iff.mpr plain] at ahead
    cases ahead

theorem parseSegments_broken (offset : Nat) (noOpening : '\x7b' ∉ literal) {rest : List Char}
    {complaint : String} (broken : IsBroken rest complaint) :
    ∃ fault, parseSegments offset (literal ++ '\x7b' :: rest) = .error fault ∧
      fault.message = complaint ++ " at offset " ++ toString (offset + byteLength literal) := by
  rw [parseSegments]
  simp only [takeWhile_literal noOpening]
  split
  next ahead =>
    rw [dropWhile_literal noOpening] at ahead
    cases ahead
  next ahead =>
    rw [dropWhile_literal noOpening] at ahead
    cases ahead
    cases broken with
    | nested noBrace =>
        split
        next => exact ⟨_, rfl, rfl⟩
        next found => simp [findClosing_nested noBrace] at found
        next found => simp [findClosing_nested noBrace] at found
    | unterminated noBrace =>
        split
        next found => simp [findClosing_unterminated noBrace] at found
        next => exact ⟨_, rfl, rfl⟩
        next found => simp [findClosing_unterminated noBrace] at found
    | empty noBrace unnamed =>
        split
        next found => simp [findClosing_closed noBrace] at found
        next found => simp [findClosing_closed noBrace] at found
        next found =>
          rw [findClosing_closed noBrace] at found
          cases found
          simp only [splitExpression_eq, unnamed, if_true]
          exact ⟨_, rfl, rfl⟩

theorem byteLength_append (front rest : List Char) :
    byteLength (front ++ rest) = byteLength front + byteLength rest := by
  rw [byteLength_eq, String.ofList_append, String.utf8ByteSize_append, ← byteLength_eq,
    ← byteLength_eq]

theorem byteLength_written (piece : Piece) :
    byteLength piece.written = byteLength piece.literal + byteLength piece.expression + 2 := by
  have brace : byteLength ['\x7d'] = 1 := by decide
  have otherBrace : Char.utf8Size '\x7b' = 1 := by decide
  rw [Piece.written, byteLength_append, byteLength, byteLength_append, brace, otherBrace]
  omega

theorem literalSegment_eq (text : List Char) :
    literalSegment text = withoutEmpty [.literal (String.ofList text)] := by
  cases text <;> simp [literalSegment, withoutEmpty]

theorem withoutEmpty_append (front rest : List Segment) :
    withoutEmpty (front ++ rest) = withoutEmpty front ++ withoutEmpty rest :=
  List.filter_append front rest

theorem withoutEmpty_piece (piece : Piece) :
    withoutEmpty piece.segments =
      literalSegment piece.literal ++ [.variable piece.placeholder] := by
  rw [literalSegment_eq, Piece.segments, ← List.singleton_append, withoutEmpty_append]
  rfl

theorem parseSegments_piece (offset : Nat) {piece : Piece} (valid : piece.IsValid)
    (rest : List Char) :
    parseSegments offset (piece.written ++ rest) =
      (parseSegments (offset + byteLength piece.written) rest).map
        (withoutEmpty piece.segments ++ ·) := by
  rw [piece.written_append, parseSegments]
  simp only [takeWhile_literal valid.literal]
  split
  next ahead =>
    rw [dropWhile_literal valid.literal] at ahead
    cases ahead
  next ahead =>
    rw [dropWhile_literal valid.literal] at ahead
    cases ahead
    split
    next found => simp [findClosing_closed valid.expression] at found
    next found => simp [findClosing_closed valid.expression] at found
    next found =>
      rw [findClosing_closed valid.expression] at found
      cases found
      simp only [splitExpression_eq, valid.named, if_false]
      rw [byteLength_written, withoutEmpty_piece, ← Nat.add_assoc, ← Nat.add_assoc]
      cases parseSegments (offset + byteLength piece.literal + byteLength piece.expression + 2)
          rest with
      | error fault => rfl
      | ok segments =>
          rw [Except.map, List.append_assoc]
          rfl

end Parsing

/-! ## Spellings -/

namespace Piece

/-- Where the first piece of a text ends is determined by the text. -/
theorem written_append_inj {piece other : Piece} {rest rest' : List Char} (valid : piece.IsValid)
    (valid' : other.IsValid) (same : piece.written ++ rest = other.written ++ rest') :
    piece = other ∧ rest = rest' := by
  rw [written_append, written_append] at same
  have literals := congrArg (List.takeWhile (· != '\x7b')) same
  have behind := congrArg (List.dropWhile (· != '\x7b')) same
  rw [takeWhile_literal valid.literal, takeWhile_literal valid'.literal] at literals
  rw [dropWhile_literal valid.literal, dropWhile_literal valid'.literal] at behind
  have closings := congrArg findClosing (List.cons.inj behind).2
  rw [findClosing_closed valid.expression, findClosing_closed valid'.expression,
    Closing.closed.injEq] at closings
  obtain ⟨literal, expression⟩ := piece
  obtain ⟨literal', expression'⟩ := other
  exact ⟨congrArg₂ Piece.mk literals closings.1, closings.2⟩

theorem ne_of_no_opening {piece : Piece} {rest chars : List Char} (noOpening : '\x7b' ∉ chars) :
    piece.written ++ rest ≠ chars := by
  rintro rfl
  exact noOpening (by simp [written])

end Piece

/-- No text is spelled in two ways. -/
theorem Spelling.written_inj {spelling other : Spelling} (valid : spelling.IsValid)
    (valid' : other.IsValid) (same : spelling.written = other.written) : spelling = other := by
  obtain ⟨pieces, tail⟩ := spelling
  obtain ⟨others, tail'⟩ := other
  induction pieces generalizing others with
  | nil =>
      cases others with
      | nil => exact congrArg (Spelling.mk []) same
      | cons first others =>
          refine absurd same.symm ?_
          rw [written, List.flatMap_cons, List.append_assoc]
          exact Piece.ne_of_no_opening valid.tail
  | cons piece pieces ih =>
      cases others with
      | nil =>
          refine absurd same ?_
          rw [written, List.flatMap_cons, List.append_assoc]
          exact Piece.ne_of_no_opening valid'.tail
      | cons first others =>
          rw [written, written, List.flatMap_cons, List.flatMap_cons, List.append_assoc,
            List.append_assoc] at same
          obtain ⟨firstValid, restValid⟩ := List.forall_mem_cons.mp valid.pieces
          obtain ⟨firstValid', restValid'⟩ := List.forall_mem_cons.mp valid'.pieces
          obtain ⟨rfl, sameRest⟩ := Piece.written_append_inj firstValid firstValid' same
          have sameOthers := ih ⟨restValid, valid.tail⟩ others ⟨restValid', valid'.tail⟩ sameRest
          cases sameOthers
          rfl

/-! ## Outcomes -/

theorem braces_cases (chars : List Char) :
    HasNoBrace chars ∨ ∃ expression rest, HasNoBrace expression ∧
      (chars = expression ++ '\x7d' :: rest ∨ chars = expression ++ '\x7b' :: rest) := by
  induction chars with
  | nil => exact .inl hasNoBrace_nil
  | cons c chars ih =>
      by_cases closing : c = '\x7d'
      · exact .inr ⟨[], chars, hasNoBrace_nil, .inl (by rw [closing]; rfl)⟩
      by_cases opening : c = '\x7b'
      · exact .inr ⟨[], chars, hasNoBrace_nil, .inr (by rw [opening]; rfl)⟩
      have noBrace {expression : List Char} (none : HasNoBrace expression) :
          HasNoBrace (c :: expression) :=
        hasNoBrace_cons_iff.mpr ⟨⟨opening, closing⟩, none⟩
      obtain none | ⟨expression, rest, none, rfl | rfl⟩ := ih
      · exact .inl (noBrace none)
      · exact .inr ⟨c :: expression, rest, noBrace none, .inl rfl⟩
      · exact .inr ⟨c :: expression, rest, noBrace none, .inr rfl⟩

/-- Behind valid pieces and some literal text stands the opening brace of a broken expression. -/
def BreaksAt (chars before : List Char) (complaint : String) : Prop :=
  ∃ spelling : Spelling, spelling.IsValid ∧ before = spelling.written ∧
    ∃ rest, chars = before ++ '\x7b' :: rest ∧ IsBroken rest complaint

/-- The first expression of a text is broken, or it belongs to a valid piece, or there is none. -/
theorem first_cases (chars : List Char) :
    '\x7b' ∉ chars ∨ (∃ piece : Piece, piece.IsValid ∧ ∃ rest, chars = piece.written ++ rest) ∨
      ∃ before complaint, BreaksAt chars before complaint := by
  by_cases opens : '\x7b' ∈ chars
  · obtain ⟨literal, behind, rfl, noOpening⟩ := List.eq_append_cons_of_mem opens
    have breaks {complaint : String} (broken : IsBroken behind complaint) :
        ∃ before complaint, BreaksAt (literal ++ '\x7b' :: behind) before complaint :=
      ⟨literal, complaint, ⟨[], literal⟩, ⟨by simp, noOpening⟩, rfl, behind, rfl, broken⟩
    refine .inr ?_
    obtain none | ⟨expression, rest, none, rfl | rfl⟩ := braces_cases behind
    · exact .inr (breaks (.unterminated none))
    · by_cases unnamed : nameIn expression = []
      · exact .inr (breaks (.empty none unnamed))
      · refine .inl ⟨⟨literal, expression⟩, ⟨noOpening, none, unnamed⟩, rest, ?_⟩
        rw [Piece.written_append]
    · exact .inr (breaks (.nested none))
  · exact .inl opens

/-- Every text is spelled in a valid way or breaks somewhere. -/
theorem spelled_or_breaks (chars : List Char) :
    (∃ spelling : Spelling, spelling.IsValid ∧ chars = spelling.written) ∨
      ∃ before complaint, BreaksAt chars before complaint := by
  generalize size : chars.length = bound
  induction bound using Nat.strong_induction_on generalizing chars with
  | _ bound ih =>
      obtain noOpening | ⟨piece, valid, rest, rfl⟩ | breaks := first_cases chars
      · exact .inl ⟨⟨[], chars⟩, ⟨by simp, noOpening⟩, rfl⟩
      · have shorter : rest.length < bound := by
          rw [← size, Piece.written_append]
          simp
          omega
        have extend {spelling : Spelling} (spelled : spelling.IsValid) :
            Spelling.IsValid ⟨piece :: spelling.pieces, spelling.tail⟩ :=
          ⟨List.forall_mem_cons.mpr ⟨valid, spelled.pieces⟩, spelled.tail⟩
        obtain ⟨spelling, spelled, rfl⟩ |
            ⟨_, complaint, spelling, spelled, rfl, behind, rfl, broken⟩ :=
          ih rest.length shorter rest rfl
        · exact .inl ⟨_, extend spelled, by simp [Spelling.written]⟩
        · exact .inr ⟨_, complaint, _, extend spelled, rfl, behind, by simp [Spelling.written],
            broken⟩
      · exact .inr breaks

theorem parseSegments_pieces (offset : Nat) {pieces : List Piece}
    (valid : ∀ piece ∈ pieces, piece.IsValid) (rest : List Char) :
    parseSegments offset (pieces.flatMap Piece.written ++ rest) =
      (parseSegments (offset + byteLength (pieces.flatMap Piece.written)) rest).map
        (withoutEmpty (pieces.flatMap Piece.segments) ++ ·) := by
  induction pieces generalizing offset with
  | nil =>
      rw [List.flatMap_nil, List.nil_append, byteLength, Nat.add_zero]
      cases parseSegments offset rest <;> rfl
  | cons piece pieces ih =>
      obtain ⟨firstValid, restValid⟩ := List.forall_mem_cons.mp valid
      rw [List.flatMap_cons, List.flatMap_cons, List.append_assoc,
        parseSegments_piece offset firstValid, ih _ restValid, byteLength_append,
        withoutEmpty_append, Nat.add_assoc]
      cases parseSegments _ rest with
      | error fault => rfl
      | ok segments => simp only [Except.map, List.append_assoc]

theorem parse_spelled {text : String} {spelling : Spelling} (valid : spelling.IsValid)
    (spelled : text.toList = spelling.written) : parse text = .ok ⟨text, spelling.segments⟩ := by
  have parsed : parseSegments 0 text.toList = .ok spelling.segments := by
    rw [spelled, Spelling.written, parseSegments_pieces 0 valid.pieces,
      parseSegments_tail _ valid.tail, literalSegment_eq, Except.map, ← withoutEmpty_append]
    rfl
  rw [parse, parseFault, parsed]
  rfl

theorem parse_breaks {text : String} {before : List Char} {complaint : String}
    (breaks : BreaksAt text.toList before complaint) :
    parse text = .error (.template text
      (complaint ++ " at offset " ++ toString (String.ofList before).utf8ByteSize)) := by
  obtain ⟨⟨pieces, tail⟩, valid, rfl, rest, whole, broken⟩ := breaks
  obtain ⟨fault, fails, message⟩ :=
    parseSegments_broken (byteLength (pieces.flatMap Piece.written)) valid.tail broken
  have failed : parseSegments 0 text.toList = .error fault := by
    rw [whole, Spelling.written, List.append_assoc, parseSegments_pieces 0 valid.pieces,
      Nat.zero_add, fails]
    rfl
  rw [← byteLength_append, byteLength_eq] at message
  rw [parse, parseFault, failed, Spelling.written, ← message]
  rfl

/-- Pieces with an expression that names nothing break at the first one. -/
theorem exists_breaksAt_of_unnamed {pieces : List Piece}
    (literals : ∀ piece ∈ pieces, '\x7b' ∉ piece.literal)
    (expressions : ∀ piece ∈ pieces, HasNoBrace piece.expression)
    (unnamed : ∃ piece ∈ pieces, nameIn piece.expression = []) (rest : List Char) :
    ∃ before, BreaksAt (pieces.flatMap Piece.written ++ rest) before "empty variable name" := by
  induction pieces with
  | nil => simp at unnamed
  | cons piece pieces ih =>
      obtain ⟨literal, otherLiterals⟩ := List.forall_mem_cons.mp literals
      obtain ⟨expression, otherExpressions⟩ := List.forall_mem_cons.mp expressions
      rw [List.flatMap_cons, List.append_assoc]
      by_cases named : nameIn piece.expression = []
      · refine ⟨piece.literal, ⟨[], piece.literal⟩, ⟨nofun, literal⟩, rfl, _,
          piece.written_append _, .empty expression named⟩
      · have later : ∃ piece ∈ pieces, nameIn piece.expression = [] := by simpa [named] using unnamed
        obtain ⟨_, spelling, spelled, rfl, behind, whole, broken⟩ :=
          ih otherLiterals otherExpressions later
        have valid : piece.IsValid := ⟨literal, expression, named⟩
        refine ⟨_, ⟨piece :: spelling.pieces, spelling.tail⟩,
          ⟨List.forall_mem_cons.mpr ⟨valid, spelled.pieces⟩, spelled.tail⟩, rfl, behind, ?_, broken⟩
        rw [whole]
        simp [Spelling.written]

/-- A text in pieces is parsed if and only if all of them name something. -/
theorem parse_pieces_eq_ok_iff {text : String} {template : Template} {spelling : Spelling}
    (spelled : text.toList = spelling.written)
    (literals : ∀ piece ∈ spelling.pieces, '\x7b' ∉ piece.literal)
    (expressions : ∀ piece ∈ spelling.pieces, HasNoBrace piece.expression)
    (tail : '\x7b' ∉ spelling.tail) :
    parse text = .ok template ↔
      (∀ piece ∈ spelling.pieces, nameIn piece.expression ≠ []) ∧
        template = ⟨text, spelling.segments⟩ := by
  by_cases named : ∀ piece ∈ spelling.pieces, nameIn piece.expression ≠ []
  · have valid : spelling.IsValid :=
      ⟨fun piece member => ⟨literals piece member, expressions piece member, named piece member⟩,
        tail⟩
    rw [parse_spelled valid spelled, Except.ok.injEq, and_iff_right named, eq_comm]
  · have unnamed : ∃ piece ∈ spelling.pieces, nameIn piece.expression = [] := by
      simpa using named
    obtain ⟨before, breaks⟩ :=
      exists_breaksAt_of_unnamed literals expressions unnamed spelling.tail
    rw [← Spelling.written, ← spelled] at breaks
    rw [parse_breaks breaks]
    exact iff_of_false nofun fun both => named both.1

/-! ## Variables -/

theorem map_name_distinctNames (seen ahead : List Variable) :
    (distinctNames seen ahead).map (·.name) =
      List.eraseDupsBy.loop (· == ·) (ahead.map (·.name)) (seen.map (·.name)) := by
  induction ahead generalizing seen with
  | nil => rw [distinctNames, List.map_nil, List.eraseDupsBy.loop, List.map_reverse]
  | cons placeholder rest ih =>
      have known : (seen.map (·.name)).any (placeholder.name == ·) =
          seen.any (·.name == placeholder.name) := by
        rw [List.any_map]
        exact List.any_congr rfl fun earlier => BEq.comm
      rw [distinctNames, List.map_cons, List.eraseDupsBy.loop, known]
      cases seen.any (·.name == placeholder.name) with
      | true => exact ih seen
      | false => exact ih (placeholder :: seen)

/-- Variables are told apart by their names alone. -/
theorem map_name_placeholders (template : Template) :
    template.placeholders.map (·.name) =
      ((template.segments.filterMap Segment.variable?).map (·.name)).eraseDups :=
  map_name_distinctNames [] _

/-! ## Segments -/

theorem empty_not_mem_segments (spelling : Spelling) : .literal "" ∉ spelling.segments := by
  simp [Spelling.segments, withoutEmpty]

/-- One of two neighbours is a variable. -/
def Alternate (segments : List Segment) : Prop :=
  segments.IsChain fun left right => left.variable?.isSome ∨ right.variable?.isSome

theorem Alternate.cons_variable {segments : List Segment} (alternate : Alternate segments)
    (placeholder : Variable) : Alternate (.variable placeholder :: segments) :=
  alternate.cons fun _ _ => .inl rfl

theorem alternate_segments (spelling : Spelling) : Alternate spelling.segments := by
  obtain ⟨pieces, tail⟩ := spelling
  induction pieces with
  | nil =>
      have last : Spelling.segments ⟨[], tail⟩ = literalSegment tail :=
        (literalSegment_eq tail).symm
      rw [last, literalSegment]
      split
      next => exact .nil
      next => exact .singleton _
  | cons piece pieces ih =>
      have front : Spelling.segments ⟨piece :: pieces, tail⟩ =
          literalSegment piece.literal ++
            .variable piece.placeholder :: Spelling.segments ⟨pieces, tail⟩ := by
        rw [Spelling.segments, List.flatMap_cons, List.append_assoc, withoutEmpty_append,
          withoutEmpty_piece, List.append_assoc]
        rfl
      have behind := ih.cons_variable piece.placeholder
      rw [front, literalSegment]
      split
      next => exact behind
      next => exact behind.cons fun _ first => .inr (by cases first; rfl)

/-- A text is parsed if and only if it has a valid spelling, which is the only one then, and the
segments are those of the spelling: no literal text among them is empty and no two of them are
neighbours. In every other text there is an expression behind valid pieces that is nested,
unterminated or empty, and the message tells how many bytes stand in front of its opening brace. -/
theorem parse_exact (text : String) :
    ((∃ template, parse text = .ok template) ↔
      ∃! spelling : Spelling, spelling.IsValid ∧ text.toList = spelling.written) ∧
    (∀ template, parse text = .ok template ↔
      ∃ spelling : Spelling, spelling.IsValid ∧ text.toList = spelling.written ∧
        template = ⟨text, spelling.segments⟩) ∧
    (∀ template, parse text = .ok template →
      .literal "" ∉ template.segments ∧ Alternate template.segments) ∧
    ∀ error, parse text = .error error ↔
      ∃ before complaint, BreaksAt text.toList before complaint ∧
        error = .template text
          (complaint ++ " at offset " ++ toString (String.ofList before).utf8ByteSize) := by
  have spelled : ∀ template, parse text = .ok template ↔
      ∃ spelling : Spelling, spelling.IsValid ∧ text.toList = spelling.written ∧
        template = ⟨text, spelling.segments⟩ := by
    intro template
    constructor
    · intro parsed
      obtain ⟨spelling, valid, whole⟩ | ⟨before, complaint, breaks⟩ := spelled_or_breaks text.toList
      · rw [parse_spelled valid whole] at parsed
        cases parsed
        exact ⟨spelling, valid, whole, rfl⟩
      · rw [parse_breaks breaks] at parsed
        cases parsed
    · rintro ⟨spelling, valid, whole, rfl⟩
      exact parse_spelled valid whole
  refine ⟨⟨?unique, ?accepted⟩, spelled, ?segments, fun error => ⟨?broken, ?refused⟩⟩
  case unique =>
    rintro ⟨template, parsed⟩
    obtain ⟨spelling, valid, whole, -⟩ := (spelled template).mp parsed
    refine ⟨spelling, ⟨valid, whole⟩, fun other isOther => ?_⟩
    exact Spelling.written_inj isOther.1 valid (isOther.2.symm.trans whole)
  case accepted =>
    rintro ⟨spelling, ⟨valid, whole⟩, -⟩
    exact ⟨_, parse_spelled valid whole⟩
  case segments =>
    intro template parsed
    obtain ⟨spelling, -, -, rfl⟩ := (spelled template).mp parsed
    exact ⟨empty_not_mem_segments spelling, alternate_segments spelling⟩
  case broken =>
    intro failed
    obtain ⟨spelling, valid, whole⟩ | ⟨before, complaint, breaks⟩ := spelled_or_breaks text.toList
    · rw [parse_spelled valid whole] at failed
      cases failed
    · rw [parse_breaks breaks] at failed
      cases failed
      exact ⟨before, complaint, breaks, rfl⟩
  case refused =>
    rintro ⟨before, complaint, breaks, rfl⟩
    exact parse_breaks breaks

/-! Closing braces in literal text, and an expression without a name. -/

def strayBraces : String :=
  "a\x7d\x7b + +x y \x7d\x7bz\x7d\x7db"

def strayBracesSpelling : Spelling :=
  ⟨[⟨"a\x7d".toList, " + +x y ".toList⟩, ⟨[], "z".toList⟩], "\x7db".toList⟩

def strayBracesTemplate : Template where
  source := strayBraces
  segments :=
    [.literal "a\x7d", .variable ⟨"+x y", .reserved⟩, .variable ⟨"z", .simple⟩, .literal "\x7db"]

def unnamedExpression : String :=
  "\x7bx\x7dé\x7b # \x7d"

/-- Only one mark is taken off a name, and the blanks inside it stay. The offset of the expression
without a name counts `é` as two bytes. -/
theorem parse_exact_strayBraces :
    strayBracesSpelling.IsValid ∧ strayBraces.toList = strayBracesSpelling.written ∧
      parse strayBraces = .ok strayBracesTemplate ∧
      BreaksAt unnamedExpression.toList "\x7bx\x7dé".toList "empty variable name" ∧
      parse unnamedExpression =
        .error (.template unnamedExpression "empty variable name at offset 5") := by
  have valid : strayBracesSpelling.IsValid := by
    have first : Piece.IsValid ⟨"a\x7d".toList, " + +x y ".toList⟩ :=
      ⟨by decide, ⟨by decide, by decide⟩, by decide⟩
    have second : Piece.IsValid ⟨[], "z".toList⟩ :=
      ⟨by decide, ⟨by decide, by decide⟩, by decide⟩
    exact ⟨List.forall_mem_cons.mpr ⟨first, List.forall_mem_singleton.mpr second⟩, by decide⟩
  have whole : strayBraces.toList = strayBracesSpelling.written := by decide
  have breaks : BreaksAt unnamedExpression.toList "\x7bx\x7dé".toList "empty variable name" := by
    have front : Piece.IsValid ⟨[], "x".toList⟩ := ⟨by decide, ⟨by decide, by decide⟩, by decide⟩
    have unnamed : IsBroken " # \x7d".toList "empty variable name" :=
      @IsBroken.empty " # ".toList [] ⟨by decide, by decide⟩ (by decide)
    exact ⟨⟨[⟨[], "x".toList⟩], "é".toList⟩, ⟨List.forall_mem_singleton.mpr front, by decide⟩,
      by decide, " # \x7d".toList, by decide, unnamed⟩
  obtain ⟨-, accepted, -, -⟩ := parse_exact strayBraces
  obtain ⟨-, -, -, refused⟩ := parse_exact unnamedExpression
  exact ⟨valid, whole, (accepted _).mpr ⟨strayBracesSpelling, valid, whole, by decide⟩, breaks,
    (refused _).mpr ⟨_, _, breaks, by decide⟩⟩

end RdfPipeline.Template
