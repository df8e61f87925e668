import Mathlib.Data.List.TakeWhile
import RdfPipeline.Pipeline.Parameters

/-!
# Substitution of variables

A text falls into literal parts and references, from left to right, and where it is cut does not
depend on the variables. Substitution keeps the literal parts and puts the text of a variable in the
place of each reference, so what a variable brings in is never looked at again.
-/

set_option autoImplicit false

namespace RdfPipeline.Parameters

/-! ## References -/

/-- Every opening of a reference has a closing brace behind it. -/
def Closed (chars : List Char) : Prop :=
  ∀ before after, chars = before ++ '$' :: '\x7b' :: after → '\x7d' ∈ after

/-- No opening of a reference has a closing brace behind it. -/
def Inert (chars : List Char) : Prop :=
  ∀ before after, chars = before ++ '$' :: '\x7b' :: after → '\x7d' ∉ after

theorem Closed.of_append {chars : List Char} (front : List Char)
    (closed : Closed (front ++ chars)) : Closed chars := by
  intro before after same
  exact closed (front ++ before) after (by rw [same, List.append_assoc])

theorem Inert.of_append {chars : List Char} (front : List Char)
    (inert : Inert (front ++ chars)) : Inert chars := by
  intro before after same
  exact inert (front ++ before) after (by rw [same, List.append_assoc])

theorem inert_of_no_closing {chars : List Char} (noClosing : '\x7d' ∉ chars) : Inert chars := by
  rintro before after rfl closes
  exact noClosing (by simp [closes])

theorem ne_opening {chars : List Char} (noBrace : '\x7b' ∉ chars) (before after : List Char) :
    chars ≠ before ++ '$' :: '\x7b' :: after := by
  rintro rfl
  exact noBrace (by simp)

theorem splitReference?_append {name : List Char} (noBrace : '\x7d' ∉ name) (rest : List Char) :
    splitReference? (name ++ '\x7d' :: rest) = some (name, rest) := by
  have inName : ∀ c ∈ name, (c != '\x7d') = true := fun c member =>
    bne_iff_ne.mpr fun isBrace => noBrace (isBrace ▸ member)
  rw [splitReference?, List.dropWhile_append_of_pos inName, List.takeWhile_append_of_pos inName]
  simp

theorem splitReference?_of_not_mem {chars : List Char} (noBrace : '\x7d' ∉ chars) :
    splitReference? chars = none := by
  have dropped : chars.dropWhile (· != '\x7d') = [] :=
    List.dropWhile_eq_nil_iff.mpr fun c member =>
      bne_iff_ne.mpr fun isBrace => noBrace (isBrace ▸ member)
  rw [splitReference?, dropped]

theorem splitReference?_eq_none_iff {chars : List Char} :
    splitReference? chars = none ↔ '\x7d' ∉ chars := by
  refine ⟨fun unsplit closes => ?_, splitReference?_of_not_mem⟩
  obtain ⟨name, rest, rfl, noBrace⟩ := List.eq_append_cons_of_mem closes
  rw [splitReference?_append noBrace] at unsplit
  cases unsplit

theorem eq_of_splitReference?_eq_some {chars name rest : List Char}
    (split : splitReference? chars = some (name, rest)) :
    chars = name ++ '\x7d' :: rest ∧ '\x7d' ∉ name := by
  by_cases closes : '\x7d' ∈ chars
  · obtain ⟨first, others, rfl, noBrace⟩ := List.eq_append_cons_of_mem closes
    rw [splitReference?_append noBrace] at split
    cases split
    exact ⟨rfl, noBrace⟩
  · rw [splitReference?_of_not_mem closes] at split
    cases split

/-! ## One pass -/

section Pass

variable (bindings : Variables)

theorem substituteChars_reference {name : List Char} (noBrace : '\x7d' ∉ name)
    (rest : List Char) :
    substituteChars bindings ('$' :: '\x7b' :: (name ++ '\x7d' :: rest)) =
      (variableText bindings name).toList ++ substituteChars bindings rest := by
  rw [substituteChars]
  split
  next found =>
    rw [splitReference?_append noBrace] at found
    cases found
    rfl
  next unsplit =>
    rw [splitReference?_append noBrace] at unsplit
    cases unsplit

theorem substituteChars_opening {rest : List Char} (unsplit : splitReference? rest = none) :
    substituteChars bindings ('$' :: '\x7b' :: rest) =
      '$' :: '\x7b' :: substituteChars bindings rest := by
  rw [substituteChars]
  split
  next found =>
    rw [unsplit] at found
    cases found
  next => rfl

/-- What stands in front of a reference is substituted on its own, unless it has an opening that
the reference closes. -/
theorem Closed.substituteChars_append {front : List Char} (closed : Closed front)
    (rest : List Char) :
    substituteChars bindings (front ++ '$' :: '\x7b' :: rest) =
      substituteChars bindings front ++ substituteChars bindings ('$' :: '\x7b' :: rest) := by
  induction front using substituteChars.induct with
  | case1 => rw [substituteChars.eq_1, List.nil_append, List.nil_append]
  | case2 chars name after split ih =>
      obtain ⟨rfl, noBrace⟩ := eq_of_splitReference?_eq_some split
      have closedAfter : Closed after :=
        .of_append ('$' :: '\x7b' :: (name ++ ['\x7d'])) (by simpa using closed)
      rw [List.cons_append, List.cons_append, List.append_assoc, List.cons_append,
        substituteChars_reference bindings noBrace, substituteChars_reference bindings noBrace,
        ih closedAfter, List.append_assoc]
  | case3 chars unsplit =>
      exact absurd (closed [] chars rfl) (splitReference?_eq_none_iff.mp unsplit)
  | case4 c chars plain ih =>
      -- an opening cannot begin with the last character in front of another one
      have stillPlain : ∀ after, c = '$' → chars ++ '$' :: '\x7b' :: rest = '\x7b' :: after →
          False := by
        intro after isDollar opens
        cases chars with
        | nil => cases opens
        | cons d chars => exact plain chars isDollar (by rw [(List.cons.inj opens).1])
      rw [List.cons_append, substituteChars.eq_3 bindings c _ stillPlain,
        substituteChars.eq_3 bindings c chars plain,
        ih (closed.of_append [c]), List.cons_append]

theorem Inert.substituteChars_eq {chars : List Char} (inert : Inert chars) :
    substituteChars bindings chars = chars := by
  induction chars using substituteChars.induct with
  | case1 => exact substituteChars.eq_1 bindings
  | case2 chars name after split =>
      obtain ⟨rfl, -⟩ := eq_of_splitReference?_eq_some split
      exact absurd (by simp) (inert [] _ rfl)
  | case3 chars unsplit ih =>
      rw [substituteChars_opening bindings unsplit, ih (inert.of_append ['$', '\x7b'])]
  | case4 c chars plain ih =>
      rw [substituteChars.eq_3 bindings c chars plain, ih (inert.of_append [c])]

end Pass

/-! ## Pieces -/

/-- A reference with the literal text in front of it. -/
structure Piece where
  literal : List Char
  name : List Char

namespace Piece

def written (piece : Piece) : List Char :=
  piece.literal ++ '$' :: '\x7b' :: (piece.name ++ ['\x7d'])

def filled (bindings : Variables) (piece : Piece) : List Char :=
  piece.literal ++ (variableText bindings piece.name).toList

/-- The reference is the first one, and it ends at the first closing brace. -/
structure IsFirst (piece : Piece) : Prop where
  literal : ∀ before after, piece.literal ≠ before ++ '$' :: '\x7b' :: after
  name : '\x7d' ∉ piece.name

end Piece

/-- The pieces of a text, from left to right, and the rest without a reference. -/
structure Cut (chars : List Char) (pieces : List Piece) (tail : List Char) : Prop where
  written : chars = pieces.flatMap Piece.written ++ tail
  isFirst : ∀ piece ∈ pieces, piece.IsFirst
  inert : Inert tail
  substituted : ∀ bindings,
    substituteChars bindings chars = pieces.flatMap (Piece.filled bindings) ++ tail

theorem Cut.cons_char {c : Char} {chars tail : List Char} {pieces : List Piece}
    (cut : Cut chars pieces tail) (plain : ∀ after, c = '$' → chars = '\x7b' :: after → False) :
    ∃ pieces tail, Cut (c :: chars) pieces tail := by
  have substituted : ∀ bindings,
      substituteChars bindings (c :: chars) = c :: substituteChars bindings chars :=
    fun bindings => substituteChars.eq_3 bindings c chars plain
  cases pieces with
  | nil =>
      have whole : chars = tail := cut.written
      subst whole
      have inert : Inert (c :: chars) := by
        intro before after same
        rcases List.cons_eq_append_iff.mp same with ⟨rfl, opens⟩ | ⟨front, rfl, later⟩
        · cases opens
          exact absurd rfl (plain after rfl)
        · exact cut.inert front after later
      exact ⟨[], c :: chars, rfl, fun _ none => absurd none List.not_mem_nil, inert,
        fun bindings => inert.substituteChars_eq bindings⟩
  | cons piece pieces =>
      obtain ⟨first, others⟩ := List.forall_mem_cons.mp cut.isFirst
      refine ⟨⟨c :: piece.literal, piece.name⟩ :: pieces, tail, ?_, ?_, cut.inert, ?_⟩
      · rw [cut.written]
        rfl
      · refine List.forall_mem_cons.mpr ⟨⟨fun before after same => ?_, first.name⟩, others⟩
        rcases List.cons_eq_append_iff.mp same with ⟨rfl, opens⟩ | ⟨front, rfl, later⟩
        · obtain ⟨rfl, startsWithBrace⟩ := List.cons.inj opens
          have opens : chars = '\x7b' :: (after ++ '$' :: '\x7b' :: (piece.name ++ ['\x7d']) ++
              (pieces.flatMap Piece.written ++ tail)) := by
            rw [cut.written, List.flatMap_cons, Piece.written, ← startsWithBrace, List.append_assoc]
            rfl
          exact plain _ rfl opens
        · exact first.literal front after later
      · intro bindings
        rw [substituted, cut.substituted]
        rfl

theorem exists_cut (chars : List Char) : ∃ pieces tail, Cut chars pieces tail := by
  induction chars using substituteChars.induct with
  | case1 =>
      refine ⟨[], [], rfl, fun _ none => absurd none List.not_mem_nil, ?_, substituteChars.eq_1⟩
      intro before after same
      cases before <;> cases same
  | case2 chars name after split ih =>
      obtain ⟨rfl, noBrace⟩ := eq_of_splitReference?_eq_some split
      obtain ⟨pieces, tail, cut⟩ := ih
      refine ⟨⟨[], name⟩ :: pieces, tail, ?_, ?_, cut.inert, ?_⟩
      · simp [Piece.written, cut.written]
      · refine List.forall_mem_cons.mpr ⟨⟨fun before after same => ?_, noBrace⟩, cut.isFirst⟩
        cases before <;> cases same
      · intro bindings
        rw [substituteChars_reference bindings noBrace, cut.substituted]
        simp [Piece.filled]
  | case3 chars unsplit =>
      have noBrace := splitReference?_eq_none_iff.mp unsplit
      have inert : Inert ('$' :: '\x7b' :: chars) := inert_of_no_closing (by simpa using noBrace)
      exact ⟨[], _, rfl, fun _ none => absurd none List.not_mem_nil, inert,
        fun bindings => inert.substituteChars_eq bindings⟩
  | case4 c chars plain ih =>
      obtain ⟨pieces, tail, cut⟩ := ih
      exact cut.cons_char plain

/-! ## Texts -/

/-- The string form of the variable that a reference names, blanks around the name aside. -/
theorem variableText_toList (bindings : Variables) (name : String) :
    variableText bindings name.toList =
      ((Dict.get? (Text.trim name) bindings).map Value.toText).getD "" := by
  unfold variableText Text.trim
  cases Dict.get? (String.ofList (Text.trimChars name.toList)) bindings <;> rfl

/-- Substitution is one pass from left to right. A reference behind a text whose openings are closed
is replaced by the text of its variable, and what stands before and behind it is substituted on its
own; a text without a reference stays as it is. Every text is cut in the same way whatever the
variables are, into first references with literal text between them, and exactly the references are
replaced, each once. -/
theorem substitute_single_pass :
    (∀ (bindings : Variables) (before name after : String),
      Closed before.toList → '\x7d' ∉ name.toList →
      substitute (before ++ "$\x7b" ++ name ++ "\x7d" ++ after) bindings =
        substitute before bindings ++
          ((Dict.get? (Text.trim name) bindings).map Value.toText).getD "" ++
          substitute after bindings) ∧
    (∀ (bindings : Variables) (text : String),
      Inert text.toList → substitute text bindings = text) ∧
    ∀ text : String, ∃ (pieces : List Piece) (tail : List Char),
      text.toList = pieces.flatMap Piece.written ++ tail ∧
      (∀ piece ∈ pieces, piece.IsFirst) ∧ Inert tail ∧
      ∀ bindings, (substitute text bindings).toList =
        pieces.flatMap (Piece.filled bindings) ++ tail := by
  refine ⟨?reference, ?inert, ?cut⟩
  case reference =>
    intro bindings before name after closed noBrace
    have chars : (before ++ "$\x7b" ++ name ++ "\x7d" ++ after).toList =
        before.toList ++ '$' :: '\x7b' :: (name.toList ++ '\x7d' :: after.toList) := by
      simp
    rw [substitute, chars, closed.substituteChars_append,
      substituteChars_reference bindings noBrace, variableText_toList, String.ofList_append,
      String.ofList_append, String.ofList_toList, ← String.append_assoc]
    rfl
  case inert =>
    intro bindings text inert
    rw [substitute, inert.substituteChars_eq, String.ofList_toList]
  case cut =>
    intro text
    obtain ⟨pieces, tail, cut⟩ := exists_cut text.toList
    refine ⟨pieces, tail, cut.written, cut.isFirst, cut.inert, fun bindings => ?_⟩
    rw [substitute, String.toList_ofList, cut.substituted]

/-- The opening inside of the name opens nothing, and what the variable brings in is no reference. -/
theorem substitute_single_pass_lookalike :
    let bindings : Variables := [("$\x7bb", .text "$\x7bb\x7d")]
    Closed "$\x7d".toList ∧ '\x7d' ∉ " $\x7bb ".toList ∧ Inert "$\x7bb".toList ∧
      substitute ("$\x7d" ++ "$\x7b" ++ " $\x7bb " ++ "\x7d" ++ "$\x7bb") bindings =
        "$\x7d$\x7bb\x7d$\x7bb" := by
  intro bindings
  have noOpening : ∀ before after, "$\x7d".toList ≠ before ++ '$' :: '\x7b' :: after :=
    ne_opening (by decide)
  have closed : Closed "$\x7d".toList := fun before after same =>
    absurd same (noOpening before after)
  have noBrace : '\x7d' ∉ " $\x7bb ".toList := by decide
  have inert : Inert "$\x7bb".toList := inert_of_no_closing (by decide)
  obtain ⟨reference, unchanged, -⟩ := substitute_single_pass
  have front := unchanged bindings "$\x7d" fun before after same =>
    absurd same (noOpening before after)
  refine ⟨closed, noBrace, inert, ?_⟩
  rw [reference bindings _ _ _ closed noBrace, front, unchanged bindings _ inert]
  rfl

end RdfPipeline.Parameters
