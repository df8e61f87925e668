import Mathlib.Data.List.DropRight
import RdfPipeline.Text.Blank

/-!
# Trimmed and collapsed texts

Cutting blanks from both ends leaves the one trimmed text between them, and collapsing puts one `_`
in the place of every longest run of blanks.
-/

set_option autoImplicit false

namespace RdfPipeline.Text

theorem not_isBlank_of_graphic {c : Char} (above : 32 < c.toNat) (below : c.toNat < 127) :
    isBlank c = false := by
  simp only [isBlank, Bool.or_eq_false_iff, Bool.and_eq_false_iff, decide_eq_false_iff_not,
    beq_eq_false_iff_ne]
  omega

/-! ## Trimming -/

/-- The text neither starts nor ends with a blank. -/
structure IsTrimmed (chars : List Char) : Prop where
  first : ∀ c ∈ chars.head?, isBlank c = false
  last : ∀ c ∈ chars.getLast?, isBlank c = false

theorem trimEndChars_eq (chars : List Char) : trimEndChars chars = chars.rdropWhile isBlank :=
  rfl

theorem trimStartChars_eq_self {chars : List Char}
    (notBlank : ∀ c ∈ chars.head?, isBlank c = false) : trimStartChars chars = chars := by
  cases chars with
  | nil => rfl
  | cons c rest =>
      rw [trimStartChars, List.dropWhile_cons_of_neg]
      simpa using notBlank c rfl

theorem trimStartChars_append {front : List Char} (blank : ∀ c ∈ front, isBlank c = true)
    (rest : List Char) : trimStartChars (front ++ rest) = trimStartChars rest :=
  List.dropWhile_append_of_pos blank

theorem head?_trimStartChars (chars : List Char) :
    ∀ c ∈ (trimStartChars chars).head?, isBlank c = false := by
  intro c first
  have notBlank := List.head?_dropWhile_not isBlank chars
  rw [Option.mem_def, trimStartChars] at first
  rw [first] at notBlank
  simpa using notBlank

theorem isTrimmed_trimChars (chars : List Char) : IsTrimmed (trimChars chars) := by
  rw [trimChars, trimEndChars_eq]
  refine ⟨fun c first => ?_, fun c last => ?_⟩
  · obtain ⟨rest, whole⟩ := List.rdropWhile_prefix isBlank (trimStartChars chars)
    apply head?_trimStartChars chars
    rw [← whole, List.head?_append, first]
    rfl
  · obtain ⟨nonempty, rfl⟩ := List.mem_getLast?_eq_getLast last
    simpa using List.rdropWhile_last_not isBlank _ nonempty

theorem IsTrimmed.trimEndChars_append {chars back : List Char} (trimmed : IsTrimmed chars)
    (blank : ∀ c ∈ back, isBlank c = true) : trimEndChars (chars ++ back) = chars := by
  have blankReversed : ∀ c ∈ back.reverse, isBlank c = true := by simpa using blank
  have lastFirst : ∀ c ∈ chars.reverse.head?, isBlank c = false := by
    simpa using trimmed.last
  rw [trimEndChars, List.reverse_append, ← trimStartChars, trimStartChars_append blankReversed,
    trimStartChars_eq_self lastFirst, List.reverse_reverse]

/-- Trimming takes away what is blank in front of and behind a trimmed text. -/
theorem IsTrimmed.trimChars_append {front chars back : List Char} (trimmed : IsTrimmed chars)
    (blankFront : ∀ c ∈ front, isBlank c = true) (blankBack : ∀ c ∈ back, isBlank c = true) :
    trimChars (front ++ (chars ++ back)) = chars := by
  rw [trimChars, trimStartChars_append blankFront]
  cases chars with
  | nil =>
      have allBlank : trimStartChars back = [] := List.dropWhile_eq_nil_iff.mpr blankBack
      rw [List.nil_append, allBlank]
      rfl
  | cons c rest =>
      have first : ∀ d ∈ (c :: rest ++ back).head?, isBlank d = false := trimmed.first
      rw [trimStartChars_eq_self first, trimmed.trimEndChars_append blankBack]

theorem IsTrimmed.trimChars_eq {chars : List Char} (trimmed : IsTrimmed chars) :
    trimChars chars = chars := by
  have none : ∀ c ∈ ([] : List Char), isBlank c = true := by simp
  simpa using trimmed.trimChars_append none none

theorem exists_blanks_around (chars : List Char) :
    ∃ front back, chars = front ++ (trimChars chars ++ back) ∧
      (∀ c ∈ front, isBlank c = true) ∧ ∀ c ∈ back, isBlank c = true := by
  refine ⟨chars.takeWhile isBlank, (trimStartChars chars).rtakeWhile isBlank, ?_,
    fun c => List.mem_takeWhile_imp, fun c => List.mem_rtakeWhile_imp⟩
  rw [trimChars, trimEndChars_eq, List.rdropWhile_append_rtakeWhile, trimStartChars,
    List.takeWhile_append_dropWhile]

theorem trimChars_sublist (chars : List Char) : (trimChars chars).Sublist chars := by
  obtain ⟨front, back, whole, -⟩ := exists_blanks_around chars
  generalize trimChars chars = within at whole
  rw [whole]
  exact (List.sublist_append_left within back).trans (List.sublist_append_right front _)

/-! ## Collapsing -/

/-- The second text has one `_` for every longest run of blanks in the first, and is the same
elsewhere. -/
inductive Collapses : List Char → List Char → Prop where
  | nil : Collapses [] []
  | keep {c : Char} {chars collapsed : List Char} :
      isBlank c = false → Collapses chars collapsed → Collapses (c :: chars) (c :: collapsed)
  | run {gap chars collapsed : List Char} :
      gap ≠ [] → (∀ c ∈ gap, isBlank c = true) → (∀ c ∈ chars.head?, isBlank c = false) →
      Collapses chars collapsed → Collapses (gap ++ chars) ('_' :: collapsed)

theorem joinBlankRuns_nil : joinBlankRuns [] = [] := by
  rw [joinBlankRuns.eq_def]

theorem joinBlankRuns_cons (c : Char) (rest : List Char) :
    joinBlankRuns (c :: rest) =
      if isBlank c then '_' :: joinBlankRuns (rest.dropWhile isBlank)
      else c :: joinBlankRuns rest := by
  rw [joinBlankRuns.eq_def]

theorem collapses_joinBlankRuns (chars : List Char) : Collapses chars (joinBlankRuns chars) := by
  induction chars using joinBlankRuns.induct with
  | case1 =>
      rw [joinBlankRuns_nil]
      exact .nil
  | case2 c rest blank ih =>
      rw [joinBlankRuns_cons, if_pos blank]
      have whole : c :: rest = c :: rest.takeWhile isBlank ++ rest.dropWhile isBlank := by
        rw [List.cons_append, List.takeWhile_append_dropWhile]
      rw [whole]
      refine .run (List.cons_ne_nil _ _) ?_ (head?_trimStartChars rest) ih
      exact List.forall_mem_cons.mpr ⟨blank, fun d => List.mem_takeWhile_imp⟩
  | case3 c rest notBlank ih =>
      rw [joinBlankRuns_cons, if_neg notBlank]
      exact .keep (by simpa using notBlank) ih

theorem Collapses.eq_joinBlankRuns {chars collapsed : List Char}
    (collapses : Collapses chars collapsed) : collapsed = joinBlankRuns chars := by
  induction collapses with
  | nil => rw [joinBlankRuns_nil]
  | keep notBlank _ ih => rw [joinBlankRuns_cons, if_neg (by simp [notBlank]), ← ih]
  | @run gap chars collapsed nonempty blank first _ ih =>
      obtain ⟨c, rest, rfl⟩ := List.exists_cons_of_ne_nil nonempty
      obtain ⟨cBlank, restBlank⟩ := List.forall_mem_cons.mp blank
      have left : (rest ++ chars).dropWhile isBlank = chars :=
        (trimStartChars_append restBlank chars).trans (trimStartChars_eq_self first)
      rw [List.cons_append, joinBlankRuns_cons, if_pos cBlank, left, ← ih]

end RdfPipeline.Text
