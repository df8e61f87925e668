import RdfPipeline.Proofs.Rdf.Validity
import RdfPipeline.Proofs.Shape.PathText

/-!
# The grammar of paths

The property paths of SPARQL, as far as paths are written with them: without prefixed names, `a` and
negated sets. Of the neighbours in a derived text no two are inversions, no two are repetitions, and
no parentheses stand around nothing. The text of a path may have such neighbours, for only sequences
and alternatives are put in parentheses, and it is derived exactly if it has none.
-/

set_option autoImplicit false

namespace RdfPipeline.Shape

open Rdf (Graph Iri Term)

namespace PathGrammar

/-! ## Productions -/

inductive Production where
  | path
  | sequence
  | step
  | element
  | primary

/-- A character between the angle brackets of an IRI. -/
def isIriChar (c : Char) : Bool :=
  decide (0x20 < c.toNat) && !"<>\"\x7b\x7d|^`\\".toList.contains c

/-- The texts of each production. The names in SPARQL are `Path`, `PathSequence`, `PathEltOrInverse`,
`PathElt` and `PathPrimary`. -/
inductive Derives : Production → List Char → Prop where
  | iri {text : List Char} (each : ∀ c ∈ text, isIriChar c = true) :
      Derives .primary ('<' :: (text ++ ['>']))
  | group {text : List Char} (inside : Derives .path text) :
      Derives .primary ('(' :: (text ++ [')']))
  | single {text : List Char} (primary : Derives .primary text) : Derives .element text
  | repeated {text : List Char} {mark : Char} (primary : Derives .primary text)
      (known : mark ∈ ['?', '*', '+']) : Derives .element (text ++ [mark])
  | forward {text : List Char} (element : Derives .element text) : Derives .step text
  | backward {text : List Char} (element : Derives .element text) : Derives .step ('^' :: text)
  | lastStep {text : List Char} (last : Derives .step text) : Derives .sequence text
  | nextStep {text rest : List Char} (first : Derives .step text)
      (others : Derives .sequence rest) : Derives .sequence (text ++ '/' :: rest)
  | lastChoice {text : List Char} (last : Derives .sequence text) : Derives .path text
  | nextChoice {text rest : List Char} (first : Derives .sequence text)
      (others : Derives .path rest) : Derives .path (text ++ '|' :: rest)

/-! ## Skeletons -/

/-- The text without what stands behind the opening bracket of an IRI up to the closing one; the flag
tells whether the text starts inside of an IRI. -/
def skeleton : Bool → List Char → List Char
  | _, [] => []
  | true, c :: rest => skeleton (c != '>') rest
  | false, c :: rest => c :: skeleton (c == '<') rest

/-- The text ends outside of IRIs, so that what stands behind it is not part of one. -/
def IsWhole (text : List Char) : Prop :=
  ∀ rest, skeleton false (text ++ rest) = skeleton false text ++ skeleton false rest

section Skeleton

variable {text : List Char}

theorem skeleton_of_iri (noClosing : '>' ∉ text) (rest : List Char) :
    skeleton true (text ++ '>' :: rest) = skeleton false rest := by
  induction text with
  | nil => rfl
  | cons c text ih =>
      obtain ⟨other, noClosing⟩ := not_or.mp (List.mem_cons.not.mp noClosing)
      have goesOn : (c != '>') = true := bne_iff_ne.mpr (Ne.symm other)
      rw [List.cons_append, skeleton, goesOn, ih noClosing]

theorem skeleton_iri (noClosing : '>' ∉ text) (rest : List Char) :
    skeleton false ('<' :: (text ++ '>' :: rest)) = '<' :: skeleton false rest :=
  congrArg ('<' :: ·) (skeleton_of_iri noClosing rest)

theorem skeleton_cons {c : Char} (other : c ≠ '<') (rest : List Char) :
    skeleton false (c :: rest) = c :: skeleton false rest := by
  rw [skeleton, beq_eq_false_iff_ne.mpr other]

theorem isWhole_nil : IsWhole [] :=
  fun _ => rfl

theorem isWhole_iri (noClosing : '>' ∉ text) : IsWhole ('<' :: (text ++ ['>'])) := by
  intro rest
  rw [skeleton_iri noClosing, List.cons_append, List.append_assoc, List.cons_append,
    List.nil_append, skeleton_iri noClosing]
  rfl

theorem IsWhole.cons {c : Char} (other : c ≠ '<') (whole : IsWhole text) : IsWhole (c :: text) := by
  intro rest
  rw [List.cons_append, skeleton_cons other, skeleton_cons other, whole, List.cons_append]

theorem IsWhole.append {rest : List Char} (whole : IsWhole text) (wholeRest : IsWhole rest) :
    IsWhole (text ++ rest) := by
  intro more
  rw [List.append_assoc, whole, whole, wholeRest, List.append_assoc]

end Skeleton

/-! ## Neighbours -/

/-- Two inversions, two repetitions, or parentheses around nothing. -/
def Clash (left right : Char) : Prop :=
  left = '^' ∧ right = '^' ∨ Path.Repetition.isMark left = true ∧
    Path.Repetition.isMark right = true ∨ left = '(' ∧ right = ')'

instance (left right : Char) : Decidable (Clash left right) :=
  inferInstanceAs (Decidable (_ ∨ _ ∨ _))

/-- No two neighbours clash. -/
abbrev IsClean (chars : List Char) : Prop :=
  chars.IsChain fun left right => ¬Clash left right

/-- Two texts with a mark in between are clean if each of them is clean next to the mark. -/
theorem isClean_joined {front rest : List Char} {left mark right : Char} (whole : IsWhole front)
    (other : mark ≠ '<') (cleanFront : IsClean (left :: (skeleton false front ++ [mark])))
    (cleanRest : IsClean (mark :: (skeleton false rest ++ [right]))) :
    IsClean (left :: (skeleton false (front ++ mark :: rest) ++ [right])) := by
  rw [whole, skeleton_cons other, List.append_assoc, List.cons_append, ← List.cons_append,
    IsClean, List.isChain_split]
  exact ⟨cleanFront, cleanRest⟩

/-! ## Derived texts -/

/-- What may stand around the texts of a production: only primaries and elements stand behind an
inversion, and only primaries in front of a repetition. -/
def Production.Admits : Production → Char → Char → Prop
  | .primary, _, _ => True
  | .element, _, right => Path.Repetition.isMark right = false
  | _, left, right => left ≠ '^' ∧ Path.Repetition.isMark right = false

theorem not_mem_of_isIriChar {text : List Char} (each : ∀ c ∈ text, isIriChar c = true) :
    '>' ∉ text :=
  fun closing => absurd (each '>' closing) (by decide)

theorem of_mem_marks {mark : Char} (known : mark ∈ ['?', '*', '+']) :
    mark = '?' ∨ mark = '*' ∨ mark = '+' := by
  simpa using known

theorem not_opening_of_mem_marks {mark : Char} (known : mark ∈ ['?', '*', '+']) : mark ≠ '<' := by
  rcases of_mem_marks known with rfl | rfl | rfl <;> decide

namespace Derives

variable {production : Production} {text : List Char}

theorem isWhole (derived : Derives production text) : IsWhole text := by
  induction derived with
  | iri each => exact isWhole_iri (not_mem_of_isIriChar each)
  | group _ ih => exact (ih.append (isWhole_nil.cons (by decide))).cons (by decide)
  | repeated _ known ih => exact ih.append (isWhole_nil.cons (not_opening_of_mem_marks known))
  | backward _ ih => exact ih.cons (by decide)
  | nextStep _ _ first others | nextChoice _ _ first others =>
      exact first.append (others.cons (by decide))
  | single _ ih | forward _ ih | lastStep _ ih | lastChoice _ ih => exact ih

/-- Derived texts are clean, also together with what may stand around them. -/
theorem isClean (derived : Derives production text) :
    ∀ {left right : Char}, production.Admits left right →
      IsClean (left :: (skeleton false text ++ [right])) := by
  -- Both ends are kept in the statement, so that the texts of a production can be joined.
  induction derived with
  | iri each =>
      intro left right _
      rw [skeleton_iri (not_mem_of_isIriChar each)]
      simp [skeleton, Clash, Path.Repetition.isMark]
  | group inside ih =>
      intro left right _
      have closed : IsClean (')' :: (skeleton false [] ++ [right])) := by
        simp [skeleton, Clash, Path.Repetition.isMark]
      rw [skeleton_cons (by decide), List.cons_append, IsClean, List.isChain_cons_cons]
      refine ⟨by simp [Clash, Path.Repetition.isMark], ?_⟩
      exact isClean_joined inside.isWhole (by decide) (ih ⟨by decide, rfl⟩) closed
  | @repeated text mark primary known ih =>
      intro left right admits
      have free : Path.Repetition.isMark right = false := admits
      have separate : ¬Clash mark right := by
        rcases of_mem_marks known with rfl | rfl | rfl <;> simp [Clash, free]
      have closed : IsClean (mark :: (skeleton false [] ++ [right])) := by
        simpa [skeleton] using separate
      exact isClean_joined primary.isWhole (not_opening_of_mem_marks known) (ih trivial) closed
  | backward element ih =>
      intro left right admits
      rw [skeleton_cons (by decide), List.cons_append, IsClean, List.isChain_cons_cons]
      refine ⟨by simp [Clash, Path.Repetition.isMark, admits.1], ih admits.2⟩
  | nextStep first _ ih ihOthers =>
      intro left right admits
      exact isClean_joined first.isWhole (by decide) (ih ⟨admits.1, rfl⟩)
        (ihOthers ⟨by decide, admits.2⟩)
  | nextChoice first _ ih ihOthers =>
      intro left right admits
      exact isClean_joined first.isWhole (by decide) (ih ⟨admits.1, rfl⟩)
        (ihOthers ⟨by decide, admits.2⟩)
  | single _ ih => exact fun _ => ih trivial
  | forward _ ih => exact fun admits => ih admits.2
  | lastStep _ ih | lastChoice _ ih => exact ih

end Derives

end PathGrammar

open PathGrammar

namespace Path

/-! ## Paths without stacked operators -/

/-- No inversion stands on another one and no repetition on another one, through the operators of
the other kind as well, and no collection is empty. -/
inductive IsUnstacked : Path → Prop where
  | predicate (iri : Iri) : IsUnstacked (.predicate iri)
  | inverse {path : Path} (inner : IsUnstacked path) (first : path.spine.inversions = 0) :
      IsUnstacked (.inverse path)
  | sequence {parts : List Path} (nonempty : parts ≠ [])
      (each : ∀ part ∈ parts, IsUnstacked part) : IsUnstacked (.sequence parts)
  | alternative {parts : List Path} (nonempty : parts ≠ [])
      (each : ∀ part ∈ parts, IsUnstacked part) : IsUnstacked (.alternative parts)
  | zeroOrMore {path : Path} (inner : IsUnstacked path) (first : path.spine.repetitions = []) :
      IsUnstacked (.zeroOrMore path)
  | oneOrMore {path : Path} (inner : IsUnstacked path) (first : path.spine.repetitions = []) :
      IsUnstacked (.oneOrMore path)
  | zeroOrOne {path : Path} (inner : IsUnstacked path) (first : path.spine.repetitions = []) :
      IsUnstacked (.zeroOrOne path)

theorem IsUnstacked.spine_le {path : Path} (unstacked : path.IsUnstacked) :
    path.spine.inversions ≤ 1 ∧ path.spine.repetitions.length ≤ 1 := by
  induction unstacked with
  | predicate | sequence | alternative => exact ⟨Nat.zero_le 1, Nat.zero_le 1⟩
  | inverse _ first ih => exact ⟨Nat.le_of_eq (congrArg (· + 1) first), ih.2⟩
  | zeroOrMore _ first ih | oneOrMore _ first ih | zeroOrOne _ first ih =>
      refine ⟨ih.1, ?_⟩
      rw [spine, Spine.repeated, first]
      exact Nat.le_refl 1

/-! ## Unstacked paths are derived -/

/-- The IRIs of the path may stand between angle brackets. -/
abbrev HasIriChars (path : Path) : Prop :=
  ∀ iri ∈ path.predicates, ∀ c ∈ iri.text.toList, isIriChar c = true

theorem Repetition.mark_mem (repetition : Repetition) : repetition.mark ∈ ['?', '*', '+'] := by
  cases repetition <;> decide

theorem Spine.derives_step {spine : Spine} (inversions : spine.inversions ≤ 1)
    (repetitions : spine.repetitions.length ≤ 1)
    (core : Derives .primary spine.core.toPath.chars) : Derives .step spine.chars := by
  have element : Derives .element
      (spine.core.toPath.chars ++ spine.repetitions.map Repetition.mark) := by
    cases known : spine.repetitions with
    | nil => simpa using Derives.single core
    | cons repetition rest =>
        rw [known] at repetitions
        have alone : rest = [] := by simpa using repetitions
        subst alone
        exact .repeated core repetition.mark_mem
  rw [Spine.chars]
  obtain none | one := Nat.le_one_iff_eq_zero_or_eq_one.mp inversions
  · rw [none]
    exact .forward element
  · rw [one]
    exact .backward element

/-- The members of a collection form one derived text if each of them is a step. -/
theorem exists_derived_members {production : Production} (separator : Char)
    (last : ∀ {text : List Char}, Derives .step text → Derives production text)
    (next : ∀ {text rest : List Char}, Derives .step text → Derives production rest →
      Derives production (text ++ separator :: rest))
    {parts : List Path} (nonempty : parts ≠ [])
    (each : ∀ part ∈ parts, Derives .step part.chars) :
    ∃ inside, memberChars separator parts = inside ++ [')'] ∧ Derives production inside := by
  induction parts with
  | nil => exact absurd rfl nonempty
  | cons part parts ih =>
      obtain ⟨first, others⟩ := List.forall_mem_cons.mp each
      cases parts with
      | nil => exact ⟨part.chars, rfl, last first⟩
      | cons second parts =>
          obtain ⟨inside, members, derived⟩ := ih (List.cons_ne_nil _ _) others
          refine ⟨part.chars ++ separator :: inside, ?_, next first derived⟩
          rw [List.append_assoc, List.cons_append, ← members]
          rfl

theorem hasIriChars_of_parts {parts : List Path}
    (iriChars : ∀ iri ∈ partPredicates parts, ∀ c ∈ iri.text.toList, isIriChar c = true) :
    ∀ part ∈ parts, part.HasIriChars :=
  fun part member iri mentioned =>
    iriChars iri (mem_partPredicates_iff.mpr ⟨part, member, mentioned⟩)

namespace IsUnstacked

variable {path : Path}

theorem derives_step_of_core (unstacked : path.IsUnstacked)
    (core : Derives .primary path.spine.core.toPath.chars) : Derives .step path.chars := by
  rw [chars_spine]
  exact Spine.derives_step unstacked.spine_le.1 unstacked.spine_le.2 core

theorem derives_core (unstacked : path.IsUnstacked) (iriChars : path.HasIriChars) :
    Derives .primary path.spine.core.toPath.chars := by
  have steps {parts : List Path} (each : ∀ part ∈ parts, part.IsUnstacked)
      (cores : ∀ part ∈ parts, part.HasIriChars →
        Derives .primary part.spine.core.toPath.chars)
      (iriChars : ∀ iri ∈ partPredicates parts, ∀ c ∈ iri.text.toList, isIriChar c = true) :
      ∀ part ∈ parts, Derives .step part.chars :=
    fun part member => (each part member).derives_step_of_core
      (cores part member (hasIriChars_of_parts iriChars part member))
  induction unstacked with
  | predicate iri =>
      rw [spine, Core.toPath, chars_predicate]
      exact .iri (iriChars iri List.mem_cons_self)
  | @sequence parts nonempty each ih =>
      obtain ⟨inside, members, derived⟩ := exists_derived_members '/' .lastStep
        .nextStep nonempty (steps each ih iriChars)
      rw [spine, Core.toPath, chars_sequence, members]
      exact .group (.lastChoice derived)
  | @alternative parts nonempty each ih =>
      obtain ⟨inside, members, derived⟩ := exists_derived_members '|'
        (fun last => .lastChoice (.lastStep last)) (fun first => .nextChoice (.lastStep first))
        nonempty (steps each ih iriChars)
      rw [spine, Core.toPath, chars_alternative, members]
      exact .group derived
  | inverse _ _ ih | zeroOrMore _ _ ih | oneOrMore _ _ ih | zeroOrOne _ _ ih => exact ih iriChars

theorem derives (unstacked : path.IsUnstacked) (iriChars : path.HasIriChars) :
    Derives .path path.chars :=
  .lastChoice (.lastStep (unstacked.derives_step_of_core (unstacked.derives_core iriChars)))

end IsUnstacked

/-! ## Derived paths are unstacked -/

theorem exists_chars_of_inversions {path : Path} (inverted : path.spine.inversions ≠ 0) :
    ∃ rest, path.chars = '^' :: rest := by
  obtain ⟨count, several⟩ := Nat.exists_eq_succ_of_ne_zero inverted
  rw [chars_spine, Spine.chars, several, List.replicate_succ, List.cons_append]
  exact ⟨_, rfl⟩

section Members

variable {separator : Char} {parts : List Path}

theorem isWhole_furtherChars (other : separator ≠ '<')
    (each : ∀ part ∈ parts, IsWhole part.chars) : IsWhole (furtherChars separator parts) := by
  induction parts with
  | nil => exact isWhole_nil.cons (by decide)
  | cons part parts ih =>
      obtain ⟨first, others⟩ := List.forall_mem_cons.mp each
      exact (first.append (ih others)).cons other

theorem isWhole_memberChars (other : separator ≠ '<')
    (each : ∀ part ∈ parts, IsWhole part.chars) : IsWhole (memberChars separator parts) := by
  cases parts with
  | nil => exact isWhole_nil.cons (by decide)
  | cons part parts =>
      obtain ⟨first, others⟩ := List.forall_mem_cons.mp each
      exact first.append (isWhole_furtherChars other others)

/-- The skeleton of the path is clean between some two characters. -/
def IsCleanWithin (path : Path) : Prop :=
  ∃ left right, IsClean (left :: (skeleton false path.chars ++ [right]))

theorem isCleanWithin_of_further (other : separator ≠ '<') {part : Path}
    (each : ∀ member ∈ part :: parts, IsWhole member.chars) {left : Char}
    (clean : IsClean (left :: skeleton false (part.chars ++ furtherChars separator parts))) :
    ∀ member ∈ part :: parts, member.IsCleanWithin := by
  induction parts generalizing part left with
  | nil =>
      rw [each part List.mem_cons_self] at clean
      exact List.forall_mem_singleton.mpr ⟨left, ')', clean⟩
  | cons next parts ih =>
      obtain ⟨first, others⟩ := List.forall_mem_cons.mp each
      rw [first, furtherChars, skeleton_cons other, ← List.cons_append, IsClean,
        List.isChain_split] at clean
      exact List.forall_mem_cons.mpr ⟨⟨left, separator, clean.1⟩, ih others clean.2⟩

theorem isCleanWithin_of_members (other : separator ≠ '<')
    (each : ∀ part ∈ parts, IsWhole part.chars)
    (clean : IsClean ('(' :: skeleton false (memberChars separator parts))) :
    parts ≠ [] ∧ ∀ part ∈ parts, part.IsCleanWithin := by
  cases parts with
  | nil => exact absurd (.inr (.inr ⟨rfl, rfl⟩)) (List.isChain_cons_cons.mp clean).1
  | cons part parts => exact ⟨List.cons_ne_nil _ _, isCleanWithin_of_further other each clean⟩

end Members

namespace IsReadable

variable {path : Path}

theorem isWhole (readable : path.IsReadable) : IsWhole path.chars := by
  obtain ⟨long, noBrackets⟩ := readable
  induction long with
  | predicate iri =>
      rw [chars_predicate]
      exact isWhole_iri (noBrackets iri List.mem_cons_self).2
  | inverse _ ih =>
      rw [chars_inverse]
      exact (ih noBrackets).cons (by decide)
  | sequence _ _ ih =>
      rw [chars_sequence]
      refine (isWhole_memberChars (by decide) fun part member => ?_).cons (by decide)
      exact ih part member (noBrackets_of_parts noBrackets part member)
  | alternative _ ih =>
      rw [chars_alternative]
      refine (isWhole_memberChars (by decide) fun part member => ?_).cons (by decide)
      exact ih part member (noBrackets_of_parts noBrackets part member)
  | zeroOrMore _ ih | oneOrMore _ ih | zeroOrOne _ ih =>
      rw [chars, toText, String.toList_append]
      exact (ih noBrackets).append (isWhole_nil.cons (by decide))

theorem skeleton_marked (readable : path.IsReadable) {repeated : Path} {repetition : Repetition}
    (marked : repeated.chars = path.chars ++ [repetition.mark]) :
    skeleton false repeated.chars = skeleton false path.chars ++ [repetition.mark] := by
  rw [marked, readable.isWhole]
  cases repetition <;> rfl

/-- The mark of the outermost repetition comes last. -/
theorem exists_mark (readable : path.IsReadable) (repeated : path.spine.repetitions ≠ []) :
    ∃ before repetition,
      skeleton false path.chars = before ++ [Repetition.mark repetition] := by
  obtain ⟨long, noBrackets⟩ := readable
  induction long with
  | predicate | sequence | alternative => exact absurd rfl repeated
  | inverse _ ih =>
      obtain ⟨before, repetition, ends⟩ := ih repeated noBrackets
      refine ⟨'^' :: before, repetition, ?_⟩
      rw [chars_inverse, skeleton_cons (by decide), ends, List.cons_append]
  | zeroOrMore long _ =>
      exact ⟨_, _, skeleton_marked ⟨long, noBrackets⟩ (chars_zeroOrMore _)⟩
  | oneOrMore long _ =>
      exact ⟨_, _, skeleton_marked ⟨long, noBrackets⟩ (chars_oneOrMore _)⟩
  | zeroOrOne long _ =>
      exact ⟨_, _, skeleton_marked ⟨long, noBrackets⟩ (chars_zeroOrOne _)⟩

/-- A repetition is clean only if its path is, and if this is no repetition itself. -/
theorem clean_of_marked (readable : path.IsReadable) {repeated : Path} {repetition : Repetition}
    (marked : repeated.chars = path.chars ++ [repetition.mark]) (clean : repeated.IsCleanWithin) :
    path.IsCleanWithin ∧ path.spine.repetitions = [] := by
  obtain ⟨left, right, clean⟩ := clean
  rw [readable.skeleton_marked marked, List.append_assoc, List.singleton_append,
    ← List.cons_append, IsClean, List.isChain_split] at clean
  refine ⟨⟨left, repetition.mark, clean.1⟩, ?_⟩
  by_contra some
  obtain ⟨before, inner, ends⟩ := readable.exists_mark some
  have marks := clean.1
  rw [ends, List.cons_append, List.append_assoc, List.singleton_append, ← List.cons_append,
    List.isChain_split, List.isChain_cons_cons] at marks
  exact marks.2.1 (.inr (.inl ⟨inner.isMark_mark, repetition.isMark_mark⟩))

theorem isUnstacked (readable : path.IsReadable) (clean : path.IsCleanWithin) :
    path.IsUnstacked := by
  obtain ⟨long, noBrackets⟩ := readable
  have grouped {left right : Char} {chars : List Char}
      (clean : IsClean (left :: (skeleton false ('(' :: chars) ++ [right]))) :
      IsClean ('(' :: skeleton false chars) := by
    rw [skeleton_cons (by decide), List.cons_append, IsClean, List.isChain_cons_cons] at clean
    exact clean.2.left_of_append
  induction long with
  | predicate iri => exact .predicate iri
  | @inverse path long ih =>
      obtain ⟨left, right, clean⟩ := clean
      rw [chars_inverse, skeleton_cons (by decide), List.cons_append, IsClean,
        List.isChain_cons_cons] at clean
      refine .inverse (ih ⟨'^', right, clean.2⟩ noBrackets) ?_
      by_contra inverted
      obtain ⟨rest, starts⟩ := exists_chars_of_inversions inverted
      rw [starts, skeleton_cons (by decide), List.cons_append, List.isChain_cons_cons] at clean
      exact clean.2.1 (.inl ⟨rfl, rfl⟩)
  | @sequence parts _ each ih =>
      have noBracketsOf := noBrackets_of_parts noBrackets
      obtain ⟨left, right, clean⟩ := clean
      rw [chars_sequence] at clean
      obtain ⟨nonempty, cleanParts⟩ := isCleanWithin_of_members (by decide)
        (fun part member => isWhole ⟨each part member, noBracketsOf part member⟩) (grouped clean)
      exact .sequence nonempty fun part member =>
        ih part member (cleanParts part member) (noBracketsOf part member)
  | @alternative parts each ih =>
      have noBracketsOf := noBrackets_of_parts noBrackets
      obtain ⟨left, right, clean⟩ := clean
      rw [chars_alternative] at clean
      obtain ⟨nonempty, cleanParts⟩ := isCleanWithin_of_members (by decide)
        (fun part member => isWhole ⟨each part member, noBracketsOf part member⟩) (grouped clean)
      exact .alternative nonempty fun part member =>
        ih part member (cleanParts part member) (noBracketsOf part member)
  | zeroOrMore long ih =>
      obtain ⟨inner, first⟩ := clean_of_marked ⟨long, noBrackets⟩ (chars_zeroOrMore _) clean
      exact .zeroOrMore (ih inner noBrackets) first
  | oneOrMore long ih =>
      obtain ⟨inner, first⟩ := clean_of_marked ⟨long, noBrackets⟩ (chars_oneOrMore _) clean
      exact .oneOrMore (ih inner noBrackets) first
  | zeroOrOne long ih =>
      obtain ⟨inner, first⟩ := clean_of_marked ⟨long, noBrackets⟩ (chars_zeroOrOne _) clean
      exact .zeroOrOne (ih inner noBrackets) first

end IsReadable

end Path

/-! ## Paths of graphs -/

theorem PathGrammar.isIriChar_of_isReferenceChar {c : Char}
    (admitted : Rdf.Reference.isReferenceChar c = true) : isIriChar c = true := by
  by_contra other
  have controls : ∀ code : Fin 33,
      Rdf.Reference.isReferenceChar (Char.ofNat code.val) = false := by decide
  have marks : ("<>\"\x7b\x7d|^`\\".toList.all fun mark =>
      !Rdf.Reference.isReferenceChar mark) = true := by decide
  rw [isIriChar, Bool.and_eq_true, decide_eq_true_eq, not_and_or] at other
  obtain control | mark := other
  · have refused := controls ⟨c.toNat, Nat.lt_succ_of_le (Nat.le_of_not_lt control)⟩
    rw [Char.ofNat_toNat, admitted] at refused
    cases refused
  · rw [Bool.not_eq_true', Bool.not_eq_false, List.contains_iff_mem] at mark
    have refused := List.all_eq_true.mp marks c mark
    rw [admitted] at refused
    cases refused

/-- The text of a path that is read from a graph with valid IRIs is derived from the grammar of SPARQL
if and only if no operator of the path stands on another one of its kind and no alternative is
empty. -/
theorem derives_toText_iff {graph : Graph} {node : Term} {path : Path}
    (valid : ∀ iri ∈ graph.terms.filterMap Term.asIri?, iri.IsValid) (inGraph : node ∈ graph.terms)
    (read : parsePath graph node = .ok path) :
    Derives .path path.toText.toList ↔ path.IsUnstacked := by
  have iriChars {iri : Iri} (isValid : iri.IsValid) : ∀ c ∈ iri.text.toList, isIriChar c = true :=
    fun c member => isIriChar_of_isReferenceChar (Iri.hasReferenceChars_of_parse isValid c member)
  have noBrackets : ∀ iri ∈ graph.terms.filterMap Term.asIri?, Path.HasNoBrackets iri := by
    intro iri mentioned
    have each := iriChars (valid iri mentioned)
    exact ⟨fun opening => absurd (each '<' opening) (by decide),
      fun closing => absurd (each '>' closing) (by decide)⟩
  have readable := parsePath_isReadable noBrackets inGraph read
  constructor
  · intro derived
    exact readable.isUnstacked ⟨'(', ')', derived.isClean ⟨by decide, rfl⟩⟩
  · intro unstacked
    refine unstacked.derives fun iri mentioned => iriChars (valid iri ?_)
    have inTerms := readPath_predicates (maxPathDepth + 1) inGraph path read iri mentioned
    exact List.mem_filterMap.mpr ⟨.iri iri, inTerms, rfl⟩

/-- Being reached by liking friends, any number of times. -/
def likedByFriends : Path :=
  .inverse (.zeroOrMore (.sequence
    [.predicate ⟨"http://ex.org/friend"⟩, .predicate ⟨"http://ex.org/likes"⟩]))

theorem derives_toText_iff_likedByFriends :
    let graph := graphOfPath likedByFriends
    let node : Term := .blank (.fresh 0)
    (∀ iri ∈ graph.terms.filterMap Term.asIri?, iri.IsValid) ∧ node ∈ graph.terms ∧
      parsePath graph node = .ok likedByFriends ∧
      likedByFriends.toText = "^(<http://ex.org/friend>/<http://ex.org/likes>)*" ∧
      Derives .path likedByFriends.toText.toList := by
  intro graph node
  have distinct : Rdf.BlankNode.fresh.Injective := fun _ _ => Rdf.BlankNode.fresh.inj
  have long : likedByFriends.HasLongSequences :=
    .inverse (.zeroOrMore (.sequence (by decide) (List.forall_mem_cons.mpr
      ⟨.predicate _, List.forall_mem_singleton.mpr (.predicate _)⟩)))
  have read : parsePath graph node = .ok likedByFriends :=
    (spells_encode distinct likedByFriends 0 (holdsOnly_graphOfPath likedByFriends)).read long
      (by decide)
  have valid : ∀ iri ∈ graph.terms.filterMap Term.asIri?, iri.IsValid := by
    unfold Iri.IsValid
    decide +kernel
  have inGraph : node ∈ graph.terms := by decide +kernel
  have unstacked : likedByFriends.IsUnstacked :=
    .inverse (.zeroOrMore (.sequence (by simp) (List.forall_mem_cons.mpr
      ⟨.predicate _, List.forall_mem_singleton.mpr (.predicate _)⟩)) rfl) rfl
  exact ⟨valid, inGraph, read, by decide +kernel,
    (derives_toText_iff valid inGraph read).mpr unstacked⟩

/-- An inversion of an inversion, and an alternative between nothing. -/
theorem toText_not_derived :
    let twice := Path.inverse (.inverse (.predicate ⟨"http://ex.org/met"⟩))
    let nothing := Path.alternative []
    let node : Term := .blank (.fresh 0)
    parsePath (graphOfPath twice) node = .ok twice ∧ twice.toText = "^^<http://ex.org/met>" ∧
      ¬Derives .path twice.toText.toList ∧
      parsePath (graphOfPath nothing) node = .ok nothing ∧ nothing.toText = "()" ∧
      ¬Derives .path nothing.toText.toList := by
  intro twice nothing node
  have distinct : Rdf.BlankNode.fresh.Injective := fun _ _ => Rdf.BlankNode.fresh.inj
  have unclean {text : List Char} (clash : ¬IsClean ('(' :: (skeleton false text ++ [')']))) :
      ¬Derives .path text :=
    fun derived => clash (derived.isClean ⟨by decide, rfl⟩)
  refine ⟨?_, by decide +kernel, unclean (by decide +kernel), ?_, by decide +kernel,
    unclean (by decide +kernel)⟩
  · exact (spells_encode distinct twice 0 (holdsOnly_graphOfPath twice)).read
      (.inverse (.inverse (.predicate _))) (by decide)
  · exact (spells_encode distinct nothing 0 (holdsOnly_graphOfPath nothing)).read
      (.alternative (by simp)) (by decide)

end RdfPipeline.Shape
