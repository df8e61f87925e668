import RdfPipeline.Proofs.Dict
import RdfPipeline.Proofs.Shape.PathSpine
import RdfPipeline.Shape.Operation

/-!
# Texts of paths

The text of a path does not show whether an inversion stands inside or outside of a repetition. It
shows everything else, so paths with one text relate the same terms.
-/

set_option autoImplicit false

namespace RdfPipeline.Shape

open Rdf (Graph Iri Term)

namespace Path

/-! ## Characters of a text -/

def chars (path : Path) : List Char :=
  path.toText.toList

/-- The members of a collection after the first one, each behind its separator. -/
def furtherChars (separator : Char) : List Path → List Char
  | [] => [')']
  | part :: rest => separator :: (part.chars ++ furtherChars separator rest)

/-- The members of a collection up to the parenthesis that closes it. -/
def memberChars (separator : Char) : List Path → List Char
  | [] => [')']
  | part :: rest => part.chars ++ furtherChars separator rest

theorem chars_predicate (iri : Iri) :
    (Path.predicate iri).chars = '<' :: (iri.text.toList ++ ['>']) := by
  simp [chars, toText, Iri.toText]

theorem chars_inverse (path : Path) : (Path.inverse path).chars = '^' :: path.chars := by
  simp [chars, toText]

theorem toList_intercalate_partTexts {text : String} {separator : Char}
    (single : text.toList = [separator]) (parts : List Path) :
    (String.intercalate text (partTexts parts)).toList ++ [')'] = memberChars separator parts := by
  rw [String.toList_intercalate, single]
  cases parts with
  | nil => rfl
  | cons part rest =>
      induction rest generalizing part with
      | nil => simp [partTexts, memberChars, furtherChars, chars]
      | cons next rest ih =>
          rw [partTexts, partTexts, List.map_cons, List.map_cons, List.intercalate_cons_cons]
          have later := ih next
          rw [partTexts, List.map_cons] at later
          simp only [List.append_assoc, later]
          rfl

theorem chars_sequence (parts : List Path) :
    (Path.sequence parts).chars = '(' :: memberChars '/' parts := by
  have single : "/".toList = ['/'] := rfl
  rw [← toList_intercalate_partTexts single]
  simp [chars, toText]

theorem chars_alternative (parts : List Path) :
    (Path.alternative parts).chars = '(' :: memberChars '|' parts := by
  have single : "|".toList = ['|'] := rfl
  rw [← toList_intercalate_partTexts single]
  simp [chars, toText]

def Repetition.mark : Repetition → Char
  | .zeroOrMore => '*'
  | .oneOrMore => '+'
  | .zeroOrOne => '?'

theorem chars_zeroOrMore (path : Path) :
    (Path.zeroOrMore path).chars = path.chars ++ [Repetition.zeroOrMore.mark] :=
  String.toList_append

theorem chars_oneOrMore (path : Path) :
    (Path.oneOrMore path).chars = path.chars ++ [Repetition.oneOrMore.mark] :=
  String.toList_append

theorem chars_zeroOrOne (path : Path) :
    (Path.zeroOrOne path).chars = path.chars ++ [Repetition.zeroOrOne.mark] :=
  String.toList_append

def Spine.chars (spine : Spine) : List Char :=
  List.replicate spine.inversions '^' ++
    (spine.core.toPath.chars ++ spine.repetitions.map Repetition.mark)

theorem Spine.chars_invert (spine : Spine) : spine.invert.chars = '^' :: spine.chars := rfl

theorem Spine.chars_repeated (repetition : Repetition) (spine : Spine) :
    (spine.repeated repetition).chars = spine.chars ++ [repetition.mark] := by
  simp [chars, repeated]

theorem chars_spine : ∀ path : Path, path.chars = path.spine.chars
  | .predicate _ => (List.append_nil _).symm
  | .sequence _ => (List.append_nil _).symm
  | .alternative _ => (List.append_nil _).symm
  | .inverse path => by
      rw [spine, Spine.chars_invert, ← chars_spine path, chars_inverse]
  | .zeroOrMore path => by
      rw [spine, Spine.chars_repeated, ← chars_spine path, chars_zeroOrMore]
  | .oneOrMore path => by
      rw [spine, Spine.chars_repeated, ← chars_spine path, chars_oneOrMore]
  | .zeroOrOne path => by
      rw [spine, Spine.chars_repeated, ← chars_spine path, chars_zeroOrOne]

/-! ## Where a member ends -/

/-- The characters up to the first separator or closing parenthesis that stands outside of all
parentheses opened on the way and outside of IRIs. -/
def firstMember : Nat → Bool → List Char → List Char
  | _, _, [] => []
  | depth, true, c :: rest => c :: firstMember depth (c != '>') rest
  | depth, false, c :: rest =>
      if c = '<' then c :: firstMember depth true rest
      else if c = '(' then c :: firstMember (depth + 1) false rest
      else if c = ')' then
        match depth with
        | 0 => []
        | depth + 1 => c :: firstMember depth false rest
      else if (c = '/' ∨ c = '|') ∧ depth = 0 then []
      else c :: firstMember depth false rest

section Scan

variable {depth : Nat} {rest : List Char} {separator : Char}

theorem firstMember_iri {text : List Char} (noClosing : '>' ∉ text) :
    firstMember depth true (text ++ '>' :: rest) = text ++ '>' :: firstMember depth false rest := by
  induction text with
  | nil => simp [firstMember]
  | cons c text ih =>
      obtain ⟨other, noClosing⟩ := not_or.mp (List.mem_cons.not.mp noClosing)
      have goesOn : (c != '>') = true := bne_iff_ne.mpr (Ne.symm other)
      rw [List.cons_append, firstMember, goesOn, ih noClosing, List.cons_append]

/-- A mark before or behind a path neither opens nor ends anything. -/
theorem firstMember_mark {mark : Char} (known : mark ∈ ['^', '*', '+', '?']) :
    firstMember depth false (mark :: rest) = mark :: firstMember depth false rest := by
  simp only [List.mem_cons, List.not_mem_nil, or_false] at known
  rcases known with rfl | rfl | rfl | rfl <;> simp [firstMember]

theorem firstMember_opening :
    firstMember depth false ('(' :: rest) = '(' :: firstMember (depth + 1) false rest := by
  simp [firstMember]

theorem firstMember_closing :
    firstMember (depth + 1) false (')' :: rest) = ')' :: firstMember depth false rest := by
  simp [firstMember]

theorem firstMember_separator (isSeparator : separator = '/' ∨ separator = '|') :
    firstMember (depth + 1) false (separator :: rest) =
      separator :: firstMember (depth + 1) false rest := by
  rcases isSeparator with rfl | rfl <;> simp [firstMember]

/-- The scan goes over the path as a whole, whatever stands behind it. -/
def IsPassed (path : Path) : Prop :=
  ∀ (depth : Nat) (rest : List Char),
    firstMember depth false (path.chars ++ rest) = path.chars ++ firstMember depth false rest

theorem IsPassed.marked {path repeated : Path} (passed : path.IsPassed) (mark : Char)
    (known : mark ∈ ['^', '*', '+', '?']) (marked : repeated.chars = path.chars ++ [mark]) :
    repeated.IsPassed := by
  intro depth rest
  rw [marked, List.append_assoc, passed, List.cons_append, firstMember_mark known,
    List.append_assoc]
  rfl

theorem firstMember_furtherChars {parts : List Path} (each : ∀ part ∈ parts, part.IsPassed)
    (isSeparator : separator = '/' ∨ separator = '|') :
    firstMember (depth + 1) false (furtherChars separator parts ++ rest) =
      furtherChars separator parts ++ firstMember depth false rest := by
  induction parts with
  | nil => exact firstMember_closing
  | cons part parts ih =>
      obtain ⟨first, others⟩ := List.forall_mem_cons.mp each
      rw [furtherChars, List.cons_append, firstMember_separator isSeparator, List.append_assoc,
        first, ih others, List.cons_append, List.append_assoc]

theorem firstMember_memberChars {parts : List Path} (each : ∀ part ∈ parts, part.IsPassed)
    (isSeparator : separator = '/' ∨ separator = '|') :
    firstMember (depth + 1) false (memberChars separator parts ++ rest) =
      memberChars separator parts ++ firstMember depth false rest := by
  cases parts with
  | nil => exact firstMember_closing
  | cons part parts =>
      obtain ⟨first, others⟩ := List.forall_mem_cons.mp each
      rw [memberChars, List.append_assoc, first, firstMember_furtherChars others isSeparator,
        List.append_assoc]

theorem firstMember_furtherChars_eq_nil (isSeparator : separator = '/' ∨ separator = '|')
    (parts : List Path) : firstMember 0 false (furtherChars separator parts) = [] := by
  cases parts with
  | nil => simp [furtherChars, firstMember]
  | cons part rest => rcases isSeparator with rfl | rfl <;> simp [furtherChars, firstMember]

end Scan

theorem IsReadable.isPassed {path : Path} (readable : path.IsReadable) : path.IsPassed := by
  obtain ⟨long, noBrackets⟩ := readable
  induction long with
  | predicate iri =>
      intro depth rest
      have noClosing := (noBrackets iri List.mem_cons_self).2
      rw [chars_predicate, List.cons_append, List.append_assoc]
      simp [firstMember, firstMember_iri noClosing]
  | @inverse path _ ih =>
      intro depth rest
      rw [chars_inverse, List.cons_append, firstMember_mark (by simp), ih noBrackets,
        List.cons_append]
  | @sequence parts _ _ ih =>
      intro depth rest
      have each := fun part member => ih part member (noBrackets_of_parts noBrackets part member)
      rw [chars_sequence, List.cons_append, firstMember_opening,
        firstMember_memberChars each (.inl rfl), List.cons_append]
  | @alternative parts _ ih =>
      intro depth rest
      have each := fun part member => ih part member (noBrackets_of_parts noBrackets part member)
      rw [chars_alternative, List.cons_append, firstMember_opening,
        firstMember_memberChars each (.inr rfl), List.cons_append]
  | zeroOrMore _ ih => exact (ih noBrackets).marked '*' (by simp) (chars_zeroOrMore _)
  | oneOrMore _ ih => exact (ih noBrackets).marked '+' (by simp) (chars_oneOrMore _)
  | zeroOrOne _ ih => exact (ih noBrackets).marked '?' (by simp) (chars_zeroOrOne _)

/-! ## What a text shows -/

theorem chars_append_unique {path other : Path} {rest rest' : List Char}
    (readable : path.IsReadable) (readable' : other.IsReadable)
    (ends : firstMember 0 false rest = []) (ends' : firstMember 0 false rest' = [])
    (same : path.chars ++ rest = other.chars ++ rest') :
    path.chars = other.chars ∧ rest = rest' := by
  have first := congrArg (firstMember 0 false) same
  rw [readable.isPassed, readable'.isPassed, ends, ends', List.append_nil, List.append_nil] at first
  refine ⟨first, ?_⟩
  rw [first] at same
  exact List.append_cancel_left same

/-- The members are written alike, one by one. -/
abbrev PartsAlike (parts others : List Path) : Prop :=
  List.Forall₂ (fun part other => part.chars = other.chars) parts others

theorem furtherChars_unique {separator separator' : Char} {parts others : List Path}
    (isSeparator : separator = '/' ∨ separator = '|')
    (isSeparator' : separator' = '/' ∨ separator' = '|')
    (readable : ∀ part ∈ parts, part.IsReadable) (readable' : ∀ other ∈ others, other.IsReadable)
    (same : furtherChars separator parts = furtherChars separator' others) :
    PartsAlike parts others ∧ (parts ≠ [] → separator = separator') := by
  induction parts generalizing others with
  | nil =>
      cases others with
      | nil => exact ⟨.nil, fun some => absurd rfl some⟩
      | cons other others => rcases isSeparator' with rfl | rfl <;> cases same
  | cons part parts ih =>
      cases others with
      | nil => rcases isSeparator with rfl | rfl <;> cases same
      | cons other others =>
          obtain ⟨first, each⟩ := List.forall_mem_cons.mp readable
          obtain ⟨first', each'⟩ := List.forall_mem_cons.mp readable'
          obtain ⟨sameSeparator, sameRest⟩ := List.cons.inj same
          obtain ⟨alike, sameFurther⟩ := chars_append_unique first first'
            (firstMember_furtherChars_eq_nil isSeparator parts)
            (firstMember_furtherChars_eq_nil isSeparator' others) sameRest
          exact ⟨.cons alike (ih each each' sameFurther).1, fun _ => sameSeparator⟩

theorem chars_ne_nil (path : Path) : path.chars ≠ [] := by
  cases path with
  | predicate iri => simp [chars_predicate]
  | inverse path => simp [chars_inverse]
  | sequence parts => simp [chars_sequence]
  | alternative parts => simp [chars_alternative]
  | zeroOrMore path | oneOrMore path | zeroOrOne path => simp [chars, toText]

/-- A collection with members is not closed at once. -/
theorem memberChars_cons_ne {separator : Char} {part : Path} {parts : List Path}
    (isSeparator : separator = '/' ∨ separator = '|') (readable : part.IsReadable) :
    part.chars ++ furtherChars separator parts ≠ [')'] := by
  intro same
  have first := congrArg (firstMember 0 false) same
  rw [readable.isPassed, firstMember_furtherChars_eq_nil isSeparator, List.append_nil] at first
  exact chars_ne_nil part first

theorem memberChars_unique {separator separator' : Char} {parts others : List Path}
    (isSeparator : separator = '/' ∨ separator = '|')
    (isSeparator' : separator' = '/' ∨ separator' = '|')
    (readable : ∀ part ∈ parts, part.IsReadable) (readable' : ∀ other ∈ others, other.IsReadable)
    (same : memberChars separator parts = memberChars separator' others) :
    PartsAlike parts others ∧ (2 ≤ parts.length → separator = separator') := by
  cases parts with
  | nil =>
      cases others with
      | nil => exact ⟨.nil, fun several => absurd several (by simp)⟩
      | cons other others =>
          exact absurd same.symm
            (memberChars_cons_ne isSeparator' (readable' other List.mem_cons_self))
  | cons part parts =>
      cases others with
      | nil =>
          exact absurd same (memberChars_cons_ne isSeparator (readable part List.mem_cons_self))
      | cons other others =>
          obtain ⟨first, each⟩ := List.forall_mem_cons.mp readable
          obtain ⟨first', each'⟩ := List.forall_mem_cons.mp readable'
          obtain ⟨alike, sameFurther⟩ := chars_append_unique first first'
            (firstMember_furtherChars_eq_nil isSeparator parts)
            (firstMember_furtherChars_eq_nil isSeparator' others) same
          obtain ⟨further, sameSeparator⟩ :=
            furtherChars_unique isSeparator isSeparator' each each' sameFurther
          refine ⟨.cons alike further, fun several => sameSeparator ?_⟩
          rintro rfl
          exact absurd several (by simp)

/-- Cores that are written alike. -/
inductive Core.Alike : Core → Core → Prop where
  | predicate (iri : Iri) : Alike (.predicate iri) (.predicate iri)
  | sequence {parts others : List Path} (alike : PartsAlike parts others) :
      Alike (.sequence parts) (.sequence others)
  | alternative {parts others : List Path} (alike : PartsAlike parts others) :
      Alike (.alternative parts) (.alternative others)

theorem Core.alike_of_chars {core other : Core} (readable : core.toPath.IsReadable)
    (readable' : other.toPath.IsReadable) (same : core.toPath.chars = other.toPath.chars) :
    core.Alike other := by
  have sequence_ne_alternative {parts others : List Path}
      (long : (Path.sequence parts).IsReadable) (readable : (Path.alternative others).IsReadable)
      (same : (Path.sequence parts).chars = (Path.alternative others).chars) : False := by
    rw [chars_sequence, chars_alternative] at same
    obtain ⟨several, each⟩ := long.of_sequence
    have sameSeparator := (memberChars_unique (.inl rfl) (.inr rfl) each readable.of_alternative
      (List.cons.inj same).2).2 several
    exact absurd sameSeparator (by decide)
  cases core with
  | predicate iri =>
      cases other with
      | predicate iri' =>
          have sameText : iri.text = iri'.text := by
            simpa [toPath, chars_predicate, String.toList_inj] using same
          cases iri
          cases sameText
          exact .predicate _
      | sequence others => simp [toPath, chars_predicate, chars_sequence] at same
      | alternative others => simp [toPath, chars_predicate, chars_alternative] at same
  | sequence parts =>
      cases other with
      | predicate iri => simp [toPath, chars_predicate, chars_sequence] at same
      | sequence others =>
          simp only [toPath, chars_sequence, List.cons.injEq, true_and] at same
          exact .sequence (memberChars_unique (.inl rfl) (.inl rfl) readable.of_sequence.2
            readable'.of_sequence.2 same).1
      | alternative others => exact (sequence_ne_alternative readable readable' same).elim
  | alternative parts =>
      cases other with
      | predicate iri => simp [toPath, chars_predicate, chars_alternative] at same
      | sequence others => exact (sequence_ne_alternative readable' readable same.symm).elim
      | alternative others =>
          simp only [toPath, chars_alternative, List.cons.injEq, true_and] at same
          exact .alternative (memberChars_unique (.inr rfl) (.inr rfl) readable.of_alternative
            readable'.of_alternative same).1

theorem memberChars_closed (separator : Char) (parts : List Path) :
    ∃ inside, memberChars separator parts = inside ++ [')'] := by
  have further : ∀ rest : List Path,
      ∃ inside, furtherChars separator rest = inside ++ [')'] := by
    intro rest
    induction rest with
    | nil => exact ⟨[], rfl⟩
    | cons part rest ih =>
        obtain ⟨inside, closed⟩ := ih
        exact ⟨separator :: (part.chars ++ inside), by simp [furtherChars, closed]⟩
  cases parts with
  | nil => exact ⟨[], rfl⟩
  | cons part rest =>
      obtain ⟨inside, closed⟩ := further rest
      exact ⟨part.chars ++ inside, by simp [memberChars, closed]⟩

def Repetition.isMark (c : Char) : Bool :=
  c == '*' || c == '+' || c == '?'

theorem Repetition.isMark_mark : ∀ repetition : Repetition, isMark repetition.mark = true := by
  rintro (_ | _ | _) <;> decide

theorem Repetition.mark_injective : Repetition.mark.Injective := by
  rintro (_ | _ | _) (_ | _ | _) same
  all_goals first | rfl | exact absurd same (by decide)

/-- A core stands in brackets or in parentheses, which are no marks. -/
theorem Core.enclosed (core : Core) : ∃ opening inside closing,
    core.toPath.chars = opening :: (inside ++ [closing]) ∧ opening ≠ '^' ∧
      Repetition.isMark closing = false := by
  cases core with
  | predicate iri =>
      exact ⟨'<', iri.text.toList, '>', chars_predicate iri, by decide, by decide⟩
  | sequence parts =>
      obtain ⟨inside, closed⟩ := memberChars_closed '/' parts
      exact ⟨'(', inside, ')', by rw [toPath, chars_sequence, closed], by decide, by decide⟩
  | alternative parts =>
      obtain ⟨inside, closed⟩ := memberChars_closed '|' parts
      exact ⟨'(', inside, ')', by rw [toPath, chars_alternative, closed], by decide, by decide⟩

/-- A list has one cut into items that pass and a rest that starts with an item that does not. -/
theorem cut_unique {α : Type} {passes : α → Bool} {front front' rest rest' : List α}
    {item item' : α} (each : ∀ item ∈ front, passes item = true)
    (each' : ∀ item ∈ front', passes item = true) (stops : passes item = false)
    (stops' : passes item' = false) (same : front ++ item :: rest = front' ++ item' :: rest') :
    front = front' ∧ item :: rest = item' :: rest' := by
  have cut {front rest : List α} {item : α} (each : ∀ item ∈ front, passes item = true)
      (stops : passes item = false) : (front ++ item :: rest).dropWhile passes = item :: rest := by
    rw [List.dropWhile_append_of_pos each, List.dropWhile_cons_of_neg (by simp [stops])]
  have sameRest := congrArg (List.dropWhile passes) same
  rw [cut each stops, cut each' stops'] at sameRest
  rw [sameRest] at same
  exact ⟨List.append_cancel_right same, sameRest⟩

theorem Spine.chars_unique {spine other : Spine} (same : spine.chars = other.chars) :
    spine.inversions = other.inversions ∧ spine.core.toPath.chars = other.core.toPath.chars ∧
      spine.repetitions = other.repetitions := by
  obtain ⟨opening, inside, closing, enclosed, notInversion, noMark⟩ := spine.core.enclosed
  obtain ⟨opening', inside', closing', enclosed', notInversion', noMark'⟩ := other.core.enclosed
  have inversions : ∀ count, ∀ c ∈ List.replicate count '^', (c == '^') = true :=
    fun count c member => beq_iff_eq.mpr (List.eq_of_mem_replicate member)
  have marks : ∀ repetitions : List Repetition,
      ∀ c ∈ (repetitions.map Repetition.mark).reverse, Repetition.isMark c = true := by
    intro repetitions c member
    obtain ⟨repetition, -, rfl⟩ := List.mem_map.mp (List.mem_reverse.mp member)
    exact repetition.isMark_mark
  unfold chars at same
  rw [enclosed, enclosed', List.cons_append, List.cons_append] at same
  obtain ⟨sameInversions, sameRest⟩ := cut_unique (inversions _) (inversions _)
    (beq_eq_false_iff_ne.mpr notInversion) (beq_eq_false_iff_ne.mpr notInversion') same
  -- Seen from the end, the marks are what comes before the closing character of the core.
  have reversed := congrArg List.reverse sameRest
  simp only [List.reverse_cons, List.reverse_append, List.nil_append, List.append_assoc,
    List.cons_append] at reversed
  obtain ⟨sameMarks, sameCore⟩ := cut_unique (marks _) (marks _) noMark noMark' reversed
  refine ⟨?inversions, ?core, ?repetitions⟩
  case inversions => simpa using congrArg List.length sameInversions
  case core =>
    have sameChars := congrArg List.reverse sameCore
    simp only [List.reverse_cons, List.reverse_append, List.reverse_nil, List.nil_append,
      List.reverse_reverse, List.cons_append] at sameChars
    rw [enclosed, enclosed', sameChars]
  case repetitions =>
    exact Repetition.mark_injective.list_map (List.reverse_injective sameMarks)

theorem relatesInTurn_of_parts {graph : Graph} {parts others : List Path}
    (same : List.Forall₂ (fun part other => Relates graph part = Relates graph other)
      parts others) : RelatesInTurn graph parts = RelatesInTurn graph others := by
  induction same with
  | nil => rfl
  | cons first _ ih => rw [RelatesInTurn, RelatesInTurn, first, ih]

theorem relatesBySome_of_parts {graph : Graph} {parts others : List Path}
    (same : List.Forall₂ (fun part other => Relates graph part = Relates graph other)
      parts others) : RelatesBySome graph parts = RelatesBySome graph others := by
  induction same with
  | nil => rfl
  | cons first _ ih => rw [RelatesBySome, RelatesBySome, first, ih]

/-- The induction is on the nesting of the first path, as the core of a path is no part of it. -/
theorem relates_eq_of_chars (graph : Graph) {levels : Nat} {path other : Path}
    (low : path.height < levels) (readable : path.IsReadable) (readable' : other.IsReadable)
    (same : path.chars = other.chars) : Relates graph path = Relates graph other := by
  induction levels generalizing path other with
  | zero => exact absurd low (Nat.not_lt_zero _)
  | succ levels ih =>
      have inParts {parts others : List Path} (partsLow : partsHeight parts ≤ levels)
          (each : ∀ part ∈ parts, part.IsReadable) (each' : ∀ other ∈ others, other.IsReadable)
          (alike : PartsAlike parts others) :
          List.Forall₂ (fun part other => Relates graph part = Relates graph other)
            parts others := by
        induction alike with
        | nil => exact .nil
        | @cons part other parts others sameChars _ further =>
            obtain ⟨first, rest⟩ := List.forall_mem_cons.mp each
            obtain ⟨first', rest'⟩ := List.forall_mem_cons.mp each'
            rw [partsHeight, Nat.max_le] at partsLow
            exact .cons (ih partsLow.1 first first' sameChars) (further partsLow.2 rest rest')
      rw [chars_spine, chars_spine other] at same
      obtain ⟨sameInversions, sameCore, sameRepetitions⟩ := Spine.chars_unique same
      have coreLow : path.spine.core.toPath.height ≤ levels :=
        (height_core_le path).trans (Nat.le_of_lt_succ low)
      have coreReadable := readable.core
      have coreReadable' := readable'.core
      have sameRelation : Relates graph path.spine.core.toPath =
          Relates graph other.spine.core.toPath := by
        have alike := Core.alike_of_chars coreReadable coreReadable' sameCore
        generalize path.spine.core = core, other.spine.core = core' at *
        cases alike with
        | predicate iri => rfl
        | sequence alike =>
            exact relatesInTurn_of_parts
              (inParts coreLow coreReadable.of_sequence.2 coreReadable'.of_sequence.2 alike)
        | alternative alike =>
            exact relatesBySome_of_parts
              (inParts coreLow coreReadable.of_alternative coreReadable'.of_alternative alike)
      rw [relates_spine, relates_spine graph other, Spine.Relates, Spine.Relates, sameInversions,
        sameRepetitions, sameRelation]

end Path

/-! ## Where texts of paths are shown -/

theorem Path.eq_predicate_of_asPredicate? {path : Path} {iri : Iri}
    (plain : path.asPredicate? = some iri) : path = .predicate iri := by
  cases path with
  | predicate iri' => exact congrArg Path.predicate (Option.some.inj plain)
  | _ => cases plain

theorem Path.toText_eq_of_toObject {path other : Path} (same : path.toObject = other.toObject) :
    path.toText = other.toText := by
  unfold toObject at same
  cases plain : path.asPredicate? with
  | some iri =>
      cases plain' : other.asPredicate? with
      | some iri' =>
          simp only [plain, plain', Term.iri.injEq] at same
          rw [eq_predicate_of_asPredicate? plain, eq_predicate_of_asPredicate? plain', same]
      | none => simp [plain, plain'] at same
  | none =>
      cases plain' : other.asPredicate? with
      | some iri' => simp [plain, plain'] at same
      | none => simpa [plain, plain', Rdf.Literal.plain] using same

/-- The path of a result as the metadata of a validation have it. -/
def Result.pathEntry? (result : Result) : Option Value :=
  result.toValue.asMap?.bind (Dict.get? "resultPath")

theorem Result.pathEntry?_eq (result : Result) :
    result.pathEntry? = result.path.map fun path => .text path.toText := by
  unfold pathEntry? toValue Value.asMap?
  cases result.path <;> cases result.value <;>
    simp [Dict.ofList, Dict.insertAll, Dict.get?_insert, Dict.get?]

/-- Two paths that look the same in one of the places where paths of results are shown. -/
inductive Path.LookAlike (path other : Path) : Prop where
  | text (same : path.toText = other.toText)
  | object (same : path.toObject = other.toObject)
  | metadata {result result' : Result} (hasPath : result.path = some path)
      (hasPath' : result'.path = some other) (same : result.pathEntry? = result'.pathEntry?)

theorem Path.LookAlike.toText_eq {path other : Path} (alike : path.LookAlike other) :
    path.toText = other.toText := by
  cases alike with
  | text same => exact same
  | object same => exact toText_eq_of_toObject same
  | metadata hasPath hasPath' same =>
      simpa [Result.pathEntry?_eq, hasPath, hasPath'] using same

/-- Paths that look the same relate the same terms and have the same values in every graph, if they
can be read from graphs whose IRIs have no angle brackets. -/
theorem Path.values_perm_of_lookAlike :
    (∀ (graph : Graph) (node : Term) (path : Path),
      (∀ iri ∈ graph.terms.filterMap Term.asIri?, HasNoBrackets iri) → node ∈ graph.terms →
      parsePath graph node = .ok path → path.IsReadable) ∧
    ∀ path other : Path, path.IsReadable → other.IsReadable → path.LookAlike other →
      ∀ graph : Graph, Relates graph path = Relates graph other ∧
        ∀ focus, (path.values graph focus).Perm (other.values graph focus) := by
  refine ⟨fun graph node path => parsePath_isReadable, ?_⟩
  intro path other readable readable' alike graph
  have sameRelation : Relates graph path = Relates graph other :=
    relates_eq_of_chars graph (Nat.lt_succ_self _) readable readable'
      (congrArg String.toList alike.toText_eq)
  refine ⟨sameRelation, fun focus => ?_⟩
  rw [List.perm_ext_iff_of_nodup (nodup_values graph path focus) (nodup_values graph other focus)]
  intro term
  rw [mem_values_iff, mem_values_iff, sameRelation]

/-- Knowing somebody, or being somebody's friend. -/
def acquaintance : Path :=
  .alternative [.predicate ⟨"http://ex.org/knows"⟩,
    .sequence [.inverse (.predicate ⟨"http://ex.org/friend"⟩), .alternative []]]

theorem acquaintance_hasLongSequences : acquaintance.HasLongSequences := by
  have inner : ∀ part ∈ [Path.inverse (.predicate ⟨"http://ex.org/friend"⟩), .alternative []],
      part.HasLongSequences :=
    List.forall_mem_cons.mpr
      ⟨.inverse (.predicate _), List.forall_mem_singleton.mpr (.alternative (by simp))⟩
  exact .alternative (List.forall_mem_cons.mpr
    ⟨.predicate _, List.forall_mem_singleton.mpr (.sequence (by decide) inner)⟩)

/-- A repetition of the inverse and the inverse of a repetition, both written
`^(<http://ex.org/knows>|(^<http://ex.org/friend>/()))*`. -/
theorem values_perm_of_lookAlike_acquaintance :
    let inner := Path.zeroOrMore (.inverse acquaintance)
    let outer := Path.inverse (.zeroOrMore acquaintance)
    let node : Term := .blank (.fresh 0)
    let data := Graph.ofList
      [⟨.iri ⟨"http://ex.org/bob"⟩, ⟨"http://ex.org/knows"⟩, .iri ⟨"http://ex.org/alice"⟩⟩]
    inner ≠ outer ∧ inner.LookAlike outer ∧
      (parsePath (graphOfPath inner) node = .ok inner ∧ inner.IsReadable) ∧
      (parsePath (graphOfPath outer) node = .ok outer ∧ outer.IsReadable) ∧
      (inner.values data (.iri ⟨"http://ex.org/alice"⟩)).Perm
        (outer.values data (.iri ⟨"http://ex.org/alice"⟩)) := by
  intro inner outer node data
  have alike : inner.LookAlike outer := .text (by decide +kernel)
  have distinct : Rdf.BlankNode.fresh.Injective := fun _ _ => Rdf.BlankNode.fresh.inj
  have long := acquaintance_hasLongSequences
  have read : parsePath (graphOfPath inner) node = .ok inner :=
    (spells_encode distinct inner 0 (holdsOnly_graphOfPath inner)).read
      (.zeroOrMore (.inverse long)) (by decide)
  have read' : parsePath (graphOfPath outer) node = .ok outer :=
    (spells_encode distinct outer 0 (holdsOnly_graphOfPath outer)).read
      (.inverse (.zeroOrMore long)) (by decide)
  obtain ⟨fromGraph, sameValues⟩ := Path.values_perm_of_lookAlike
  have readable := fromGraph _ node inner (by decide +kernel) (by decide +kernel) read
  have readable' := fromGraph _ node outer (by decide +kernel) (by decide +kernel) read'
  exact ⟨nofun, alike, ⟨read, readable⟩, ⟨read', readable'⟩,
    (sameValues inner outer readable readable' alike data).2 _⟩

end RdfPipeline.Shape
