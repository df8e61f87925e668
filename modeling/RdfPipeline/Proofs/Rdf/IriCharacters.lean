import RdfPipeline.Rdf.Iri
import Mathlib.Data.Char

/-!
# The characters of identifiers

Taking a reference apart loses none of its characters, and every part admits reference characters
only. A valid identifier therefore holds no blank, no line end, no bracket and no backslash: it can
stand between angle brackets as it is.
-/

set_option autoImplicit false

namespace RdfPipeline.Rdf

namespace Reference

/-- The characters that some part of a reference admits. -/
def isReferenceChar (c : Char) : Bool :=
  isPathChar c || isPrivateChar c || "?#[]%".toList.contains c

theorem isReferenceChar_of_isPathChar {c : Char} (admitted : isPathChar c = true) :
    isReferenceChar c = true := by
  simp only [isReferenceChar, admitted, Bool.true_or]

theorem isReferenceChar_of_isNameChar {c : Char} (admitted : isNameChar c = true) :
    isReferenceChar c = true := by
  apply isReferenceChar_of_isPathChar
  simp only [isPathChar, admitted, Bool.true_or]

theorem isReferenceChar_of_isAsciiLetter {c : Char} (letter : isAsciiLetter c = true) :
    isReferenceChar c = true := by
  apply isReferenceChar_of_isNameChar
  simp only [isNameChar, letter, Bool.true_or]

theorem isReferenceChar_of_isDigit {c : Char} (digit : Text.isDigit c = true) :
    isReferenceChar c = true := by
  apply isReferenceChar_of_isNameChar
  simp only [isNameChar, digit, Bool.or_true, Bool.true_or]

theorem isDigit_or_isAsciiLetter_of_isHexDigit {c : Char} (digit : Text.isHexDigit c = true) :
    Text.isDigit c = true ∨ isAsciiLetter c = true := by
  unfold Text.isHexDigit Text.hexDigitValue? at digit
  split at digit
  next decimal =>
    left
    simp only [Text.isDigit, Text.digitValue?, decimal, and_self, if_true, Option.isSome_some]
  next =>
    right
    split at digit
    next lower =>
      have within : c ≤ 'z' := le_trans lower.2 (by decide)
      simp only [isAsciiLetter, lower.1, within, decide_true, Bool.and_self, Bool.true_or]
    next =>
      split at digit
      next upper =>
        have within : c ≤ 'Z' := le_trans upper.2 (by decide)
        simp only [isAsciiLetter, upper.1, within, decide_true, Bool.and_self, Bool.or_true]
      next => cases digit

theorem isReferenceChar_of_isHexDigit {c : Char} (digit : Text.isHexDigit c = true) :
    isReferenceChar c = true := by
  rcases isDigit_or_isAsciiLetter_of_isHexDigit digit with decimal | letter
  · exact isReferenceChar_of_isDigit decimal
  · exact isReferenceChar_of_isAsciiLetter letter

/-- A text of which every character may stand in a reference. -/
def HasReferenceChars (chars : List Char) : Prop :=
  ∀ c ∈ chars, isReferenceChar c = true

theorem hasReferenceChars_nil : HasReferenceChars [] := by
  intro c member
  cases member

theorem hasReferenceChars_cons {c : Char} {rest : List Char} (first : isReferenceChar c = true)
    (later : HasReferenceChars rest) : HasReferenceChars (c :: rest) := by
  intro d member
  rcases List.mem_cons.mp member with rfl | member
  · exact first
  · exact later d member

theorem hasReferenceChars_append {left right : List Char} (inLeft : HasReferenceChars left)
    (inRight : HasReferenceChars right) : HasReferenceChars (left ++ right) := by
  intro c member
  rcases List.mem_append.mp member with member | member
  · exact inLeft c member
  · exact inRight c member

theorem hasReferenceChars_of_all {admits : Char → Bool} {chars : List Char}
    (sound : ∀ {c : Char}, admits c = true → isReferenceChar c = true)
    (all : chars.all admits = true) : HasReferenceChars chars :=
  fun c member => sound (List.all_eq_true.mp all c member)

theorem hasReferenceChars_of_allAdmitted {admits : Char → Bool} {chars : List Char}
    (sound : ∀ {c : Char}, admits c = true → isReferenceChar c = true)
    (admitted : allAdmitted admits chars = true) : HasReferenceChars chars := by
  fun_induction allAdmitted admits chars with
  | case1 => exact hasReferenceChars_nil
  | case2 a b rest ih =>
      simp only [Bool.and_eq_true] at admitted
      obtain ⟨⟨first, second⟩, later⟩ := admitted
      exact hasReferenceChars_cons (by decide)
        (hasReferenceChars_cons (isReferenceChar_of_isHexDigit first)
          (hasReferenceChars_cons (isReferenceChar_of_isHexDigit second) (ih later)))
  | case3 c rest _ ih =>
      simp only [Bool.and_eq_true] at admitted
      exact hasReferenceChars_cons (sound admitted.1.1) (ih admitted.2)

theorem hasReferenceChars_optionalPart {mark : List Char} {part : Option (List Char)}
    (ofMark : HasReferenceChars mark) (ofPart : ∀ chars ∈ part, HasReferenceChars chars) :
    HasReferenceChars (optionalPart mark part) := by
  cases part with
  | none => exact hasReferenceChars_nil
  | some chars => exact hasReferenceChars_append ofMark (ofPart chars rfl)

/-! ## Taking apart -/

theorem splitAtFirst_append (mark : Char) (chars : List Char) :
    (splitAtFirst mark chars).1 ++ optionalPart [mark] (splitAtFirst mark chars).2 = chars := by
  have whole := List.takeWhile_append_dropWhile (p := (· != mark)) (l := chars)
  unfold splitAtFirst
  split
  next c rest found =>
    have isMark : c = mark := by
      have stops := List.head?_dropWhile_not (· != mark) chars
      rw [found] at stops
      simpa using stops
    rw [found, isMark] at whole
    exact whole
  next => exact List.append_nil chars

theorem splitScheme_append (chars : List Char) :
    ((splitScheme chars).1.map (· ++ [':'])).getD [] ++ (splitScheme chars).2 = chars := by
  unfold splitScheme
  split
  next first rest =>
    split
    next =>
      split
      next after found =>
        have whole := List.takeWhile_append_dropWhile (p := isSchemeChar) (l := first :: rest)
        rw [found] at whole
        simpa using whole
      next => rfl
    next => rfl
  next => rfl

theorem splitOnChar_ne_nil (mark : Char) (chars : List Char) : splitOnChar mark chars ≠ [] := by
  cases chars with
  | nil => exact List.cons_ne_nil _ _
  | cons first rest =>
      rw [splitOnChar]
      split
      next => exact List.cons_ne_nil _ _
      next => split <;> exact List.cons_ne_nil _ _

theorem splitOnChar_append (mark : Char) (before after : List Char) :
    splitOnChar mark (before ++ mark :: after) =
      splitOnChar mark before ++ splitOnChar mark after := by
  induction before with
  | nil => simp only [List.nil_append, splitOnChar, if_true, List.cons_append]
  | cons first rest ih =>
      rw [List.cons_append, splitOnChar, splitOnChar, ih]
      split
      next => rfl
      next =>
        cases parts : splitOnChar mark rest with
        | nil => exact absurd parts (splitOnChar_ne_nil mark rest)
        | cons part others => rfl

theorem mem_splitOnChar (mark : Char) {c : Char} {chars : List Char} (member : c ∈ chars) :
    c = mark ∨ ∃ part ∈ splitOnChar mark chars, c ∈ part := by
  induction chars with
  | nil => cases member
  | cons first rest ih =>
      rw [splitOnChar]
      split
      next isMark =>
        rcases List.mem_cons.mp member with rfl | member
        · exact .inl isMark
        · exact (ih member).imp_right fun ⟨part, isPart, inPart⟩ =>
            ⟨part, List.mem_cons_of_mem _ isPart, inPart⟩
      next =>
        cases parts : splitOnChar mark rest with
        | nil => exact absurd parts (splitOnChar_ne_nil mark rest)
        | cons front others =>
            simp only [parts, List.mem_cons, exists_eq_or_imp] at ih ⊢
            rcases List.mem_cons.mp member with rfl | member
            · exact .inr (.inl (.inl rfl))
            · exact (ih member).imp_right (.imp_left .inr)

theorem hasReferenceChars_splitAtFirst (mark : Char) {chars : List Char}
    (ofMark : isReferenceChar mark = true)
    (before : HasReferenceChars (splitAtFirst mark chars).1)
    (after : ∀ rest ∈ (splitAtFirst mark chars).2, HasReferenceChars rest) :
    HasReferenceChars chars := by
  rw [← splitAtFirst_append mark chars]
  exact hasReferenceChars_append before
    (hasReferenceChars_optionalPart (hasReferenceChars_cons ofMark hasReferenceChars_nil) after)

theorem hasReferenceChars_scheme (chars : List Char) :
    HasReferenceChars (((splitScheme chars).1.map (· ++ [':'])).getD []) := by
  have ofSchemeChar : ∀ {c : Char}, isSchemeChar c = true → isReferenceChar c = true := by
    intro c admitted
    simp only [isSchemeChar, Bool.or_eq_true, beq_iff_eq] at admitted
    rcases admitted with (((letter | digit) | rfl) | rfl) | rfl
    · exact isReferenceChar_of_isAsciiLetter letter
    · exact isReferenceChar_of_isDigit digit
    all_goals decide
  unfold splitScheme
  split
  next first rest =>
    split
    next =>
      split
      next =>
        refine hasReferenceChars_append ?_
          (hasReferenceChars_cons (by decide) hasReferenceChars_nil)
        exact hasReferenceChars_of_all ofSchemeChar List.all_takeWhile
      next => exact hasReferenceChars_nil
    next => exact hasReferenceChars_nil
  next => exact hasReferenceChars_nil

/-! ## Hosts -/

theorem hasReferenceChars_of_parts (mark : Char) {chars : List Char}
    (ofMark : isReferenceChar mark = true)
    (parts : ∀ part ∈ splitOnChar mark chars, HasReferenceChars part) :
    HasReferenceChars chars := by
  intro c member
  rcases mem_splitOnChar mark member with rfl | ⟨part, isPart, inPart⟩
  · exact ofMark
  · exact parts part isPart c inPart

theorem hasReferenceChars_of_isIpv4 {chars : List Char} (address : isIpv4 chars = true) :
    HasReferenceChars chars := by
  apply hasReferenceChars_of_parts '.' (by decide)
  intro part member
  unfold isIpv4 at address
  rw [Bool.and_eq_true, List.all_eq_true] at address
  have byte := address.2 part member
  simp only [Bool.and_eq_true] at byte
  exact hasReferenceChars_of_all isReferenceChar_of_isDigit byte.1.1.2

theorem hasReferenceChars_of_ipv6Groups {parts : List (List Char)} {groups : Nat}
    (counted : ipv6Groups? parts = some groups) : ∀ part ∈ parts, HasReferenceChars part := by
  have ofGroup {part : List Char}
      (group : (part != [] && part.length ≤ 4 && part.all Text.isHexDigit) = true) :
      HasReferenceChars part := by
    rw [Bool.and_eq_true] at group
    exact hasReferenceChars_of_all isReferenceChar_of_isHexDigit group.2
  fun_induction ipv6Groups? parts generalizing groups with
  | case1 =>
      intro part member
      cases member
  | case2 last _ address =>
      intro part member
      rw [List.mem_singleton.mp member]
      exact hasReferenceChars_of_isIpv4 address
  | case3 => cases counted
  | case4 last _ group =>
      intro part member
      rw [List.mem_singleton.mp member]
      exact ofGroup group
  | case5 => cases counted
  | case6 first rest _ group ih =>
      obtain ⟨later, counted, -⟩ := Option.map_eq_some_iff.mp counted
      intro part member
      rcases List.mem_cons.mp member with rfl | member
      · exact ofGroup group
      · exact ih counted part member
  | case7 => cases counted

theorem hasReferenceChars_of_ipv6Count {chars : List Char} {groups : Nat}
    (counted : ipv6Count? chars = some groups) : HasReferenceChars chars := by
  unfold ipv6Count? at counted
  split at counted
  next empty =>
    rw [empty]
    exact hasReferenceChars_nil
  next => exact hasReferenceChars_of_parts ':' (by decide) (hasReferenceChars_of_ipv6Groups counted)

theorem splitDoubleColon_append {chars before after : List Char}
    (found : splitDoubleColon? chars = some (before, after)) :
    before ++ ':' :: ':' :: after = chars := by
  fun_induction splitDoubleColon? chars generalizing before with
  | case1 rest =>
      cases found
      rfl
  | case2 c rest _ ih =>
      obtain ⟨⟨front, back⟩, found, same⟩ := Option.map_eq_some_iff.mp found
      cases same
      rw [List.cons_append, ih found]
  | case3 => cases found

theorem hasReferenceChars_of_isIpv6 {chars : List Char} (address : isIpv6 chars = true) :
    HasReferenceChars chars := by
  unfold isIpv6 at address
  split at address
  next => exact hasReferenceChars_of_ipv6Count (beq_iff_eq.mp address)
  next before after found =>
    split at address
    next left right inLeft inRight =>
      rw [← splitDoubleColon_append found]
      have colon : isReferenceChar ':' = true := by decide
      exact hasReferenceChars_append (hasReferenceChars_of_ipv6Count inLeft)
        (hasReferenceChars_cons colon
          (hasReferenceChars_cons colon (hasReferenceChars_of_ipv6Count inRight)))
    next => cases address

theorem hasReferenceChars_of_isFutureAddress {chars : List Char}
    (address : isFutureAddress chars = true) : HasReferenceChars chars := by
  unfold isFutureAddress at address
  split at address
  next v rest =>
    rw [Bool.and_eq_true] at address
    obtain ⟨letter, address⟩ := address
    split at address
    next version place found =>
      simp only [Bool.and_eq_true] at address
      obtain ⟨⟨⟨-, hexadecimal⟩, -⟩, place⟩ := address
      refine hasReferenceChars_cons ?_ (hasReferenceChars_splitAtFirst '.' (by decide) ?_ ?_)
      · simp only [Bool.or_eq_true, beq_iff_eq] at letter
        rcases letter with rfl | rfl <;> decide
      · rw [found]
        exact hasReferenceChars_of_all isReferenceChar_of_isHexDigit hexadecimal
      · rw [found]
        intro chars same
        cases same
        refine hasReferenceChars_of_all ?_ place
        intro c admitted
        simp only [Bool.or_eq_true, Bool.and_eq_true, beq_iff_eq] at admitted
        rcases admitted with ⟨name, -⟩ | rfl
        · exact isReferenceChar_of_isNameChar name
        · decide
    next => cases address
  next => cases address

theorem hasReferenceChars_of_isHostAndPort {chars : List Char}
    (host : isHostAndPort chars = true) : HasReferenceChars chars := by
  unfold isHostAndPort at host
  split at host
  next rest =>
    refine hasReferenceChars_cons (by decide) ?_
    split at host
    next address after found =>
      rw [Bool.and_eq_true] at host
      obtain ⟨address, port⟩ := host
      apply hasReferenceChars_splitAtFirst ']' (by decide)
      · rw [found]
        rcases Bool.or_eq_true_iff.mp address with current | future
        · exact hasReferenceChars_of_isIpv6 current
        · exact hasReferenceChars_of_isFutureAddress future
      · rw [found]
        intro chars same
        cases same
        split at port
        next => exact hasReferenceChars_nil
        next digits =>
          exact hasReferenceChars_cons (by decide)
            (hasReferenceChars_of_all isReferenceChar_of_isDigit port)
        next => cases port
    next => cases host
  next =>
    rw [Bool.and_eq_true] at host
    apply hasReferenceChars_splitAtFirst ':' (by decide)
    · exact hasReferenceChars_of_allAdmitted isReferenceChar_of_isNameChar host.1
    · intro digits found
      rw [Option.mem_def.mp found] at host
      exact hasReferenceChars_of_all isReferenceChar_of_isDigit host.2

theorem hasReferenceChars_of_isAuthority {chars : List Char}
    (authority : isAuthority chars = true) : HasReferenceChars chars := by
  unfold isAuthority at authority
  apply hasReferenceChars_splitAtFirst '@' (by decide)
  all_goals
    generalize splitAtFirst '@' chars = parts at authority ⊢
    obtain ⟨front, back⟩ := parts
  case before =>
    cases back with
    | none => exact hasReferenceChars_of_isHostAndPort authority
    | some host =>
        rw [Bool.and_eq_true] at authority
        refine hasReferenceChars_of_allAdmitted ?_ authority.1
        intro c admitted
        rcases Bool.or_eq_true_iff.mp admitted with name | colon
        · exact isReferenceChar_of_isNameChar name
        · rw [beq_iff_eq.mp colon]
          decide
  case after =>
    intro host found
    cases found
    rw [Bool.and_eq_true] at authority
    exact hasReferenceChars_of_isHostAndPort authority.2

/-! ## Whole references -/

theorem hasReferenceChars_of_pathAndQuestionMarks {chars : List Char}
    (admitted : allAdmitted (fun c => isPathChar c || c == '?') chars = true) :
    HasReferenceChars chars := by
  refine hasReferenceChars_of_allAdmitted ?_ admitted
  intro c admitted
  simp only [Bool.or_eq_true, beq_iff_eq] at admitted
  rcases admitted with inPath | rfl
  · exact isReferenceChar_of_isPathChar inPath
  · decide

structure PartsAdmitted (reference : Reference) : Prop where
  authority : ∀ chars ∈ reference.authority, HasReferenceChars chars
  path : HasReferenceChars reference.path
  query : ∀ chars ∈ reference.query, HasReferenceChars chars
  fragment : ∀ chars ∈ reference.fragment, HasReferenceChars chars

theorem partsAdmitted_of_isValid {reference : Reference} (valid : reference.isValid = true) :
    PartsAdmitted reference := by
  unfold isValid at valid
  simp only [Bool.and_eq_true] at valid
  obtain ⟨⟨⟨⟨authority, path⟩, -⟩, query⟩, fragment⟩ := valid
  constructor
  case authority =>
    intro chars present
    rw [Option.mem_def.mp present] at authority
    exact hasReferenceChars_of_isAuthority authority
  case path => exact hasReferenceChars_of_allAdmitted isReferenceChar_of_isPathChar path
  case query =>
    intro chars present
    rw [Option.mem_def.mp present] at query
    refine hasReferenceChars_of_allAdmitted ?_ query
    intro c admitted
    simp only [Bool.or_eq_true, beq_iff_eq] at admitted
    rcases admitted with (inPath | rfl) | privateUse
    · exact isReferenceChar_of_isPathChar inPath
    · decide
    · simp only [isReferenceChar, privateUse, Bool.or_true, Bool.true_or]
  case fragment =>
    intro chars present
    rw [Option.mem_def.mp present] at fragment
    exact hasReferenceChars_of_pathAndQuestionMarks fragment

theorem hasReferenceChars_of_isValid {chars : List Char} (valid : (split chars).isValid = true) :
    HasReferenceChars chars := by
  have admitted := partsAdmitted_of_isValid valid
  rw [← splitScheme_append chars]
  refine hasReferenceChars_append (hasReferenceChars_scheme chars) ?_
  cases scheme : splitScheme chars with
  | mk name rest =>
      cases atHash : splitAtFirst '#' rest with
      | mk front fragment =>
          cases atMark : splitAtFirst '?' front with
          | mk place query =>
              simp only [split, scheme, atHash, atMark] at admitted
              have ofParts : HasReferenceChars place ∧ (∀ part ∈ query, HasReferenceChars part) ∧
                  ∀ part ∈ fragment, HasReferenceChars part := by
                split at admitted
                next after =>
                  refine ⟨?_, admitted.query, admitted.fragment⟩
                  have slash : isReferenceChar '/' = true := by decide
                  refine hasReferenceChars_cons slash (hasReferenceChars_cons slash ?_)
                  rw [← List.takeWhile_append_dropWhile (p := (· != '/')) (l := after)]
                  exact hasReferenceChars_append (admitted.authority _ rfl) admitted.path
                next => exact ⟨admitted.path, admitted.query, admitted.fragment⟩
              obtain ⟨inPlace, inQuery, inFragment⟩ := ofParts
              apply hasReferenceChars_splitAtFirst '#' (by decide)
              · rw [atHash]
                apply hasReferenceChars_splitAtFirst '?' (by decide)
                · rw [atMark]
                  exact inPlace
                · rw [atMark]
                  exact inQuery
              · rw [atHash]
                exact inFragment

end Reference

/-- What stands in a valid identifier may stand in a reference. -/
theorem Iri.hasReferenceChars_of_parse {text : String} {iri : Iri}
    (parsed : Iri.parse? text = some iri) : Reference.HasReferenceChars text.toList := by
  simp only [Iri.parse?] at parsed
  split at parsed
  next accepted => exact Reference.hasReferenceChars_of_isValid accepted.2
  next => cases parsed

end RdfPipeline.Rdf
