import RdfPipeline.Proofs.Rdf.Validity

/-!
# The tokens of written terms

Every token takes some of the text, so the tokens do not depend on the bound of the reader.
In front of any other text, a written identifier is one token, and so is a written string. So are
labels and tags in front of a blank, if they are legible. After what is read of an illegible tag no
token follows; after what is read of an illegible label none follows, or two dots do.
-/

set_option autoImplicit false

namespace RdfPipeline.Rdf.Token

/-! ## What is left of a text -/

theorem length_of_readEscape {named : Bool} {chars rest : List Char} {c : Char}
    (read : readEscape? named chars = some (c, rest)) : rest.length < chars.length := by
  unfold readEscape? at read
  split at read
  next =>
    obtain ⟨_, _, same⟩ := Option.map_eq_some_iff.mp read
    cases same
    simp only [List.length_cons]
    omega
  next =>
    obtain ⟨_, _, same⟩ := Option.map_eq_some_iff.mp read
    cases same
    simp only [List.length_cons]
    omega
  next =>
    split at read
    next => split at read <;> cases read <;> exact Nat.lt_succ_self _
    next => cases read
  next => cases read

theorem length_of_readReference {fuel : Nat} {chars text rest : List Char}
    (read : readReference? fuel chars = some (text, rest)) : rest.length < chars.length := by
  fun_induction readReference? fuel chars generalizing text with
  | case1 => cases read
  | case2 => cases read
  | case3 =>
      cases read
      exact Nat.lt_succ_self _
  | case4 fuel chars ih =>
      simp only [Option.bind_eq_bind, Option.bind_eq_some_iff] at read
      obtain ⟨⟨c, left⟩, escape, ⟨more, after⟩, later, same⟩ := read
      cases same
      have shorter := length_of_readEscape escape
      have further : after.length < left.length := ih left later
      simp only [List.length_cons]
      omega
  | case5 fuel c chars _ _ ih =>
      simp only [Option.bind_eq_bind, Option.bind_eq_some_iff] at read
      obtain ⟨⟨more, after⟩, later, same⟩ := read
      cases same
      exact Nat.lt_succ_of_lt (ih later)

theorem length_of_readShortString {quote : Char} {fuel : Nat} {chars text rest : List Char}
    (read : readShortString? quote fuel chars = some (text, rest)) :
    rest.length < chars.length := by
  fun_induction readShortString? quote fuel chars generalizing text with
  | case1 => cases read
  | case2 => cases read
  | case3 =>
      cases read
      exact Nat.lt_succ_self _
  | case4 => cases read
  | case5 fuel chars _ _ ih =>
      simp only [Option.bind_eq_bind, Option.bind_eq_some_iff] at read
      obtain ⟨⟨c, left⟩, escape, ⟨more, after⟩, later, same⟩ := read
      cases same
      have shorter := length_of_readEscape escape
      have further : after.length < left.length := ih left later
      simp only [List.length_cons]
      omega
  | case6 fuel c chars _ _ _ ih =>
      simp only [Option.bind_eq_bind, Option.bind_eq_some_iff] at read
      obtain ⟨⟨more, after⟩, later, same⟩ := read
      cases same
      exact Nat.lt_succ_of_lt (ih later)

theorem spanLabel_append (chars : List Char) :
    (spanLabel chars).1 ++ (spanLabel chars).2 = chars := by
  fun_induction spanLabel chars with
  | case1 => rfl
  | case2 c rest _ more after found ih =>
      rw [found] at ih
      exact congrArg (c :: ·) ih
  | case3 => rfl

theorem spanLetters_append (chars : List Char) :
    (spanLetters chars).1 ++ (spanLetters chars).2 = chars := by
  fun_induction spanLetters chars with
  | case1 => rfl
  | case2 c rest _ more after found ih =>
      rw [found] at ih
      exact congrArg (c :: ·) ih
  | case3 => rfl

theorem readBlankLabel_eq_some {chars rest : List Char} {token : Token}
    (read : readBlankLabel? chars = some (token, rest)) :
    token = .blankLabel (String.ofList (spanLabel chars).1) ∧ rest = (spanLabel chars).2 := by
  unfold readBlankLabel? at read
  split at read
  next first others =>
    split at read
    next =>
      simp only at read
      split at read
      next => cases read
      next =>
        cases read
        exact ⟨rfl, rfl⟩
    next => cases read
  next => cases read

theorem readLanguage_eq_some {chars rest : List Char} {token : Token}
    (read : readLanguage? chars = some (token, rest)) :
    token = .language (String.ofList (spanLetters chars).1) ∧ rest = (spanLetters chars).2 := by
  unfold readLanguage? at read
  split at read
  next first others =>
    split at read
    next =>
      simp only at read
      split at read
      next =>
        cases read
        exact ⟨rfl, rfl⟩
      next => cases read
    next => cases read
  next => cases read

theorem length_spanLabel (chars : List Char) : (spanLabel chars).2.length ≤ chars.length :=
  List.IsSuffix.length_le ⟨_, spanLabel_append chars⟩

theorem length_spanLetters (chars : List Char) : (spanLetters chars).2.length ≤ chars.length :=
  List.IsSuffix.length_le ⟨_, spanLetters_append chars⟩

theorem length_of_readNTriples {chars rest : List Char} {token : Token}
    (read : readNTriples? chars = some (token, rest)) : rest.length < chars.length := by
  unfold readNTriples? at read
  split at read
  next => cases read
  next chars =>
    simp only [Option.bind_eq_bind, Option.bind_eq_some_iff] at read
    obtain ⟨⟨text, after⟩, reference, same⟩ := read
    cases same
    exact Nat.lt_succ_of_lt (length_of_readReference reference)
  next chars =>
    obtain ⟨-, rfl⟩ := readBlankLabel_eq_some read
    have shorter := length_spanLabel chars
    simp only [List.length_cons]
    omega
  next chars =>
    simp only [readString?, Bool.false_eq_true, false_and, if_false, Option.bind_eq_bind,
      Option.bind_eq_some_iff] at read
    obtain ⟨⟨text, after⟩, string, same⟩ := read
    cases same
    exact Nat.lt_succ_of_lt (length_of_readShortString string)
  next chars =>
    obtain ⟨-, rfl⟩ := readLanguage_eq_some read
    exact Nat.lt_succ_of_le (length_spanLetters chars)
  next =>
    cases read
    simp only [List.length_cons]
    omega
  next =>
    cases read
    exact Nat.lt_succ_self _
  next =>
    cases read
    exact Nat.lt_succ_self _
  next =>
    cases read
    exact Nat.lt_succ_self _
  next => cases read

theorem length_skipComment (chars : List Char) : (skipComment chars).length ≤ chars.length :=
  (List.dropWhile_suffix _).length_le

/-! ## Token streams without a bound -/

/-- The tokens of an N-Triples text, if all of it is made of tokens and blanks. -/
def stream? (chars : List Char) : Option (List Token) :=
  nTriplesTokens? (chars.length + 1) chars

theorem nTriplesTokens_eq {chars : List Char} {left right : Nat} (enough : chars.length < left)
    (alsoEnough : chars.length < right) :
    nTriplesTokens? left chars = nTriplesTokens? right chars := by
  induction left generalizing right chars with
  | zero => omega
  | succ left ih =>
      cases right with
      | zero => omega
      | succ right =>
          cases chars with
          | nil => rfl
          | cons c rest =>
              rw [List.length_cons, Nat.succ_lt_succ_iff] at enough alsoEnough
              have shorter {after : List Char} (less : after.length ≤ rest.length) :
                  nTriplesTokens? left after = nTriplesTokens? right after :=
                ih (Nat.lt_of_le_of_lt less enough) (Nat.lt_of_le_of_lt less alsoEnough)
              by_cases comment : c = '#'
              · subst comment
                exact shorter (length_skipComment rest)
              · rw [nTriplesTokens?, nTriplesTokens?]
                · split
                  next => exact shorter (Nat.le_refl _)
                  next =>
                    cases read : readNTriples? (c :: rest) with
                    | none => rfl
                    | some taken =>
                        have less := Nat.le_of_lt_succ (length_of_readNTriples read)
                        simp only [Option.bind_eq_bind, Option.bind_some, shorter less]
                · exact comment
                · exact comment

theorem nTriplesTokens_eq_stream {chars : List Char} {fuel : Nat}
    (enough : chars.length < fuel) : nTriplesTokens? fuel chars = stream? chars :=
  nTriplesTokens_eq enough (Nat.lt_succ_self _)

theorem stream_blank (rest : List Char) : stream? (' ' :: rest) = stream? rest :=
  rfl

theorem stream_of_token {c : Char} {rest after : List Char} {token : Token}
    (read : readNTriples? (c :: rest) = some (token, after)) :
    stream? (c :: rest) = (stream? after).map (token :: ·) := by
  have visible : c ≠ '#' ∧ ¬ (c = ' ' ∨ c = '\t') := by
    constructor
    · rintro rfl
      cases read
    · rintro (rfl | rfl) <;> cases read
  rw [stream?, nTriplesTokens?, if_neg visible.2]
  · simp only [read, Option.bind_eq_bind, Option.bind_some]
    rw [nTriplesTokens_eq_stream]
    · cases stream? after <;> rfl
    · exact length_of_readNTriples read
  · exact visible.1

theorem stream_of_no_token {c : Char} {rest : List Char} (shown : c ≠ '#' ∧ ¬ (c = ' ' ∨ c = '\t'))
    (read : readNTriples? (c :: rest) = none) : stream? (c :: rest) = none := by
  rw [stream?, nTriplesTokens?, if_neg shown.2]
  · simp only [read, Option.bind_eq_bind, Option.bind_none]
  · exact shown.1

theorem stream_dot (rest : List Char) :
    stream? ('.' :: rest) = (stream? rest).map (.mark '.' :: ·) :=
  stream_of_token rfl

theorem stream_lineEnd (rest : List Char) :
    stream? ('\n' :: rest) = (stream? rest).map (.lineEnd :: ·) :=
  stream_of_token rfl

theorem stream_carets (rest : List Char) :
    stream? ('^' :: '^' :: rest) = (stream? rest).map (.carets :: ·) :=
  stream_of_token rfl

theorem stream_colon (rest : List Char) : stream? (':' :: rest) = none :=
  stream_of_no_token (by decide) rfl

/-! ## Identifiers -/

theorem readReference_written {text : List Char} (rest : List Char) {fuel : Nat}
    (plain : ∀ c ∈ text, c ≠ '>' ∧ c ≠ '\\') (enough : text.length < fuel) :
    readReference? fuel (text ++ '>' :: rest) = some (text, rest) := by
  induction text generalizing fuel with
  | nil =>
      cases fuel with
      | zero => cases enough
      | succ fuel => rfl
  | cons c text ih =>
      cases fuel with
      | zero => cases enough
      | succ fuel =>
          have later := ih (fun d member => plain d (List.mem_cons_of_mem _ member))
            (Nat.lt_of_succ_lt_succ enough)
          obtain ⟨noEnd, noEscape⟩ := plain c List.mem_cons_self
          rw [List.cons_append, readReference?]
          · simp only [later, Option.bind_eq_bind, Option.bind_some]
          · exact noEnd
          · exact noEscape

theorem plain_of_isValid {iri : Iri} (valid : iri.IsValid) :
    ∀ c ∈ iri.text.toList, c ≠ '>' ∧ c ≠ '\\' := by
  intro c member
  have admitted := Iri.hasReferenceChars_of_parse valid c member
  constructor
  · rintro rfl
    revert admitted
    decide
  · rintro rfl
    revert admitted
    decide

theorem stream_iri {iri : Iri} (valid : iri.IsValid) (rest : List Char) :
    stream? (iri.toText.toList ++ rest) = (stream? rest).map (.reference iri.text :: ·) := by
  have written : iri.toText.toList ++ rest = '<' :: (iri.text.toList ++ '>' :: rest) := by
    simp [Iri.toText]
  rw [written]
  apply stream_of_token
  have enough : iri.text.toList.length < (iri.text.toList ++ '>' :: rest).length + 1 := by
    rw [List.length_append]
    omega
  have read := readReference_written rest (plain_of_isValid valid) enough
  simp only [readNTriples?, read, Option.bind_eq_bind, Option.bind_some, String.ofList_toList]

/-! ## Strings -/

theorem length_upperHex : ∀ code < 0x80, (Text.upperHex 4 code).length = 4 := by
  decide

theorem codeEscape_upperHex :
    ∀ code < 0x80, codeEscape? (Text.upperHex 4 code) = some (Char.ofNat code) := by
  decide

theorem readEscape_upperHex {code : Nat} (small : code < 0x80) (rest : List Char) :
    readEscape? true ('u' :: (Text.upperHex 4 code ++ rest)) = some (Char.ofNat code, rest) := by
  have four := length_upperHex code small
  have read := codeEscape_upperHex code small
  generalize Text.upperHex 4 code = digits at four read
  match digits, four with
  | [a, b, c, d], _ =>
      simp only [List.cons_append, List.nil_append, readEscape?, read, Option.map_some]

theorem readShortString_escape {rest after : List Char} {c : Char} (fuel : Nat)
    (read : readEscape? true rest = some (c, after)) :
    readShortString? '"' (fuel + 1) ('\\' :: rest) =
      (readShortString? '"' fuel after).map fun taken => (c :: taken.1, taken.2) := by
  rw [readShortString?, if_neg (by decide), if_neg (by decide), if_pos rfl]
  simp only [read, Option.bind_eq_bind, Option.bind_some]
  cases readShortString? '"' fuel after <;> rfl

theorem readShortString_plain {c : Char} (fuel : Nat) (rest : List Char) (noEnd : c ≠ '"')
    (sameLine : ¬ (c = '\n' ∨ c = '\r')) (noEscape : c ≠ '\\') :
    readShortString? '"' (fuel + 1) (c :: rest) =
      (readShortString? '"' fuel rest).map fun taken => (c :: taken.1, taken.2) := by
  rw [readShortString?, if_neg noEnd, if_neg sameLine, if_neg noEscape]
  cases readShortString? '"' fuel rest <;> rfl

theorem readShortString_escapeLiteralChar (c : Char) (fuel : Nat) (rest : List Char) :
    readShortString? '"' (fuel + 1) (escapeLiteralChar c ++ rest) =
      (readShortString? '"' fuel rest).map fun taken => (c :: taken.1, taken.2) := by
  unfold escapeLiteralChar
  split
  case h_8 _ _ _ sameLine _ sameLine' noEnd noEscape =>
    split
    next control =>
      have small : c.toNat < 0x80 := by omega
      have read := readEscape_upperHex small rest
      rw [Char.ofNat_toNat] at read
      exact readShortString_escape fuel read
    next => exact readShortString_plain fuel rest noEnd (not_or.mpr ⟨sameLine, sameLine'⟩) noEscape
  all_goals exact readShortString_escape fuel rfl

theorem readShortString_written (text rest : List Char) {fuel : Nat} (enough : text.length < fuel) :
    readShortString? '"' fuel (text.flatMap escapeLiteralChar ++ '"' :: rest) =
      some (text, rest) := by
  induction text generalizing fuel with
  | nil =>
      cases fuel with
      | zero => cases enough
      | succ fuel => rfl
  | cons c text ih =>
      cases fuel with
      | zero => cases enough
      | succ fuel =>
          rw [List.flatMap_cons, List.append_assoc, readShortString_escapeLiteralChar,
            ih (Nat.lt_of_succ_lt_succ enough), Option.map_some]

theorem escapeLiteralChar_ne_nil (c : Char) : escapeLiteralChar c ≠ [] := by
  unfold escapeLiteralChar
  split
  case h_8 => split <;> exact List.cons_ne_nil _ _
  all_goals exact List.cons_ne_nil _ _

theorem length_le_flatMap_escapeLiteralChar (text : List Char) :
    text.length ≤ (text.flatMap escapeLiteralChar).length := by
  induction text with
  | nil => exact Nat.le_refl _
  | cons c text ih =>
      have filled := List.length_pos_iff.mpr (escapeLiteralChar_ne_nil c)
      rw [List.flatMap_cons, List.length_append, List.length_cons]
      omega

theorem stream_quoteLiteral (lexical : String) (rest : List Char) :
    stream? ((quoteLiteral lexical).toList ++ rest) =
      (stream? rest).map (.string lexical :: ·) := by
  have written : (quoteLiteral lexical).toList ++ rest =
      '"' :: (lexical.toList.flatMap escapeLiteralChar ++ '"' :: rest) := by
    simp [quoteLiteral]
  rw [written]
  apply stream_of_token
  have enough : lexical.toList.length <
      (lexical.toList.flatMap escapeLiteralChar ++ '"' :: rest).length + 1 := by
    have longer := length_le_flatMap_escapeLiteralChar lexical.toList
    rw [List.length_append]
    omega
  have read := readShortString_written lexical.toList rest enough
  simp only [readNTriples?, readString?, Bool.false_eq_true, false_and, if_false, read,
    Option.bind_eq_bind, Option.bind_some, String.ofList_toList]

/-! ## Labels -/

variable {label : List Char}

theorem spanLabel_cons {c : Char} {rest : List Char}
    (taken : (isNameChar c || (c == '.' && (rest.head?.map isNameChar).getD false)) = true) :
    spanLabel (c :: rest) = (c :: (spanLabel rest).1, (spanLabel rest).2) := by
  rw [spanLabel, if_pos taken]

theorem spanLabel_of_legible (isEnd : IsLabelEnd label) (legible : IsLegibleLabel label)
    (rest : List Char) : spanLabel (label ++ ' ' :: rest) = (label, ' ' :: rest) := by
  induction label with
  | nil => rfl
  | cons c label ih =>
      have later := ih isEnd.tail legible.tail
      rw [List.cons_append, spanLabel_cons, later]
      rcases isEnd.cases_head with name | rfl | rfl
      · rw [name, Bool.true_or]
      · exact absurd List.mem_cons_self legible.noColon
      · obtain ⟨d, more, rfl⟩ := isEnd.exists_after_dot
        rcases isEnd.tail.cases_head with name | rfl | rfl
        · simp [name]
        · exact absurd (List.mem_cons_of_mem _ List.mem_cons_self) legible.noColon
        · exact absurd ⟨[], more, rfl⟩ legible.dotsApart

/-- What is left of an illegible label starts with a colon, or with a dot that a dot or a colon
follows. -/
theorem spanLabel_of_illegible (isEnd : IsLabelEnd label) (illegible : ¬ IsLegibleLabel label)
    (rest : List Char) :
    ∃ more, (spanLabel (label ++ rest)).2 = ':' :: more ∨
      (spanLabel (label ++ rest)).2 = '.' :: ':' :: more ∨
      (spanLabel (label ++ rest)).2 = '.' :: '.' :: more := by
  induction label with
  | nil => exact absurd isLegibleLabel_nil illegible
  | cons c label ih =>
      rw [List.cons_append]
      rcases isEnd.cases_head with name | rfl | rfl
      · rw [spanLabel_cons (by rw [name, Bool.true_or])]
        apply ih isEnd.tail
        intro legible
        obtain ⟨noDot, noColon⟩ := ne_of_isNameChar name
        exact illegible (legible.cons noColon fun dot => absurd dot noDot)
      · exact ⟨label ++ rest, .inl rfl⟩
      · obtain ⟨d, others, rfl⟩ := isEnd.exists_after_dot
        rcases isEnd.tail.cases_head with name | rfl | rfl
        · rw [spanLabel_cons (by simp [name])]
          apply ih isEnd.tail
          intro legible
          apply illegible
          apply legible.cons (by decide)
          intro _ dot
          exact (ne_of_isNameChar name).1 (Option.some.inj dot)
        · exact ⟨others ++ rest, .inr (.inl rfl)⟩
        · exact ⟨others ++ rest, .inr (.inr rfl)⟩

theorem stream_label (isLabel : IsLabel label) (legible : IsLegibleLabel label)
    (rest : List Char) :
    stream? ('_' :: ':' :: (label ++ ' ' :: rest)) =
      (stream? rest).map (.blankLabel (String.ofList label) :: ·) := by
  have span := spanLabel_of_legible isLabel.toIsLabelEnd legible rest
  obtain ⟨c, front, start⟩ := isLabel.first
  cases label with
  | nil => cases front
  | cons first others =>
      cases front
      have noColon : (c == ':') = false := by
        rw [beq_eq_false_iff_ne]
        rintro rfl
        exact legible.noColon List.mem_cons_self
      rw [isLabelStart, noColon, Bool.or_false] at start
      rw [← stream_blank rest]
      apply stream_of_token
      rw [List.cons_append] at span
      simp only [readNTriples?, List.cons_append, readBlankLabel?, start, if_true, span]
      rw [if_neg (by simp)]

/-- The reader stops within an illegible label. No token starts there, or two dots follow what it
read. -/
theorem stream_illegible_label (isLabel : IsLabel label) (illegible : ¬ IsLegibleLabel label)
    {rest : List Char} {tokens : List Token}
    (read : stream? ('_' :: ':' :: (label ++ rest)) = some tokens) :
    ∃ kept more, tokens = .blankLabel kept :: .mark '.' :: .mark '.' :: more := by
  obtain ⟨left, stops⟩ := spanLabel_of_illegible isLabel.toIsLabelEnd illegible rest
  cases taken : readNTriples? ('_' :: ':' :: (label ++ rest)) with
  | none =>
      rw [stream_of_no_token (by decide) taken] at read
      cases read
  | some result =>
      obtain ⟨token, after⟩ := result
      obtain ⟨rfl, rfl⟩ := readBlankLabel_eq_some taken
      rw [stream_of_token taken] at read
      rcases stops with colon | dotColon | dots
      · rw [colon, stream_colon] at read
        cases read
      · rw [dotColon, stream_dot, stream_colon] at read
        cases read
      · rw [dots, stream_dot, stream_dot, Option.map_map, Option.map_map] at read
        obtain ⟨more, -, rfl⟩ := Option.map_eq_some_iff.mp read
        exact ⟨_, more, rfl⟩

/-! ## Language tags -/

variable {tag : List Char}

theorem spanLetters_cons {c : Char} {rest : List Char}
    (taken : (Reference.isAsciiLetter c ||
      (c == '-' && (rest.head?.map Reference.isAsciiLetter).getD false)) = true) :
    spanLetters (c :: rest) = (c :: (spanLetters rest).1, (spanLetters rest).2) := by
  rw [spanLetters, if_pos taken]

theorem spanLetters_of_letters (each : ∀ c ∈ tag, c = '-' ∨ Reference.isAsciiLetter c = true)
    (afterHyphen : ∀ before after, tag = before ++ '-' :: after →
      ∃ c ∈ after.head?, Reference.isAsciiLetter c = true) (rest : List Char) :
    spanLetters (tag ++ ' ' :: rest) = (tag, ' ' :: rest) := by
  induction tag with
  | nil => rfl
  | cons c tag ih =>
      have later := ih (fun d member => each d (List.mem_cons_of_mem c member))
        (fun before after split => afterHyphen (c :: before) after (congrArg (c :: ·) split))
      rw [List.cons_append, spanLetters_cons, later]
      rcases each c List.mem_cons_self with rfl | letter
      · obtain ⟨d, next, letter⟩ := afterHyphen [] tag rfl
        rw [List.head?_append, Option.mem_def.mp next]
        simp [letter]
      · rw [letter, Bool.true_or]

theorem isAsciiLetter_of_isDigit {c : Char} (digit : Text.isDigit c = true) :
    Reference.isAsciiLetter c = false := by
  unfold Text.isDigit Text.digitValue? at digit
  split at digit
  next within =>
    have small : ¬ 'a' ≤ c := not_le.mpr (lt_of_le_of_lt within.2 (by decide))
    have capital : ¬ 'A' ≤ c := not_le.mpr (lt_of_le_of_lt within.2 (by decide))
    simp only [Reference.isAsciiLetter, small, capital, decide_false, Bool.false_and, Bool.or_self]
  next => cases digit

theorem spanLetters_of_digit
    (each : ∀ c ∈ tag, c = '-' ∨ Reference.isAsciiLetter c = true ∨ Text.isDigit c = true)
    (digit : ∃ c ∈ tag, Text.isDigit c = true) (rest : List Char) :
    ∃ c more, (spanLetters (tag ++ rest)).2 = c :: more ∧ (c = '-' ∨ Text.isDigit c = true) := by
  induction tag with
  | nil =>
      obtain ⟨c, member, -⟩ := digit
      cases member
  | cons c tag ih =>
      rw [List.cons_append, spanLetters]
      split
      next taken =>
        apply ih fun d member => each d (List.mem_cons_of_mem c member)
        obtain ⟨d, member, digit⟩ := digit
        rcases List.mem_cons.mp member with rfl | member
        · rw [isAsciiLetter_of_isDigit digit, Bool.false_or, Bool.and_eq_true, beq_iff_eq] at taken
          rw [taken.1] at digit
          exact absurd digit (by decide)
        · exact ⟨d, member, digit⟩
      next stops =>
        rw [Bool.or_eq_true, not_or] at stops
        exact ⟨c, tag ++ rest, rfl, (each c List.mem_cons_self).imp_right
          fun cases => cases.resolve_left stops.1⟩

theorem readNTriples_of_isDigit {c : Char} (digit : Text.isDigit c = true) (rest : List Char) :
    readNTriples? (c :: rest) = none := by
  unfold readNTriples?
  split
  case h_10 => rfl
  all_goals
    rename_i same
    cases same
    try exact absurd digit (by decide)

theorem stream_of_hyphen_or_digit {c : Char} (stops : c = '-' ∨ Text.isDigit c = true)
    (rest : List Char) : stream? (c :: rest) = none := by
  rcases stops with rfl | digit
  · exact stream_of_no_token (by decide) rfl
  · apply stream_of_no_token
    · constructor
      · rintro rfl
        exact absurd digit (by decide)
      · rintro (rfl | rfl) <;> exact absurd digit (by decide)
    · exact readNTriples_of_isDigit digit rest

theorem stream_language {tag : String} (divided : LanguageTag.IsDivided tag.toList)
    (wellFormed : LanguageTag.isWellFormed tag = true)
    (noDigits : ∀ c ∈ tag.toList, Text.isDigit c = false) (rest : List Char) :
    stream? ('@' :: (tag.toList ++ ' ' :: rest)) = (stream? rest).map (.language tag :: ·) := by
  have span : spanLetters (tag.toList ++ ' ' :: rest) = (tag.toList, ' ' :: rest) := by
    apply spanLetters_of_letters
    · intro c member
      exact (divided.cases_mem member).imp_right fun cases =>
        cases.resolve_right (Bool.eq_false_iff.mp (noDigits c member))
    · intro before after split
      obtain ⟨c, next, admitted⟩ := divided.exists_after_hyphen split
      have member : c ∈ tag.toList := by
        rw [split]
        exact List.mem_append_right _ (List.mem_cons_of_mem _ (List.mem_of_head? next))
      exact ⟨c, next, admitted.resolve_right (Bool.eq_false_iff.mp (noDigits c member))⟩
  rw [← stream_blank rest]
  apply stream_of_token
  obtain ⟨c, front, letter⟩ := divided.exists_first
  cases chars : tag.toList with
  | nil =>
      rw [chars] at front
      cases front
  | cons first others =>
      have whole : String.ofList (first :: others) = tag := by rw [← chars, String.ofList_toList]
      rw [chars] at front span
      cases front
      rw [List.cons_append] at span
      simp only [readNTriples?, List.cons_append, readLanguage?, letter, if_true, span, whole,
        wellFormed]

theorem stream_illegible_language {tag : List Char} (divided : LanguageTag.IsDivided tag)
    (digit : ∃ c ∈ tag, Text.isDigit c = true) (rest : List Char) :
    stream? ('@' :: (tag ++ rest)) = none := by
  cases taken : readNTriples? ('@' :: (tag ++ rest)) with
  | none => exact stream_of_no_token (by decide) taken
  | some result =>
      obtain ⟨token, after⟩ := result
      obtain ⟨-, rfl⟩ := readLanguage_eq_some taken
      obtain ⟨c, more, left, stops⟩ :=
        spanLetters_of_digit (fun c member => divided.cases_mem member) digit rest
      rw [stream_of_token taken, left, stream_of_hyphen_or_digit stops, Option.map_none]

end RdfPipeline.Rdf.Token
