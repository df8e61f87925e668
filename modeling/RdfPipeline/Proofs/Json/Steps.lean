import RdfPipeline.Proofs.Json.RoundTrip

/-!
# Steps of the reader of documents

All that one call of a reader can come to, and what each of them leaves behind it.
-/

set_option autoImplicit false

namespace RdfPipeline.Json

/-! ## Strings in front of other texts -/

theorem readString?_escape {c : Char} (noUnit : c ≠ 'u') (rest : List Char) :
    readString? ('\\' :: c :: rest) =
      (simpleEscape? c).bind fun char => (readString? rest).map fun read => (char :: read.1, read.2) := by
  rw [readString?]
  · cases simpleEscape? c with
    | none => rfl
    | some char => cases readString? rest <;> rfl
  · intro _ _ _ _ _ same
    exact absurd same noUnit

/-- A string is read up to its closing quote, whatever stands behind that. -/
theorem readString?_append {chars text left : List Char}
    (read : readString? chars = some (text, left)) (rest : List Char) :
    readString? (chars ++ rest) = some (text, left ++ rest) := by
  fun_induction readString? chars generalizing text left with
  | case1 => cases read
  | case2 => cases read; rfl
  | case3 a b c d more ihMore ihPair =>
      simp only [Option.bind_eq_bind, Option.bind_eq_some_iff] at read
      obtain ⟨unit, isUnit, read⟩ := read
      simp only [List.cons_append, readString?, isUnit, Option.bind_eq_bind, Option.bind_some]
      cases single : Text.charOfCode? unit with
      | some char =>
          simp only [single, Option.bind_eq_some_iff] at read ⊢
          obtain ⟨⟨others, after⟩, ofRest, same⟩ := read
          cases same
          exact ⟨_, ihMore ofRest, rfl⟩
      | none =>
          simp only [single] at read ⊢
          split at read
          next e f g h more =>
            simp only [Option.bind_eq_some_iff] at read
            obtain ⟨low, isLow, char, isPair, ⟨others, after⟩, ofRest, same⟩ := read
            cases same
            simp only [List.cons_append, isLow, isPair, Option.bind_some, ihPair ofRest]
          next => cases read
  | case4 c more notUnit ih =>
      simp only [Option.bind_eq_bind, Option.bind_eq_some_iff] at read
      obtain ⟨char, isEscape, ⟨others, after⟩, ofRest, same⟩ := read
      cases same
      have noUnit : c ≠ 'u' := by
        rintro rfl
        cases isEscape
      rw [List.cons_append, List.cons_append, readString?_escape noUnit, isEscape, ih ofRest]
      rfl
  | case5 => cases read
  | case6 c more noEnd _ _ plain ih =>
      simp only [Option.bind_eq_bind, Option.bind_eq_some_iff] at read
      obtain ⟨⟨others, after⟩, ofRest, same⟩ := read
      cases same
      obtain ⟨noControl, noEscape⟩ := not_or.mp plain
      rw [List.cons_append, readString?_plain noEnd noEscape noControl, ih ofRest]
      rfl
/-! ## Spaces and words -/

section Spaces

variable {chars rest more left : List Char} {c : Char}

theorem skipSpaces_append_of_cons (starts : skipSpaces chars = c :: more) (rest : List Char) :
    skipSpaces (chars ++ rest) = c :: (more ++ rest) := by
  unfold skipSpaces at starts ⊢
  rw [List.dropWhile_append, starts]
  rfl

theorem skipSpaces_append_of_nil (blank : skipSpaces chars = []) (rest : List Char) :
    skipSpaces (chars ++ rest) = skipSpaces rest := by
  unfold skipSpaces at blank ⊢
  rw [List.dropWhile_append, blank]
  rfl

theorem stripWord?_append {word : List Char} (stripped : stripWord? word chars = some left)
    (rest : List Char) : stripWord? word (chars ++ rest) = some (left ++ rest) := by
  induction word generalizing chars with
  | nil =>
      cases stripped
      rfl
  | cons w word ih =>
      cases chars with
      | nil => cases stripped
      | cons c chars =>
          rw [stripWord?, Option.ite_none_right_eq_some] at stripped
          rw [List.cons_append, stripWord?, if_pos stripped.1]
          exact ih stripped.2

end Spaces

/-! ## Steps of the reader -/

/-- The documents that are words. -/
inductive IsWord : List Char → Json → Prop where
  | true : IsWord "true".toList (.bool true)
  | false : IsWord "false".toList (.bool false)
  | null : IsWord "null".toList .null

/-- All that a call of the reader of values can come to, at the first character that is no space. -/
inductive ValueStep (fuel : Nat) : Nat → List Char → Json → List Char → Prop where
  | string {levels : Nat} {chars text left : List Char} :
      readString? chars = some (text, left) →
      ValueStep fuel levels ('"' :: chars) (.string (String.ofList text)) left
  | emptyArray {levels : Nat} {chars left : List Char} :
      skipSpaces chars = ']' :: left → ValueStep fuel (levels + 1) ('[' :: chars) (.array []) left
  | array {levels : Nat} {chars left : List Char} {items : List Json} :
      readItems? fuel levels chars = some (items, left) →
      ValueStep fuel (levels + 1) ('[' :: chars) (.array items) left
  | emptyObject {levels : Nat} {chars left : List Char} :
      skipSpaces chars = '\x7d' :: left →
      ValueStep fuel (levels + 1) ('\x7b' :: chars) (.object []) left
  | object {levels : Nat} {chars left : List Char} {members : List (String × Json)} :
      readMembers? fuel levels chars = some (members, left) →
      ValueStep fuel (levels + 1) ('\x7b' :: chars) (.object members) left
  | number {levels : Nat} {chars left : List Char} {negative : Bool} {number : Number} :
      readNumber? negative chars = some (number, left) →
      ValueStep fuel levels (if negative then '-' :: chars else chars) (.number number) left
  | word {levels : Nat} {chars left word : List Char} {document : Json} :
      IsWord word document → stripWord? word chars = some left →
      ValueStep fuel levels chars document left

theorem skipSpaces_skipSpaces (chars : List Char) : skipSpaces (skipSpaces chars) = skipSpaces chars :=
  List.dropWhile_idempotent _ chars

theorem readValue?_skipSpaces (fuel levels : Nat) (chars : List Char) :
    readValue? fuel levels (skipSpaces chars) = readValue? fuel levels chars := by
  cases fuel with
  | zero => rfl
  | succ fuel => rw [readValue?, readValue?, skipSpaces_skipSpaces]

theorem readItems?_skipSpaces (fuel levels : Nat) (chars : List Char) :
    readItems? fuel levels (skipSpaces chars) = readItems? fuel levels chars := by
  cases fuel with
  | zero => rfl
  | succ fuel => rw [readItems?, readItems?, readValue?_skipSpaces]

theorem readMembers?_skipSpaces (fuel levels : Nat) (chars : List Char) :
    readMembers? fuel levels (skipSpaces chars) = readMembers? fuel levels chars := by
  cases fuel with
  | zero => rfl
  | succ fuel => rw [readMembers?, readMembers?, skipSpaces_skipSpaces]

theorem readItems?_bracket (fuel levels : Nat) (chars : List Char) :
    readItems? fuel levels (']' :: chars) = none := by
  cases fuel with
  | zero => rfl
  | succ fuel => cases fuel <;> rfl

theorem readMembers?_brace (fuel levels : Nat) (chars : List Char) :
    readMembers? fuel levels ('\x7d' :: chars) = none := by
  cases fuel <;> rfl

theorem ValueStep.of_readValue? {fuel levels : Nat} {chars left : List Char} {document : Json}
    (read : readValue? (fuel + 1) levels chars = some (document, left)) :
    ValueStep fuel levels (skipSpaces chars) document left := by
  rw [readValue?] at read
  split at read
  next more starts =>
    obtain ⟨⟨text, after⟩, isString, same⟩ := Option.bind_eq_some_iff.mp read
    cases same
    rw [starts]
    exact .string isString
  next more starts =>
    rw [starts]
    cases levels with
    | zero => cases read
    | succ levels =>
      dsimp only at read
      split at read
      next closed =>
        cases read
        exact .emptyArray closed
      next =>
        obtain ⟨⟨items, after⟩, areItems, same⟩ := Option.bind_eq_some_iff.mp read
        cases same
        exact .array ((readItems?_skipSpaces _ _ _).symm.trans areItems)
  next more starts =>
    rw [starts]
    cases levels with
    | zero => cases read
    | succ levels =>
      dsimp only at read
      split at read
      next closed =>
        cases read
        exact .emptyObject closed
      next =>
        obtain ⟨⟨members, after⟩, areMembers, same⟩ := Option.bind_eq_some_iff.mp read
        cases same
        exact .object ((readMembers?_skipSpaces _ _ _).symm.trans areMembers)
  next more starts =>
    obtain ⟨⟨number, after⟩, isNumber, same⟩ := Option.bind_eq_some_iff.mp read
    cases same
    rw [starts]
    exact @ValueStep.number fuel levels more left true number isNumber
  next more starts =>
    obtain ⟨after, stripped, same⟩ := Option.bind_eq_some_iff.mp read
    cases same
    rw [starts]
    exact .word .true stripped
  next more starts =>
    obtain ⟨after, stripped, same⟩ := Option.bind_eq_some_iff.mp read
    cases same
    rw [starts]
    exact .word .false stripped
  next more starts =>
    obtain ⟨after, stripped, same⟩ := Option.bind_eq_some_iff.mp read
    cases same
    rw [starts]
    exact .word .null stripped
  next =>
    obtain ⟨⟨number, after⟩, isNumber, same⟩ := Option.bind_eq_some_iff.mp read
    cases same
    exact @ValueStep.number fuel levels (skipSpaces chars) left false number isNumber

/-- A word is stripped by its first character and the others. -/
theorem exists_cons_of_stripWord? {c : Char} {word chars left : List Char}
    (stripped : stripWord? (c :: word) chars = some left) :
    ∃ more, chars = c :: more ∧ stripWord? word more = some left := by
  cases chars with
  | nil => cases stripped
  | cons first more =>
      rw [stripWord?, Option.ite_none_right_eq_some] at stripped
      exact ⟨more, congrArg (· :: more) stripped.1.symm, stripped.2⟩

theorem ValueStep.readValue? {fuel levels : Nat} {chars left : List Char} {document : Json}
    (step : ValueStep fuel levels (skipSpaces chars) document left) :
    readValue? (fuel + 1) levels chars = some (document, left) := by
  rw [← readValue?_skipSpaces]
  generalize skipSpaces chars = starts at step
  cases step with
  | string isString => exact Option.bind_eq_some_iff.mpr ⟨_, isString, rfl⟩
  | @emptyArray levels more _ closed =>
    have opening : skipSpaces ('[' :: more) = '[' :: more := rfl
    rw [Json.readValue?, opening]
    simp only [closed]
  | @array levels more _ _ areItems =>
    have opening : skipSpaces ('[' :: more) = '[' :: more := rfl
    rw [Json.readValue?, opening]
    simp only
    split
    next closed =>
      rw [← readItems?_skipSpaces, closed, readItems?_bracket] at areItems
      cases areItems
    next =>
      rw [readItems?_skipSpaces]
      exact Option.bind_eq_some_iff.mpr ⟨_, areItems, rfl⟩
  | @emptyObject levels more _ closed =>
    have opening : skipSpaces ('\x7b' :: more) = '\x7b' :: more := rfl
    rw [Json.readValue?, opening]
    simp only [closed]
  | @object levels more _ _ areMembers =>
    have opening : skipSpaces ('\x7b' :: more) = '\x7b' :: more := rfl
    rw [Json.readValue?, opening]
    simp only
    split
    next closed =>
      rw [← readMembers?_skipSpaces, closed, readMembers?_brace] at areMembers
      cases areMembers
    next =>
      rw [readMembers?_skipSpaces]
      exact Option.bind_eq_some_iff.mpr ⟨_, areMembers, rfl⟩
  | number isNumber => exact readValue?_of_readNumber? isNumber fuel levels
  | word isWord stripped =>
    cases isWord with
    | true =>
        obtain ⟨more, rfl, others⟩ := exists_cons_of_stripWord? stripped
        exact Option.bind_eq_some_iff.mpr ⟨_, others, rfl⟩
    | false =>
        obtain ⟨more, rfl, others⟩ := exists_cons_of_stripWord? stripped
        exact Option.bind_eq_some_iff.mpr ⟨_, others, rfl⟩
    | null =>
        obtain ⟨more, rfl, others⟩ := exists_cons_of_stripWord? stripped
        exact Option.bind_eq_some_iff.mpr ⟨_, others, rfl⟩

/-- All that a call of the reader of items can come to. -/
inductive ItemsStep (fuel levels : Nat) (chars : List Char) : List Json → List Char → Prop where
  | last {item : Json} {between left : List Char} :
      readValue? fuel levels chars = some (item, between) → skipSpaces between = ']' :: left →
      ItemsStep fuel levels chars [item] left
  | more {item : Json} {others : List Json} {between next left : List Char} :
      readValue? fuel levels chars = some (item, between) → skipSpaces between = ',' :: next →
      readItems? fuel levels next = some (others, left) →
      ItemsStep fuel levels chars (item :: others) left

/-- A member of an object starts with this name, up to behind its colon. -/
inductive Names (chars : List Char) : String → List Char → Prop where
  | intro {more name between next : List Char} :
      skipSpaces chars = '"' :: more → readString? more = some (name, between) →
      skipSpaces between = ':' :: next → Names chars (String.ofList name) next

/-- All that a call of the reader of members can come to. -/
inductive MembersStep (fuel levels : Nat) (chars : List Char) :
    List (String × Json) → List Char → Prop where
  | last {name : String} {value : Json} {text between left : List Char} :
      Names chars name text → readValue? fuel levels text = some (value, between) →
      skipSpaces between = '\x7d' :: left → MembersStep fuel levels chars [(name, value)] left
  | more {name : String} {value : Json} {others : List (String × Json)}
      {text between next left : List Char} :
      Names chars name text → readValue? fuel levels text = some (value, between) →
      skipSpaces between = ',' :: next → readMembers? fuel levels next = some (others, left) →
      MembersStep fuel levels chars ((name, value) :: others) left

section Steps

variable {fuel levels : Nat} {chars left : List Char}

theorem readItems?_eq_some_iff {items : List Json} :
    readItems? (fuel + 1) levels chars = some (items, left) ↔
      ItemsStep fuel levels chars items left := by
  constructor
  · intro read
    rw [readItems?] at read
    obtain ⟨⟨item, between⟩, isItem, read⟩ := Option.bind_eq_some_iff.mp read
    dsimp only at read
    split at read
    next next goesOn =>
      obtain ⟨⟨others, after⟩, areOthers, same⟩ := Option.bind_eq_some_iff.mp read
      cases same
      exact .more isItem goesOn areOthers
    next closed =>
      cases read
      exact .last isItem closed
    next => cases read
  · intro step
    rw [readItems?]
    cases step with
    | last isItem closed =>
        apply Option.bind_eq_some_iff.mpr
        refine ⟨_, isItem, ?_⟩
        simp only [closed]
    | more isItem goesOn areOthers =>
        apply Option.bind_eq_some_iff.mpr
        refine ⟨_, isItem, ?_⟩
        simp only [goesOn]
        exact Option.bind_eq_some_iff.mpr ⟨_, areOthers, rfl⟩

theorem readMembers?_eq_some_iff {members : List (String × Json)} :
    readMembers? (fuel + 1) levels chars = some (members, left) ↔
      MembersStep fuel levels chars members left := by
  constructor
  · intro read
    rw [readMembers?] at read
    split at read
    next more quoted =>
      obtain ⟨⟨name, afterName⟩, isName, read⟩ := Option.bind_eq_some_iff.mp read
      dsimp only at read
      split at read
      next text colon =>
        have names : Names chars (String.ofList name) text := .intro quoted isName colon
        obtain ⟨⟨value, between⟩, isValue, read⟩ := Option.bind_eq_some_iff.mp read
        dsimp only at read
        split at read
        next next goesOn =>
          obtain ⟨⟨others, after⟩, areOthers, same⟩ := Option.bind_eq_some_iff.mp read
          cases same
          exact .more names isValue goesOn areOthers
        next closed =>
          cases read
          exact .last names isValue closed
        next => cases read
      next => cases read
    next => cases read
  · intro step
    rw [readMembers?]
    cases step with
    | last names isValue closed =>
        cases names with
        | intro quoted isName colon =>
            simp only [quoted]
            apply Option.bind_eq_some_iff.mpr
            refine ⟨_, isName, ?_⟩
            simp only [colon]
            apply Option.bind_eq_some_iff.mpr
            refine ⟨_, isValue, ?_⟩
            simp only [closed]
    | more names isValue goesOn areOthers =>
        cases names with
        | intro quoted isName colon =>
            simp only [quoted]
            apply Option.bind_eq_some_iff.mpr
            refine ⟨_, isName, ?_⟩
            simp only [colon]
            apply Option.bind_eq_some_iff.mpr
            refine ⟨_, isValue, ?_⟩
            simp only [goesOn]
            exact Option.bind_eq_some_iff.mpr ⟨_, areOthers, rfl⟩

end Steps

end RdfPipeline.Json
