import Mathlib.Data.List.Forall2
import RdfPipeline.Proofs.Json.Steps

/-!
# Texts inside texts

A document that is read from a text is read again where the text stands in another one, as long as
the levels are enough for its nesting.
-/

set_option autoImplicit false

namespace RdfPipeline.Json

/-! ## Reading again -/

/-- A reader by its calls and levels. -/
abbrev LevelReader (α : Type) : Type :=
  Nat → Nat → List Char → Option (α × List Char)

/-- What was read within so many calls has no more levels than there were, and is read again with
more calls, enough levels and other texts behind. -/
structure Persists {α : Type} (depthOf : α → Nat) (follows : List Char → List Char → Prop)
    (read : LevelReader α) (fuel : Nat) : Prop where
  depth_le : ∀ {levels : Nat} {chars left : List Char} {result : α},
    read fuel levels chars = some (result, left) → depthOf result ≤ levels
  again : ∀ {levels more enough : Nat} {chars left rest : List Char} {result : α},
    read fuel levels chars = some (result, left) → fuel ≤ more → depthOf result ≤ enough →
      follows left rest → read more enough (chars ++ rest) = some (result, left ++ rest)

/-- Behind a closing bracket anything may follow. -/
def Anything (_ _ : List Char) : Prop :=
  True

def PersistsValue : Nat → Prop :=
  Persists depth Stops readValue?

def PersistsItems : Nat → Prop :=
  Persists itemsDepth Anything readItems?

def PersistsMembers : Nat → Prop :=
  Persists membersDepth Anything readMembers?

section Steps

variable {fuel levels more enough : Nat} {chars left rest : List Char}

theorem stops_of_skipSpaces {between next : List Char} {c : Char}
    (found : skipSpaces between = c :: next) (rest : List Char) : Stops between rest := by
  refine .inl ?_
  rintro rfl
  cases found

theorem ValueStep.depth_le (items : PersistsItems fuel) (members : PersistsMembers fuel)
    {document : Json} (step : ValueStep fuel levels chars document left) :
    document.depth ≤ levels := by
  cases step with
  | string => exact Nat.zero_le _
  | emptyArray => exact Nat.succ_le_succ (Nat.zero_le _)
  | array areItems => exact Nat.succ_le_succ (items.depth_le areItems)
  | emptyObject => exact Nat.succ_le_succ (Nat.zero_le _)
  | object areMembers => exact Nat.succ_le_succ (members.depth_le areMembers)
  | number => exact Nat.zero_le _
  | word isWord => cases isWord <;> exact Nat.zero_le _

theorem ValueStep.again (items : PersistsItems fuel) (members : PersistsMembers fuel)
    {document : Json} (step : ValueStep fuel levels chars document left) (longer : fuel ≤ more)
    (deep : document.depth ≤ enough) (stops : Stops left rest) :
    ValueStep more enough (chars ++ rest) document (left ++ rest) := by
  cases step with
  | string isString => exact .string (readString?_append isString rest)
  | emptyArray closed =>
      obtain ⟨enough, rfl⟩ := Nat.exists_eq_succ_of_ne_zero (Nat.ne_zero_of_lt deep)
      exact .emptyArray (skipSpaces_append_of_cons closed rest)
  | array areItems =>
      obtain ⟨enough, rfl⟩ := Nat.exists_eq_succ_of_ne_zero (Nat.ne_zero_of_lt deep)
      exact .array (items.again areItems longer (Nat.le_of_succ_le_succ deep) trivial)
  | emptyObject closed =>
      obtain ⟨enough, rfl⟩ := Nat.exists_eq_succ_of_ne_zero (Nat.ne_zero_of_lt deep)
      exact .emptyObject (skipSpaces_append_of_cons closed rest)
  | object areMembers =>
      obtain ⟨enough, rfl⟩ := Nat.exists_eq_succ_of_ne_zero (Nat.ne_zero_of_lt deep)
      exact .object (members.again areMembers longer (Nat.le_of_succ_le_succ deep) trivial)
  | @number _ text _ negative _ isNumber =>
      have further := @ValueStep.number more enough (text ++ rest) (left ++ rest) negative _
        (readNumber?_append isNumber stops)
      cases negative <;> exact further
  | word isWord stripped => exact .word isWord (stripWord?_append stripped rest)

theorem ValueStep.ne_nil {document : Json} (step : ValueStep fuel levels chars document left) :
    chars ≠ [] := by
  rintro rfl
  generalize isNil : ([] : List Char) = chars at step
  cases step with
  | string => cases isNil
  | emptyArray => cases isNil
  | array => cases isNil
  | emptyObject => cases isNil
  | object => cases isNil
  | @number _ _ _ negative _ isNumber =>
      cases negative with
      | true => cases isNil
      | false =>
          obtain ⟨c, others, same, -⟩ := exists_digit_of_readNumber? isNumber
          cases isNil.trans same
  | word isWord stripped =>
      subst isNil
      cases isWord <;> cases stripped

theorem persistsValue_succ (items : PersistsItems fuel) (members : PersistsMembers fuel) :
    PersistsValue (fuel + 1) where
  depth_le read := (ValueStep.of_readValue? read).depth_le items members
  again := by
    intro levels more enough chars left rest document read longer deep stops
    obtain ⟨more, rfl⟩ := Nat.exists_eq_succ_of_ne_zero (Nat.ne_zero_of_lt longer)
    have step := ValueStep.of_readValue? read
    apply ValueStep.readValue?
    cases starts : skipSpaces chars with
    | nil => exact absurd starts step.ne_nil
    | cons c others =>
        rw [skipSpaces_append_of_cons starts, ← List.cons_append, ← starts]
        exact step.again items members (Nat.le_of_succ_le_succ longer) deep stops

theorem persistsItems_succ (value : PersistsValue fuel) (items : PersistsItems fuel) :
    PersistsItems (fuel + 1) where
  depth_le := by
    intro levels chars left result read
    cases readItems?_eq_some_iff.mp read with
    | last isItem => exact Nat.max_le.mpr ⟨value.depth_le isItem, Nat.zero_le _⟩
    | more isItem _ areOthers =>
        exact Nat.max_le.mpr ⟨value.depth_le isItem, items.depth_le areOthers⟩
  again := by
    intro levels more enough chars left rest result read longer deep _
    obtain ⟨more, rfl⟩ := Nat.exists_eq_succ_of_ne_zero (Nat.ne_zero_of_lt longer)
    have longer := Nat.le_of_succ_le_succ longer
    apply readItems?_eq_some_iff.mpr
    cases readItems?_eq_some_iff.mp read with
    | last isItem closed =>
        obtain ⟨shallow, -⟩ := Nat.max_le.mp deep
        exact .last (value.again isItem longer shallow (stops_of_skipSpaces closed rest))
          (skipSpaces_append_of_cons closed rest)
    | more isItem goesOn areOthers =>
        obtain ⟨shallow, others⟩ := Nat.max_le.mp deep
        exact .more (value.again isItem longer shallow (stops_of_skipSpaces goesOn rest))
          (skipSpaces_append_of_cons goesOn rest) (items.again areOthers longer others trivial)

theorem Names.append {name : String} {text : List Char} (names : Names chars name text)
    (rest : List Char) : Names (chars ++ rest) name (text ++ rest) := by
  cases names with
  | intro quoted isName colon =>
      exact .intro (skipSpaces_append_of_cons quoted rest) (readString?_append isName rest)
        (skipSpaces_append_of_cons colon rest)

theorem persistsMembers_succ (value : PersistsValue fuel) (members : PersistsMembers fuel) :
    PersistsMembers (fuel + 1) where
  depth_le := by
    intro levels chars left result read
    cases readMembers?_eq_some_iff.mp read with
    | last _ isValue => exact Nat.max_le.mpr ⟨value.depth_le isValue, Nat.zero_le _⟩
    | more _ isValue _ areOthers =>
        exact Nat.max_le.mpr ⟨value.depth_le isValue, members.depth_le areOthers⟩
  again := by
    intro levels more enough chars left rest result read longer deep _
    obtain ⟨more, rfl⟩ := Nat.exists_eq_succ_of_ne_zero (Nat.ne_zero_of_lt longer)
    have longer := Nat.le_of_succ_le_succ longer
    apply readMembers?_eq_some_iff.mpr
    cases readMembers?_eq_some_iff.mp read with
    | last names isValue closed =>
        obtain ⟨shallow, -⟩ := Nat.max_le.mp deep
        exact .last (names.append rest)
          (value.again isValue longer shallow (stops_of_skipSpaces closed rest))
          (skipSpaces_append_of_cons closed rest)
    | more names isValue goesOn areOthers =>
        obtain ⟨shallow, others⟩ := Nat.max_le.mp deep
        exact .more (names.append rest)
          (value.again isValue longer shallow (stops_of_skipSpaces goesOn rest))
          (skipSpaces_append_of_cons goesOn rest) (members.again areOthers longer others trivial)

end Steps

theorem persists (fuel : Nat) :
    PersistsValue fuel ∧ PersistsItems fuel ∧ PersistsMembers fuel := by
  induction fuel with
  | zero => exact ⟨⟨nofun, nofun⟩, ⟨nofun, nofun⟩, ⟨nofun, nofun⟩⟩
  | succ fuel ih =>
      obtain ⟨value, items, members⟩ := ih
      exact ⟨persistsValue_succ items members, persistsItems_succ value items,
        persistsMembers_succ value members⟩

/-! ## Texts of documents -/

/-- The text holds this document and around it nothing but spaces, with as many levels as it takes. -/
def IsText (chars : List Char) (document : Json) : Prop :=
  ∃ levels left, readValue? (2 * chars.length + 1) levels chars = some (document, left) ∧
    skipSpaces left = []

namespace IsText

variable {chars : List Char} {document : Json}

theorem readValue?_deeper (isText : IsText chars document) {levels : Nat}
    (enough : document.depth ≤ levels) :
    ∃ left, readValue? (2 * chars.length + 1) levels chars = some (document, left) ∧
      skipSpaces left = [] := by
  obtain ⟨_, left, read, blank⟩ := isText
  have again := (persists _).1.again read (Nat.le_refl _) enough (.inr .nil)
  rw [List.append_nil, List.append_nil] at again
  exact ⟨left, again, blank⟩

theorem unique {other : Json} (isText : IsText chars document) (isText' : IsText chars other) :
    document = other := by
  -- Both are read again with as many levels as either of them takes.
  obtain ⟨left, read, -⟩ := isText.readValue?_deeper (Nat.le_max_left _ other.depth)
  obtain ⟨left', read', -⟩ := isText'.readValue?_deeper (Nat.le_max_right document.depth _)
  cases read.symm.trans read'
  rfl

theorem brace_mem {members : List (String × Json)} (isText : IsText chars (.object members)) :
    '\x7b' ∈ chars := by
  obtain ⟨_, _, read, _⟩ := isText
  have step := ValueStep.of_readValue? read
  have within : skipSpaces chars ⊆ chars := List.dropWhile_subset _
  generalize skipSpaces chars = others at step within
  cases step with
  | emptyObject => exact within List.mem_cons_self
  | object => exact within List.mem_cons_self
  | word isWord => cases isWord

/-- Where the text stands in another one it is read up to the end of the value. -/
theorem inside (isText : IsText chars document) {fuel levels : Nat} {rest : List Char}
    (enough : 2 * chars.length < fuel) (shallow : document.depth ≤ levels)
    (ends : EndsValue rest) :
    ∃ between, readValue? fuel levels (chars ++ rest) = some (document, between) ∧
      skipSpaces between = rest := by
  obtain ⟨_, left, read, blank⟩ := isText
  have again := (persists _).1.again read enough shallow (.inr ends)
  exact ⟨left ++ rest, again, (skipSpaces_append_of_nil blank rest).trans ends.skipSpaces_eq⟩

end IsText

/-- A text is accepted if it holds a document that is not nested too deeply. -/
theorem parse?_eq_some_iff {text : String} {document : Json} :
    parse? text = some document ↔ IsText text.toList document ∧ document.depth ≤ depthLimit := by
  constructor
  · intro parsed
    obtain ⟨⟨other, left⟩, read, finished⟩ := Option.bind_eq_some_iff.mp parsed
    simp only [Option.ite_none_right_eq_some, Option.some.injEq] at finished
    obtain ⟨blank, rfl⟩ := finished
    exact ⟨⟨depthLimit, left, read, blank⟩, (persists _).1.depth_le read⟩
  · intro accepted
    obtain ⟨isText, shallow⟩ := accepted
    obtain ⟨left, read, blank⟩ := isText.readValue?_deeper shallow
    apply Option.bind_eq_some_iff.mpr
    exact ⟨_, read, if_pos blank⟩

theorem parse?_ofList_eq_some_iff {chars : List Char} {document : Json} :
    parse? (String.ofList chars) = some document ↔
      IsText chars document ∧ document.depth ≤ depthLimit := by
  rw [parse?_eq_some_iff, String.toList_ofList]

/-! ## Arrays of texts -/

/-- The text of an array with these texts as its items. -/
def arrayText (texts : List (List Char)) : List Char :=
  '[' :: (List.intercalate [','] texts ++ [']'])

section Arrays

variable {texts : List (List Char)} {items : List Json}

theorem readItems?_texts (each : List.Forall₂ IsText texts items) (filled : texts ≠ [])
    {fuel levels : Nat} (enough : 2 * (List.intercalate [','] texts).length + 1 < fuel)
    (shallow : itemsDepth items ≤ levels) (rest : List Char) :
    readItems? fuel levels (List.intercalate [','] texts ++ ']' :: rest) = some (items, rest) := by
  -- An item is read within its share of the calls, and one more call leads on to the next item.
  induction each generalizing fuel with
  | nil => exact absurd rfl filled
  | @cons text item texts items isText others ih =>
      obtain ⟨fuel, rfl⟩ := Nat.exists_eq_succ_of_ne_zero (Nat.ne_zero_of_lt enough)
      obtain ⟨itemShallow, othersShallow⟩ := Nat.max_le.mp shallow
      apply readItems?_eq_some_iff.mpr
      cases others with
      | nil =>
          rw [List.intercalate_singleton] at enough ⊢
          have room : 2 * text.length < fuel := by omega
          obtain ⟨between, read, closed⟩ := isText.inside room itemShallow .bracket
          exact .last read closed
      | @cons second _ more _ _ _ =>
          rw [List.intercalate_cons_cons, List.length_append, List.length_append,
            List.length_singleton] at enough
          rw [List.intercalate_cons_cons, List.append_assoc, List.append_assoc]
          have room : 2 * text.length < fuel := by omega
          obtain ⟨between, read, goesOn⟩ := isText.inside room itemShallow .comma
          exact .more read goesOn (ih (List.cons_ne_nil _ _) (by omega) othersShallow)

theorem isText_array (each : List.Forall₂ IsText texts items) :
    IsText (arrayText texts) (.array items) := by
  refine ⟨itemsDepth items + 1, [], ?_, rfl⟩
  apply ValueStep.readValue?
  cases each with
  | nil => exact .emptyArray rfl
  | cons isText others =>
      apply ValueStep.array
      apply readItems?_texts (.cons isText others) (List.cons_ne_nil _ _) _ (Nat.le_refl _)
      rw [arrayText, List.length_cons, List.length_append]
      omega

end Arrays

/-! ## Texts inside objects -/

/-- The text wrapped in objects, each of which has this one under its key, outermost first. -/
def wrapText : List String → List Char → List Char
  | [], text => text
  | key :: keys, text =>
      '\x7b' :: (stringChars key ++ ':' :: (wrapText keys text ++ ['\x7d']))

def wrap : List String → Json → Json
  | [], document => document
  | key :: keys, document => .object [(key, wrap keys document)]

theorem names_stringChars (key : String) (next : List Char) :
    Names (stringChars key ++ ':' :: next) key next := by
  obtain ⟨more, quoted, isKey⟩ := readString?_stringChars key (':' :: next)
  have names : Names (stringChars key ++ ':' :: next) (String.ofList key.toList) next := by
    rw [quoted]
    exact .intro rfl isKey rfl
  rw [String.ofList_toList] at names
  exact names

theorem isText_wrap {text : List Char} {document : Json} (isText : IsText text document)
    (keys : List String) : IsText (wrapText keys text) (wrap keys document) := by
  induction keys with
  | nil => exact isText
  | cons key keys ih =>
      have room : 2 * (wrapText keys text).length < 2 * (wrapText (key :: keys) text).length - 1 := by
        rw [wrapText, List.length_cons, List.length_append, List.length_cons, List.length_append]
        omega
      obtain ⟨between, read, closed⟩ := ih.inside room (Nat.le_refl _) (@EndsValue.brace [])
      refine ⟨(wrap keys document).depth + 1, [], ?_, rfl⟩
      apply ValueStep.readValue?
      apply ValueStep.object
      have more : 2 * (wrapText (key :: keys) text).length =
          2 * (wrapText (key :: keys) text).length - 1 + 1 := by omega
      rw [more]
      exact readMembers?_eq_some_iff.mpr (.last (names_stringChars key _) read closed)

end RdfPipeline.Json
