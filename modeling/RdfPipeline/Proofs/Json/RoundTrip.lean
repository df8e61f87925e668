import RdfPipeline.Json.Layout
import RdfPipeline.Proofs.Json.Structure
import RdfPipeline.Proofs.Json.Tokens

/-!
# Documents read back from their texts

The text of a document is read as that document, if the texts of its floats are read as those floats
and it is not nested too deeply. Under a layout the same holds for documents that have its structures
with known fields only.
-/

set_option autoImplicit false

namespace RdfPipeline.Json

/-- A reader of values, by the calls that it may make. -/
abbrev Reader (α : Type) : Type :=
  Nat → List Char → Option (α × List Char)

/-- With enough calls, the reader takes `chars` for `value` in front of any end of a value. -/
def Takes {α : Type} (read : Reader α) (chars : List Char) (value : α) : Prop :=
  ∀ fuel rest, 2 * chars.length < fuel → EndsValue rest →
    read fuel (chars ++ rest) = some (value, rest)

/-- The text starts where a reader of items looks for one. -/
def Starts (chars : List Char) : Prop :=
  ∃ c more, chars = c :: more ∧ isSpace c = false ∧ c ≠ ']'

/-- The text of a document is read as the document wherever the levels suffice. -/
structure ReadsBack (document : Json) : Prop where
  starts : Starts document.chars
  taken : ∀ levels, document.depth ≤ levels →
    Takes (readValue? · levels) document.chars document

/-! ## Numbers -/

theorem starts_of_readValue? {chars left : List Char} {number : Number} {fuel levels : Nat}
    (none : NoSpaces chars) (read : readValue? fuel levels chars = some (.number number, left)) :
    Starts chars := by
  cases readNumber?_of_readValue? read with
  | inl negated =>
      obtain ⟨more, minus, -⟩ := negated
      rw [none.skipSpaces_eq] at minus
      exact ⟨'-', more, minus, rfl, by decide⟩
  | inr magnitude =>
      rw [none.skipSpaces_eq] at magnitude
      obtain ⟨c, more, same, digit⟩ := exists_digit_of_readNumber? magnitude
      refine ⟨c, more, same, isSpace_of_digit digit, ?_⟩
      intro bracket
      rw [bracket] at digit
      exact absurd digit (by decide)

theorem ReadsBack.of_number {number : Number} (none : NoSpaces number.chars)
    (reads : ∀ {rest}, EndsValue rest → ∀ fuel levels,
      readValue? (fuel + 1) levels (number.chars ++ rest) = some (.number number, rest)) :
    ReadsBack (.number number) where
  starts := by
    have alone := reads .nil 0 0
    rw [List.append_nil] at alone
    exact starts_of_readValue? none alone
  taken := by
    intro levels _ fuel rest enough ends
    cases fuel with
    | zero => cases enough
    | succ fuel => exact reads ends fuel levels

theorem noSpaces_integer (value : Int) : NoSpaces (toString value).toList := by
  rw [Text.toList_toString]
  split
  · exact .cons rfl (noSpaces_toDigits _)
  · exact noSpaces_toDigits _

theorem ReadsBack.integer (value : Int) (lower : -0x8000000000000000 ≤ value)
    (upper : value < 0x10000000000000000) :
    ReadsBack (.number (.integer value lower upper)) :=
  .of_number (noSpaces_integer value) (readValue?_integer lower upper)

theorem ReadsBack.float {x : Binary64}
    (faithful : parse? (Json.number (.float x)).print = some (.number (.float x))) :
    ReadsBack (.number (.float x)) :=
  .of_number (noSpaces_floatChars x) (readValue?_of_parse? faithful (noSpaces_floatChars x))

/-! ## Arrays -/

/-- How a reader of arrays goes on after its opening bracket, item by item. -/
structure ArrayReader (readItem : Reader Json) (readItems : Reader (List Json))
    (read : Reader Json) : Prop where
  empty : ∀ fuel rest, read (fuel + 1) ('[' :: ']' :: rest) = some (.array [], rest)
  opened : ∀ {fuel c chars items rest}, isSpace c = false → c ≠ ']' →
    readItems fuel (c :: chars) = some (items, rest) →
    read (fuel + 1) ('[' :: c :: chars) = some (.array items, rest)
  last : ∀ {fuel chars item rest}, readItem fuel chars = some (item, ']' :: rest) →
    readItems (fuel + 1) chars = some ([item], rest)
  more : ∀ {fuel chars item others between rest},
    readItem fuel chars = some (item, ',' :: between) →
    readItems fuel between = some (others, rest) →
    readItems (fuel + 1) chars = some (item :: others, rest)

theorem itemsChars_cons (item second : Json) (items : List Json) :
    itemsChars (item :: second :: items) = item.chars ++ ',' :: itemsChars (second :: items) :=
  rfl

namespace ArrayReader

variable {readItem read : Reader Json} {readItems : Reader (List Json)} {items : List Json}

theorem items_written (reader : ArrayReader readItem readItems read) (filled : items ≠ [])
    (each : ∀ item ∈ items, Takes readItem item.chars item) {fuel : Nat}
    (enough : 2 * (itemsChars items).length + 1 < fuel) (rest : List Char) :
    readItems fuel (itemsChars items ++ ']' :: rest) = some (items, rest) := by
  induction items generalizing fuel with
  | nil => exact absurd rfl filled
  | cons item items ih =>
      obtain ⟨first, others⟩ := List.forall_mem_cons.mp each
      cases fuel with
      | zero => cases enough
      | succ fuel =>
          cases items with
          | nil =>
              rw [itemsChars] at enough ⊢
              exact reader.last (first _ _ (by omega) .bracket)
          | cons second items =>
              rw [itemsChars_cons, List.length_append, List.length_cons] at enough
              rw [itemsChars_cons, List.append_assoc, List.cons_append]
              apply reader.more (first _ _ (by omega) .comma)
              exact ih (List.cons_ne_nil _ _) others (by omega)

theorem starts_itemsChars (filled : items ≠ []) (each : ∀ item ∈ items, Starts item.chars) :
    Starts (itemsChars items) := by
  cases items with
  | nil => exact absurd rfl filled
  | cons item items =>
      obtain ⟨c, more, same, start⟩ := each item List.mem_cons_self
      cases items with
      | nil => exact ⟨c, more, same, start⟩
      | cons second items =>
          rw [itemsChars_cons, same]
          exact ⟨c, _, rfl, start⟩

theorem takes (reader : ArrayReader readItem readItems read)
    (starts : ∀ item ∈ items, Starts item.chars)
    (each : ∀ item ∈ items, Takes readItem item.chars item) :
    Takes read (Json.array items).chars (.array items) := by
  intro fuel rest enough ends
  have written : (Json.array items).chars ++ rest = '[' :: (itemsChars items ++ ']' :: rest) := by
    simp [chars]
  have longer : (Json.array items).chars.length = (itemsChars items).length + 2 := by
    simp [chars]
  rw [written]
  cases fuel with
  | zero => cases enough
  | succ fuel =>
      cases items with
      | nil => exact reader.empty fuel rest
      | cons item items =>
          have filled := List.cons_ne_nil item items
          have all : readItems fuel (itemsChars (item :: items) ++ ']' :: rest) =
              some (item :: items, rest) := reader.items_written filled each (by omega) rest
          obtain ⟨c, more, same, noSpace, noEnd⟩ := starts_itemsChars filled starts
          rw [same] at all ⊢
          exact reader.opened noSpace noEnd all

end ArrayReader

theorem skipSpaces_cons {c : Char} (noSpace : isSpace c = false) (chars : List Char) :
    skipSpaces (c :: chars) = c :: chars := by
  rw [skipSpaces, List.dropWhile_cons, noSpace]
  rfl

theorem arrayReader_readValue? (levels : Nat) :
    ArrayReader (readValue? · levels) (readItems? · levels) (readValue? · (levels + 1)) where
  empty _ _ := rfl
  opened := by
    intro fuel c chars items rest noSpace noEnd all
    have opening : skipSpaces ('[' :: c :: chars) = '[' :: c :: chars := rfl
    rw [readValue?, opening]
    simp only [skipSpaces_cons noSpace]
    split
    next same => exact absurd (List.cons.inj same).1 noEnd
    next => simp [all]
  last := by
    intro fuel chars item rest taken
    rw [readItems?, taken]
    rfl
  more := by
    intro fuel chars item others between rest taken later
    rw [readItems?, taken]
    change (readItems? fuel levels between).bind _ = _
    rw [later]
    rfl

theorem ReadsBack.array {items : List Json} (each : ∀ item ∈ items, ReadsBack item) :
    ReadsBack (.array items) where
  starts := ⟨'[', _, rfl, rfl, by decide⟩
  taken := by
    intro levels shallow
    cases levels with
    | zero => cases shallow
    | succ levels =>
        apply (arrayReader_readValue? levels).takes fun item member => (each item member).starts
        intro item member
        have deeper := depth_lt_of_mem_items member
        exact (each item member).taken levels (by omega)

/-! ## Objects -/

/-- How a reader of objects goes on after its opening brace, member by member. Which reader a value
is left to may depend on its name. -/
structure ObjectReader (readValueOf : String → Reader Json)
    (readMembers : Reader (List (String × Json))) (read : Reader Json) : Prop where
  empty : ∀ fuel rest, read (fuel + 1) ('\x7b' :: '\x7d' :: rest) = some (.object [], rest)
  opened : ∀ {fuel chars members rest},
    readMembers fuel ('"' :: chars) = some (members, rest) →
    read (fuel + 1) ('\x7b' :: '"' :: chars) = some (.object members, rest)
  last : ∀ {fuel name chars value rest},
    readValueOf name fuel chars = some (value, '\x7d' :: rest) →
    readMembers (fuel + 1) (stringChars name ++ ':' :: chars) = some ([(name, value)], rest)
  more : ∀ {fuel name chars value others between rest},
    readValueOf name fuel chars = some (value, ',' :: between) →
    readMembers fuel between = some (others, rest) →
    readMembers (fuel + 1) (stringChars name ++ ':' :: chars) =
      some ((name, value) :: others, rest)

theorem membersChars_cons (name : String) (value : Json) (second : String × Json)
    (members : List (String × Json)) :
    membersChars ((name, value) :: second :: members) =
      stringChars name ++ ':' :: value.chars ++ ',' :: membersChars (second :: members) :=
  rfl

namespace ObjectReader

variable {readValueOf : String → Reader Json} {readMembers : Reader (List (String × Json))}
  {read : Reader Json} {members : List (String × Json)}

theorem members_written (reader : ObjectReader readValueOf readMembers read)
    (filled : members ≠ [])
    (each : ∀ member ∈ members, Takes (readValueOf member.1) member.2.chars member.2) {fuel : Nat}
    (enough : 2 * (membersChars members).length + 1 < fuel) (rest : List Char) :
    readMembers fuel (membersChars members ++ '\x7d' :: rest) = some (members, rest) := by
  induction members generalizing fuel with
  | nil => exact absurd rfl filled
  | cons member members ih =>
      obtain ⟨name, value⟩ := member
      obtain ⟨first, others⟩ := List.forall_mem_cons.mp each
      cases fuel with
      | zero => cases enough
      | succ fuel =>
          cases members with
          | nil =>
              rw [membersChars, List.length_append, List.length_cons] at enough
              have room : 2 * value.chars.length < fuel := by omega
              rw [membersChars, List.append_assoc, List.cons_append]
              exact reader.last (first _ _ room .brace)
          | cons second members =>
              rw [membersChars_cons, List.length_append, List.length_append, List.length_cons,
                List.length_cons] at enough
              have room : 2 * value.chars.length < fuel := by omega
              rw [membersChars_cons, List.append_assoc, List.append_assoc, List.cons_append,
                List.cons_append]
              apply reader.more (first _ _ room .comma)
              exact ih (List.cons_ne_nil _ _) others (by omega)

theorem exists_quote_membersChars (filled : members ≠ []) :
    ∃ more, membersChars members = '"' :: more := by
  cases members with
  | nil => exact absurd rfl filled
  | cons member members =>
      cases members with
      | nil => exact ⟨_, rfl⟩
      | cons second members => exact ⟨_, rfl⟩

theorem takes (reader : ObjectReader readValueOf readMembers read)
    (each : ∀ member ∈ members, Takes (readValueOf member.1) member.2.chars member.2) :
    Takes read (Json.object members).chars (.object members) := by
  intro fuel rest enough ends
  have written : (Json.object members).chars ++ rest =
      '\x7b' :: (membersChars members ++ '\x7d' :: rest) := by
    simp [chars]
  have longer : (Json.object members).chars.length = (membersChars members).length + 2 := by
    simp [chars]
  rw [written]
  cases fuel with
  | zero => cases enough
  | succ fuel =>
      cases members with
      | nil => exact reader.empty fuel rest
      | cons member members =>
          have filled := List.cons_ne_nil member members
          have all : readMembers fuel (membersChars (member :: members) ++ '\x7d' :: rest) =
              some (member :: members, rest) := reader.members_written filled each (by omega) rest
          obtain ⟨more, same⟩ := exists_quote_membersChars filled
          rw [same] at all ⊢
          exact reader.opened all

end ObjectReader

theorem readString?_stringChars (name : String) (rest : List Char) :
    ∃ more, stringChars name ++ rest = '"' :: more ∧
      readString? more = some (name.toList, rest) := by
  refine ⟨name.toList.flatMap escapeChar ++ '"' :: rest, ?_, readString?_written _ _⟩
  simp [stringChars]

theorem objectReader_readValue? (levels : Nat) :
    ObjectReader (fun _ => (readValue? · levels)) (readMembers? · levels)
      (readValue? · (levels + 1)) where
  empty _ _ := rfl
  opened := by
    intro fuel chars members rest all
    change (readMembers? fuel levels ('"' :: chars)).bind _ = _
    rw [all]
    rfl
  last := by
    intro fuel name chars value rest taken
    obtain ⟨text, same, named⟩ := readString?_stringChars name (':' :: chars)
    rw [same]
    change (readString? text).bind _ = _
    rw [named]
    change (readValue? fuel levels chars).bind _ = _
    rw [taken]
    change some ([(String.ofList name.toList, value)], rest) = _
    rw [String.ofList_toList]
  more := by
    intro fuel name chars value others between rest taken later
    obtain ⟨text, same, named⟩ := readString?_stringChars name (':' :: chars)
    rw [same]
    change (readString? text).bind _ = _
    rw [named]
    change (readValue? fuel levels chars).bind _ = _
    rw [taken]
    change (readMembers? fuel levels between).bind _ = _
    rw [later]
    change some ((String.ofList name.toList, value) :: others, rest) = _
    rw [String.ofList_toList]

theorem ReadsBack.object {members : List (String × Json)}
    (each : ∀ member ∈ members, ReadsBack member.2) : ReadsBack (.object members) where
  starts := ⟨'\x7b', _, rfl, rfl, by decide⟩
  taken := by
    intro levels shallow
    cases levels with
    | zero => cases shallow
    | succ levels =>
        apply (objectReader_readValue? levels).takes
        intro member inObject
        have deeper := depth_lt_of_mem_members inObject
        exact (each member inObject).taken levels (by omega)

/-! ## Whole documents -/

theorem Takes.of_scalar {read : Reader Json} {chars : List Char} {document : Json}
    (reads : ∀ fuel {rest}, EndsValue rest → read (fuel + 1) (chars ++ rest) = some (document, rest)) :
    Takes read chars document := by
  intro fuel rest enough ends
  cases fuel with
  | zero => cases enough
  | succ fuel => exact reads fuel ends

theorem ReadsBack.string (text : String) : ReadsBack (.string text) where
  starts := ⟨'"', _, rfl, rfl, by decide⟩
  taken := by
    intro levels _
    apply Takes.of_scalar
    intro fuel rest _
    obtain ⟨more, same, named⟩ := readString?_stringChars text rest
    rw [chars, same]
    change (readString? more).bind _ = _
    rw [named]
    change some (Json.string (String.ofList text.toList), rest) = _
    rw [String.ofList_toList]

theorem ReadsBack.null : ReadsBack .null where
  starts := ⟨'n', _, rfl, rfl, by decide⟩
  taken _ _ := .of_scalar fun _ _ _ => rfl

theorem ReadsBack.bool (value : Bool) : ReadsBack (.bool value) := by
  cases value with
  | true => exact ⟨⟨'t', _, rfl, rfl, by decide⟩, fun _ _ => .of_scalar fun _ _ _ => rfl⟩
  | false => exact ⟨⟨'f', _, rfl, rfl, by decide⟩, fun _ _ => .of_scalar fun _ _ _ => rfl⟩

def number? : Json → Option Number
  | .number value => some value
  | _ => none

theorem number?_eq_some_iff {document : Json} {number : Number} :
    document.number? = some number ↔ document = .number number := by
  cases document <;> simp [number?]

/-- The text of the number is read as the number. -/
def Number.IsFaithful (number : Number) : Prop :=
  parse? (Json.number number).print = some (.number number)

theorem Number.isFaithful_iff {number : Number} :
    number.IsFaithful ↔ (parse? (Json.number number).print).bind number? = some number := by
  simp only [IsFaithful, Option.bind_eq_some_iff, number?_eq_some_iff, exists_eq_right]

instance (number : Number) : Decidable number.IsFaithful :=
  decidable_of_iff' _ Number.isFaithful_iff

theorem readsBack {document : Json}
    (faithful : ∀ x, Number.float x ∈ document.numbers → (Number.float x).IsFaithful) :
    ReadsBack document := by
  induction document using induction with
  | null => exact .null
  | bool value => exact .bool value
  | number value =>
      cases value with
      | integer value lower upper => exact .integer value lower upper
      | float x => exact .float (faithful x (List.mem_singleton_self _))
  | string text => exact .string text
  | array items each =>
      rw [numbers_array] at faithful
      apply ReadsBack.array
      intro item member
      exact each item member fun x inside =>
        faithful x (List.mem_flatMap.mpr ⟨item, member, inside⟩)
  | object members each =>
      rw [numbers_object] at faithful
      apply ReadsBack.object
      intro member inObject
      exact each member inObject fun x inside =>
        faithful x (List.mem_flatMap.mpr ⟨member, inObject, inside⟩)

/-- Writing and reading a document gives the document, repeated names included. -/
theorem parse?_print {document : Json}
    (faithful : ∀ x, Number.float x ∈ document.numbers → (Number.float x).IsFaithful)
    (shallow : document.depth ≤ depthLimit) : parse? document.print = some document := by
  have read := (readsBack faithful).taken depthLimit shallow (2 * document.chars.length + 1) []
    (Nat.lt_succ_self _) .nil
  dsimp only at read
  rw [List.append_nil] at read
  rw [parse?, print, String.toList_ofList, readDocument?, read]
  rfl

/-! ## Documents under a layout -/

/-- Under the layout, the text of a document is read as the document wherever the levels suffice. -/
structure ReadsUnder (layout : Layout) (document : Json) : Prop where
  starts : Starts document.chars
  taken : ∀ levels, document.depth ≤ levels →
    Takes (readUnder? · levels layout) document.chars document

theorem ReadsBack.underWhole {document : Json} (back : ReadsBack document) :
    ReadsUnder .whole document where
  starts := back.starts
  taken := by
    intro levels shallow
    apply Takes.of_scalar
    intro fuel rest ends
    have enough : 2 * document.chars.length < callsFor (document.chars ++ rest) := by
      rw [callsFor, List.length_append]
      omega
    rw [readUnder?]
    exact back.taken levels shallow _ rest enough ends

theorem arrayReader_readUnder? (layout : Layout) (levels : Nat) :
    ArrayReader (readUnder? · levels layout) (readAlike? · levels layout)
      (readUnder? · (levels + 1) (.items layout)) where
  empty := by
    intro fuel rest
    have opening : skipSpaces ('[' :: ']' :: rest) = '[' :: ']' :: rest := rfl
    rw [readUnder?.eq_3 _ _ _ _ _ opening]
    rfl
  opened := by
    intro fuel c chars items rest noSpace noEnd all
    have opening : skipSpaces ('[' :: c :: chars) = '[' :: c :: chars := rfl
    rw [readUnder?.eq_3 _ _ _ _ _ opening]
    simp only [skipSpaces_cons noSpace]
    split
    next same => exact absurd (List.cons.inj same).1 noEnd
    next => simp [all]
  last := by
    intro fuel chars item rest taken
    rw [readAlike?, taken]
    rfl
  more := by
    intro fuel chars item others between rest taken later
    rw [readAlike?, taken]
    change (readAlike? fuel levels layout between).bind _ = _
    rw [later]
    rfl

theorem ReadsUnder.items {layout : Layout} {items : List Json}
    (each : ∀ item ∈ items, ReadsUnder layout item) :
    ReadsUnder (.items layout) (.array items) where
  starts := ⟨'[', _, rfl, rfl, by decide⟩
  taken := by
    intro levels shallow
    cases levels with
    | zero => cases shallow
    | succ levels =>
        apply (arrayReader_readUnder? layout levels).takes fun item member =>
          (each item member).starts
        intro item member
        have deeper := depth_lt_of_mem_items member
        exact (each item member).taken levels (by omega)

/-- A value of a known name is read under the layout of the name. -/
def readField? (known : List (String × Layout)) (levels : Nat) (name : String) : Reader Json :=
  fun fuel chars => (known.lookup name).bind fun layout => readUnder? fuel levels layout chars

theorem objectReader_readUnder? (known : List (String × Layout)) (levels : Nat) :
    ObjectReader (readField? known levels) (readKnown? · levels known)
      (readUnder? · (levels + 1) (.fields known)) where
  empty := by
    intro fuel rest
    have opening : skipSpaces ('\x7b' :: '\x7d' :: rest) = '\x7b' :: '\x7d' :: rest := rfl
    rw [readUnder?.eq_6 _ _ _ _ _ opening]
    rfl
  opened := by
    intro fuel chars members rest all
    have opening : skipSpaces ('\x7b' :: '"' :: chars) = '\x7b' :: '"' :: chars := rfl
    rw [readUnder?.eq_6 _ _ _ _ _ opening]
    change (readKnown? fuel levels known ('"' :: chars)).bind _ = _
    rw [all]
    rfl
  last := by
    intro fuel name chars value rest taken
    obtain ⟨layout, found, taken⟩ := Option.bind_eq_some_iff.mp taken
    obtain ⟨text, same, named⟩ := readString?_stringChars name (':' :: chars)
    rw [same, readKnown?]
    change (readString? text).bind _ = _
    rw [named]
    simp only [Option.bind_some, String.ofList_toList, found]
    change ((readUnder? fuel levels layout chars).map _).bind _ = _
    rw [taken]
    rfl
  more := by
    intro fuel name chars value others between rest taken later
    obtain ⟨layout, found, taken⟩ := Option.bind_eq_some_iff.mp taken
    obtain ⟨text, same, named⟩ := readString?_stringChars name (':' :: chars)
    rw [same, readKnown?]
    change (readString? text).bind _ = _
    rw [named]
    simp only [Option.bind_some, String.ofList_toList, found]
    change ((readUnder? fuel levels layout chars).map _).bind _ = _
    rw [taken]
    change (readKnown? fuel levels known between).bind _ = _
    rw [later]
    rfl

theorem ReadsUnder.fields {known : List (String × Layout)} {members : List (String × Json)}
    (each : ∀ member ∈ members, ∃ layout,
      known.lookup member.1 = some layout ∧ ReadsUnder layout member.2) :
    ReadsUnder (.fields known) (.object members) where
  starts := ⟨'\x7b', _, rfl, rfl, by decide⟩
  taken := by
    intro levels shallow
    cases levels with
    | zero => cases shallow
    | succ levels =>
        apply (objectReader_readUnder? known levels).takes
        intro member inObject fuel rest enough ends
        obtain ⟨layout, found, under⟩ := each member inObject
        have deeper := depth_lt_of_mem_members inObject
        rw [readField?, found]
        exact under.taken levels (by omega) fuel rest enough ends

/-- A document that has the structures of a layout is what its text is read as under the layout. -/
theorem parseUnder?_print {layout : Layout} {document : Json} (under : ReadsUnder layout document)
    (shallow : document.depth ≤ depthLimit) :
    parseUnder? layout document.print = some document := by
  have read := under.taken depthLimit shallow (callsFor document.chars) []
    (Nat.lt_succ_self _) .nil
  dsimp only at read
  rw [List.append_nil] at read
  rw [parseUnder?, print, String.toList_ofList, read]
  rfl

end RdfPipeline.Json
