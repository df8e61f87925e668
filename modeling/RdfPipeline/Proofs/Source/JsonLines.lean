import Mathlib.Data.List.Forall2
import RdfPipeline.Proofs.Files
import RdfPipeline.Proofs.Source.Delivery
import RdfPipeline.Source.JsonRecords

/-!
# Documents of lines

A document of lines is read line by line: each line that is not blank yields a record or an error of
its own, under the number that it has among all lines.
-/

set_option autoImplicit false

namespace RdfPipeline

open Files (Bytes)

/-! ## Lines -/

section Lines

variable {α : Type}

/-- Puts something in front of the first line, which is a line of its own if there is none. -/
def extendFirst (front : List α) (lines : List (List α)) : List (List α) :=
  (front ++ lines.headD []) :: lines.tail

theorem extendFirst_append (front middle : List α) (lines : List (List α)) :
    extendFirst (front ++ middle) lines = extendFirst front (extendFirst middle lines) :=
  congrArg (· :: _) (List.append_assoc front middle _)

/-- The lines of a text without their ends, which are line feeds with at most one carriage return in
front of each. What follows the last line feed is a line unless it is empty. -/
def Text.lines : List Char → List (List Char)
  | [] => []
  | '\n' :: rest => [] :: lines rest
  | '\r' :: '\n' :: rest => [] :: lines rest
  | c :: rest => extendFirst [c] (lines rest)

end Lines

namespace Source.JsonRecords

/-! ## Lines of bytes -/

section Bytes

variable {byte : UInt8} {bytes front rest first : Bytes} {others : List Bytes}

theorem splitLines_feed (rest : Bytes) : splitLines (10 :: rest) = [10] :: splitLines rest :=
  rfl

theorem splitLines_cons (noFeed : byte ≠ 10) (rest : Bytes) :
    splitLines (byte :: rest) = extendFirst [byte] (splitLines rest) := by
  rw [splitLines, if_neg noFeed]
  cases splitLines rest <;> rfl

theorem splitLines_append (noFeed : 10 ∉ front) (nonempty : front ≠ []) (rest : Bytes) :
    splitLines (front ++ rest) = extendFirst front (splitLines rest) := by
  induction front with
  | nil => exact absurd rfl nonempty
  | cons byte front ih =>
      obtain ⟨first, none⟩ := List.ne_and_not_mem_of_not_mem_cons noFeed
      rw [List.cons_append, splitLines_cons first.symm]
      cases front with
      | nil => rfl
      | cons next front =>
          rw [ih none (List.cons_ne_nil _ _), ← extendFirst_append]
          rfl

theorem head?_of_splitLines (split : splitLines bytes = first :: others) :
    first.head? = bytes.head? := by
  cases bytes with
  | nil => cases split
  | cons byte rest =>
      by_cases feed : byte = 10
      · subst feed
        rw [splitLines_feed] at split
        cases split
        rfl
      · rw [splitLines_cons feed] at split
        cases split
        rfl

theorem dropLineEnd_of_reverse_return {line reversed : Bytes}
    (ends : line.reverse = 10 :: 13 :: reversed) : dropLineEnd line = reversed.reverse := by
  rw [dropLineEnd, ends]
  rfl

theorem dropLineEnd_of_reverse_feed {line reversed : Bytes} (ends : line.reverse = 10 :: reversed)
    (noReturn : reversed.head? ≠ some 13) : dropLineEnd line = reversed.reverse := by
  rw [dropLineEnd, ends]
  split
  next same =>
    cases same
    exact absurd rfl noReturn
  next same =>
    cases same
    rfl
  next other => exact absurd rfl (other reversed)

theorem dropLineEnd_of_head? {line : Bytes} (noFeed : line.reverse.head? ≠ some 10) :
    dropLineEnd line = line := by
  unfold dropLineEnd
  split
  next ends =>
    rw [ends] at noFeed
    exact absurd rfl noFeed
  next ends =>
    rw [ends] at noFeed
    exact absurd rfl noFeed
  next => rfl

/-- What stands in front of a line stays, unless it is the carriage return of an empty one. -/
theorem dropLineEnd_append {line : Bytes} (nonempty : line ≠ [])
    (noReturn : line = [10] → front.reverse.head? ≠ some 13) :
    dropLineEnd (front ++ line) = front ++ dropLineEnd line := by
  have whole : (front ++ line).reverse = line.reverse ++ front.reverse := List.reverse_append
  cases reversed : line.reverse with
  | nil => exact absurd (List.reverse_eq_nil_iff.mp reversed) nonempty
  | cons last before =>
      rw [reversed] at whole
      by_cases feed : last = 10
      · subst feed
        cases before with
        | nil =>
            have isFeed : line = [10] := List.reverse_eq_iff.mp reversed
            rw [dropLineEnd_of_reverse_feed whole (noReturn isFeed),
              dropLineEnd_of_reverse_feed reversed nofun]
            simp
        | cons next before =>
            by_cases isReturn : next = 13
            · subst isReturn
              rw [dropLineEnd_of_reverse_return whole, dropLineEnd_of_reverse_return reversed]
              simp
            · have other : (next :: before).head? ≠ some 13 := by simpa using isReturn
              rw [dropLineEnd_of_reverse_feed whole other, dropLineEnd_of_reverse_feed reversed other]
              simp
      · rw [dropLineEnd_of_head?, dropLineEnd_of_head?]
        · rw [reversed]
          simpa using feed
        · rw [whole]
          simpa using feed

theorem map_dropLineEnd_extendFirst {lines : List Bytes} (noFeed : 10 ∉ front)
    (ahead : ∀ first others, lines = first :: others →
      first ≠ [] ∧ (first = [10] → front.reverse.head? ≠ some 13)) :
    (extendFirst front lines).map dropLineEnd = extendFirst front (lines.map dropLineEnd) := by
  cases lines with
  | nil =>
      have alone : dropLineEnd (front ++ []) = front ++ [] := by
        rw [List.append_nil]
        apply dropLineEnd_of_head?
        intro last
        exact noFeed (List.mem_reverse.mp (List.mem_of_head? last))
      exact congrArg ([·]) alone
  | cons first others =>
      obtain ⟨nonempty, noReturn⟩ := ahead first others rfl
      exact congrArg (· :: others.map dropLineEnd) (dropLineEnd_append nonempty noReturn)

end Bytes

/-! ## Lines of texts -/

theorem newline_of_mem {c : Char} (member : 10 ∈ String.utf8EncodeChar c) : c = '\n' :=
  Char.toNat_inj.mp (Files.toNat_of_mem_utf8EncodeChar member (by decide))

theorem carriageReturn_of_mem {c : Char} (member : 13 ∈ String.utf8EncodeChar c) : c = '\r' :=
  Char.toNat_inj.mp (Files.toNat_of_mem_utf8EncodeChar member (by decide))

theorem exists_newline_of_head? {text : List Char}
    (begins : (text.flatMap String.utf8EncodeChar).head? = some 10) :
    ∃ rest, text = '\n' :: rest := by
  cases text with
  | nil => cases begins
  | cons c rest =>
      rw [List.flatMap_cons, List.head?_append_of_ne_nil _ String.utf8EncodeChar_ne_nil] at begins
      exact ⟨rest, congrArg (· :: rest) (newline_of_mem (List.mem_of_head? begins))⟩

/-- Without the ends of lines it makes no difference whether bytes are cut or characters. -/
theorem map_dropLineEnd_splitLines (text : List Char) :
    (splitLines (text.flatMap String.utf8EncodeChar)).map dropLineEnd =
      (Text.lines text).map (List.flatMap String.utf8EncodeChar) := by
  fun_induction Text.lines text with
  | case1 => rfl
  | case2 rest ih => exact congrArg ([] :: ·) ih
  | case3 rest ih => exact congrArg ([] :: ·) ih
  | case4 c rest noFeed noReturn ih =>
      have cut : 10 ∉ String.utf8EncodeChar c := fun member => noFeed (newline_of_mem member)
      rw [List.flatMap_cons, splitLines_append cut String.utf8EncodeChar_ne_nil,
        map_dropLineEnd_extendFirst cut, ih]
      · cases Text.lines rest with
        | nil => simp [extendFirst]
        | cons first others => simp [extendFirst]
      · -- A carriage return in front of a line feed would have been the end of the line before.
        intro first others split
        have begins := head?_of_splitLines split
        constructor
        · rintro rfl
          rw [List.head?_eq_none_iff.mp begins.symm] at split
          cases split
        · rintro rfl ends
          obtain ⟨more, next⟩ := exists_newline_of_head? begins.symm
          have last := List.mem_reverse.mp (List.mem_of_head? ends)
          exact noReturn more (carriageReturn_of_mem last) next

/-! ## What lines yield -/

/-- The record of an object with these members. -/
def recordOf (members : List (String × Json)) : Record :=
  Value.ofMembers (Json.canonicalMembers [] members)

theorem toRecord_object (position : Nat) (members : List (String × Json)) :
    toRecord position (Json.object members).canonical = .ok (recordOf members) :=
  rfl

theorem ofNumber_ne_map (number : Json.Number) (entries : Dict Value) :
    Value.ofNumber number ≠ .map entries := by
  cases number with
  | float value => nofun
  | integer value _ _ =>
      unfold Value.ofNumber
      dsimp only
      cases Decimal.int64? value <;> nofun

theorem ofJson_ne_map {document : Json} (noObject : ∀ members, document ≠ .object members)
    (entries : Dict Value) : Value.ofJson document.canonical ≠ .map entries := by
  cases document with
  | null => nofun
  | bool value => nofun
  | number number => exact ofNumber_ne_map number entries
  | string text => nofun
  | array items => nofun
  | object members => exact absurd rfl (noObject members)

theorem toRecord_of_not_object {document : Json} (noObject : ∀ members, document ≠ .object members)
    (position : Nat) :
    toRecord position document.canonical =
      .error (.ofOperation id ("Element " ++ toString position ++ " is not a JSON object: " ++
        (Value.ofJson document.canonical).toText)) := by
  unfold toRecord
  split
  next entries isMap => exact absurd isMap (ofJson_ne_map noObject entries)
  next => rfl

/-- What a line under a number yields: its record if it holds an object, and else an error that names
the number. -/
inductive LineYields (line : String × Nat) : Outcome → Prop where
  | record {members : List (String × Json)} :
      Json.parse? line.1 = some (.object members) → LineYields line (.ok (recordOf members))
  | notAnObject {document : Json} :
      Json.parse? line.1 = some document → (∀ members, document ≠ .object members) →
      LineYields line
        (.error (.ofOperation id ("Element " ++ toString line.2 ++ " is not a JSON object: " ++
          (Value.ofJson document.canonical).toText)))
  | malformed :
      Json.parse? line.1 = none →
      LineYields line
        (.error (.ofOperation id ("Invalid JSON on line " ++ toString line.2 ++ ": " ++
          TextFormat.json.complaint)))

theorem LineYields.unique {line : String × Nat} {outcome other : Outcome}
    (yields : LineYields line outcome) (yields' : LineYields line other) : outcome = other := by
  cases yields with
  | record parsed =>
      cases yields' with
      | record parsed' =>
          cases parsed.symm.trans parsed'
          rfl
      | notAnObject parsed' noObject =>
          cases parsed.symm.trans parsed'
          exact absurd rfl (noObject _)
      | malformed failed => cases parsed.symm.trans failed
  | notAnObject parsed noObject =>
      cases yields' with
      | record parsed' =>
          cases parsed.symm.trans parsed'
          exact absurd rfl (noObject _)
      | notAnObject parsed' _ =>
          cases parsed.symm.trans parsed'
          rfl
      | malformed failed => cases parsed.symm.trans failed
  | malformed failed =>
      cases yields' with
      | record parsed => cases parsed.symm.trans failed
      | notAnObject parsed _ => cases parsed.symm.trans failed
      | malformed _ => rfl

/-- Lines with their numbers from a number on, without the blank ones. -/
def numberLines (first : Nat) (lines : List (List Char)) : List (String × Nat) :=
  ((lines.map String.ofList).zipIdx first).filter fun line => !Text.isAllBlank line.1

theorem lineOutcome?_eq_none {number : Nat} {line : Bytes} {text : String}
    (ends : dropLineEnd line = Files.encodeText text) (blank : Text.isAllBlank text = true) :
    lineOutcome? number line = none := by
  rw [lineOutcome?, ends, Files.decodeText_encodeText]
  exact if_pos blank

theorem exists_lineOutcome? {number : Nat} {line : Bytes} {text : String}
    (ends : dropLineEnd line = Files.encodeText text) (notBlank : ¬Text.isAllBlank text = true) :
    ∃ outcome, lineOutcome? number line = some outcome ∧ LineYields (text, number) outcome := by
  rw [lineOutcome?, ends, Files.decodeText_encodeText]
  dsimp only
  rw [if_neg notBlank]
  cases parsed : Json.parse? text with
  | none => exact ⟨_, rfl, .malformed parsed⟩
  | some document =>
      refine ⟨toRecord number document.canonical, rfl, ?_⟩
      by_cases isObject : ∃ members, document = .object members
      · obtain ⟨members, rfl⟩ := isObject
        exact .record parsed
      · have noObject := not_exists.mp isObject
        rw [toRecord_of_not_object noObject]
        exact .notAnObject parsed noObject

/-- Cut lines yield what the lines of the text do, each one for itself. -/
theorem forall₂_lineOutcomes {cut : List Bytes} {lines : List (List Char)}
    (same : cut.map dropLineEnd = lines.map (List.flatMap String.utf8EncodeChar)) (number : Nat) :
    List.Forall₂ LineYields (numberLines number lines) (lineOutcomes number cut) := by
  induction cut generalizing lines number with
  | nil =>
      cases lines with
      | nil => exact .nil
      | cons line lines => cases same
  | cons bytes cut ih =>
      cases lines with
      | nil => cases same
      | cons line lines =>
          obtain ⟨first, rest⟩ := List.cons.inj same
          have ends : dropLineEnd bytes = Files.encodeText (String.ofList line) := by
            rw [first, Files.encodeText_eq, String.toList_ofList]
          rw [numberLines, List.map_cons, List.zipIdx_cons, lineOutcomes]
          by_cases blank : Text.isAllBlank (String.ofList line) = true
          · rw [List.filter_cons_of_neg (by simpa using blank), lineOutcome?_eq_none ends blank]
            exact ih rest (number + 1)
          · obtain ⟨outcome, found, yields⟩ := exists_lineOutcome? ends blank
            rw [List.filter_cons_of_pos (by simpa using blank), found]
            exact .cons yields (ih rest (number + 1))

/-! ## Runs -/

section Runs

variable {context : OperationContext} {session : Session}

theorem delivers_lineOutcomes {contents : Bytes}
    (provides : Provides context session.host.files contents)
    (asksForLines : context.flag "jsonLines" false = true) :
    Delivers (execute context) session (lineOutcomes 1 (splitLines contents)) := by
  obtain ⟨input, opened, read⟩ := provides.openInput_eq id
  refine .after opened ?_
  rw [if_pos asksForLines]
  apply delivers_streamResult
  rw [input.feed_supply, read]
  rfl

/-- Each line that is not blank yields one item, in its place and under its number, whatever the
lines before it hold. -/
theorem one_item_per_line {text : String}
    (provides : Provides context session.host.files (Files.encodeText text))
    (asksForLines : context.flag "jsonLines" false = true) :
    ∃ outcomes, Delivers (execute context) session outcomes ∧
      List.Forall₂ LineYields (numberLines 1 (Text.lines text.toList)) outcomes := by
  refine ⟨_, delivers_lineOutcomes provides asksForLines, ?_⟩
  rw [Files.encodeText_eq]
  exact forall₂_lineOutcomes (map_dropLineEnd_splitLines text.toList) 1

end Runs

/-! Two objects, with a blank line, an array, an object that is cut off and an empty line between
them. -/

def mixedLines : String :=
  "\x7b\"a\":\"x\"\x7d\r\n \n[true]\n\x7b\"a\n\n\x7b\"a\":\"y\"\x7d"

def mixedContext : OperationContext :=
  .ofParameters [("content", .text mixedLines), ("jsonLines", .bool true)]

theorem one_item_per_line_mixed :
    Delivers (execute mixedContext) freshSession
      [ .ok [("a", .text "x")],
        .error (.ofOperation id "Element 3 is not a JSON object: [true]"),
        .error (.ofOperation id ("Invalid JSON on line 4: " ++ TextFormat.json.complaint)),
        .ok [("a", .text "y")] ] := by
  have provides : Provides mixedContext freshSession.host.files (Files.encodeText mixedLines) :=
    .inline rfl rfl
  have numbered : numberLines 1 (Text.lines mixedLines.toList) =
      [ ("\x7b\"a\":\"x\"\x7d", 1), ("[true]", 3), ("\x7b\"a", 4),
        ("\x7b\"a\":\"y\"\x7d", 6) ] := by
    decide +kernel
  have recordOf_single : ∀ text, recordOf [("a", .string text)] = [("a", .text text)] := fun _ => rfl
  have object : LineYields ("\x7b\"a\":\"x\"\x7d", 1) (.ok [("a", .text "x")]) := by
    have parsed : Json.parse? "\x7b\"a\":\"x\"\x7d" = some (.object [("a", .string "x")]) := by cbv
    rw [← recordOf_single]
    exact .record parsed
  have array : LineYields ("[true]", 3)
      (.error (.ofOperation id "Element 3 is not a JSON object: [true]")) := by
    have parsed : Json.parse? "[true]" = some (.array [.bool true]) := by cbv
    have message : "Element " ++ toString 3 ++ " is not a JSON object: " ++
        (Value.ofJson (Json.array [.bool true]).canonical).toText =
          "Element 3 is not a JSON object: [true]" := by
      decide +kernel
    rw [← message]
    exact .notAnObject parsed nofun
  have cutOff : LineYields ("\x7b\"a", 4)
      (.error (.ofOperation id ("Invalid JSON on line 4: " ++ TextFormat.json.complaint))) := by
    have unreadable : Json.parse? "\x7b\"a" = none := by cbv
    exact .malformed unreadable
  have other : LineYields ("\x7b\"a\":\"y\"\x7d", 6) (.ok [("a", .text "y")]) := by
    have parsed : Json.parse? "\x7b\"a\":\"y\"\x7d" = some (.object [("a", .string "y")]) := by cbv
    rw [← recordOf_single]
    exact .record parsed
  obtain ⟨outcomes, delivers, yields⟩ := one_item_per_line provides (by decide)
  rw [numbered] at yields
  have unique : Relator.RightUnique LineYields := fun _ _ _ => LineYields.unique
  have same := unique.forall₂ yields
    (.cons object (.cons array (.cons cutOff (.cons other .nil))))
  rw [← same]
  exact delivers

end Source.JsonRecords

end RdfPipeline
