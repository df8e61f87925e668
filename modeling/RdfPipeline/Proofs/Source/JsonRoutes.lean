import RdfPipeline.Proofs.Json.Embedding
import RdfPipeline.Proofs.Source.JsonLines

/-!
# Routes to the records of a document

Objects come as the items of an array, as the lines of a document, or as the items of an array that
stands somewhere inside a document. Their records are the same.
-/

set_option autoImplicit false

namespace RdfPipeline.Source.JsonRecords

open Json (IsText arrayText wrapText wrap)

/-! ## Items -/

/-- The outcomes of objects with these members. -/
def recordsOf (objects : List (List (String × Json))) : List Outcome :=
  objects.map fun members => .ok (recordOf members)

theorem itemOutcomes_objects (objects : List (List (String × Json))) (position : Nat) :
    itemOutcomes position ((objects.map Json.object).map Json.canonical) = recordsOf objects := by
  induction objects generalizing position with
  | nil => rfl
  | cons members objects ih =>
      rw [List.map_cons, List.map_cons, itemOutcomes, toRecord_object, ih]
      rfl

theorem canonical_array (items : List Json) :
    (Json.array items).canonical = .array (items.map Json.canonical) := by
  rw [Json.canonical, Json.canonicalItems_eq_map]

theorem descend_wrap (path : String) (keys : List String) (document : Json) :
    descend path (wrap keys document).canonical keys = .ok document.canonical := by
  induction keys with
  | nil => rfl
  | cons key keys ih =>
      have member : (wrap (key :: keys) document).canonical.member? key =
          some (wrap keys document).canonical := by
        simp [wrap, Json.canonical, Json.canonicalMembers, Dict.insert, Json.member?]
      rw [descend, member]
      exact ih

section Documents

variable {context : OperationContext} {session : Session} {text : String}

theorem parseDocument?_encodeText (text : String) :
    parseDocument? (.ok (Files.encodeText text)) = (Json.parse? text).map Json.canonical := by
  have decoded : (Except.ok (Files.encodeText text)).bind Files.decodeText =
      (.ok text : Except Files.Fault String) :=
    Files.decodeText_encodeText text
  rw [parseDocument?, decoded, Option.map_eq_bind]
  rfl

theorem execute_document (provides : Provides context session.host.files (Files.encodeText text))
    (asksForDocument : context.flag "jsonLines" false = false) :
    execute context session =
      (do
        let document ← liftExcept (readDocument (.ok (Files.encodeText text)))
        let items ← liftExcept (selectItems document (context.nonBlankText? "arrayField"))
        streamResult (.ready (.ofOutcomes (itemOutcomes 1 items))) : Activity OperationResult)
          session := by
  obtain ⟨input, opened, read⟩ := provides.openInput_eq id
  have looks : Activity.host session = (.ok session.host, session) := rfl
  rw [execute, Activity.bind_of_ok opened, if_neg (by simp [asksForDocument]),
    Activity.bind_of_ok looks, read]

theorem exists_parse?_of_accepted
    (provides : Provides context session.host.files (Files.encodeText text))
    (asksForDocument : context.flag "jsonLines" false = false)
    (accepted : ∃ result, (execute context session).1 = .ok result) :
    ∃ document, Json.parse? text = some document := by
  cases parsed : Json.parse? text with
  | some document => exact ⟨document, rfl⟩
  | none =>
      obtain ⟨result, ends⟩ := accepted
      rw [execute_document provides asksForDocument, readDocument, parseDocument?_encodeText,
        parsed] at ends
      cases ends

theorem delivers_itemOutcomes {document : Json} {items : List Json}
    (provides : Provides context session.host.files (Files.encodeText text))
    (asksForDocument : context.flag "jsonLines" false = false)
    (parsed : Json.parse? text = some document)
    (selected : selectItems document.canonical (context.nonBlankText? "arrayField") = .ok items) :
    Delivers (execute context) session (itemOutcomes 1 items) := by
  have read : readDocument (.ok (Files.encodeText text)) = .ok document.canonical := by
    rw [readDocument, parseDocument?_encodeText, parsed]
    rfl
  unfold Delivers
  rw [execute_document provides asksForDocument,
    Activity.bind_of_ok (Activity.liftExcept_of_ok read session),
    Activity.bind_of_ok (Activity.liftExcept_of_ok selected session)]
  exact delivers_streamResult rfl

end Documents

/-! ## Lines -/

/-- Without the characters at which documents are cut into lines. -/
def Unbroken (line : List Char) : Prop :=
  '\n' ∉ line ∧ '\r' ∉ line

section Lines

variable {line : List Char} {lines : List (List Char)}

theorem Unbroken.lines_append (unbroken : Unbroken line) (nonempty : line ≠ [])
    (rest : List Char) : Text.lines (line ++ rest) = extendFirst line (Text.lines rest) := by
  induction line with
  | nil => exact absurd rfl nonempty
  | cons c line ih =>
      obtain ⟨noFeed, noReturn⟩ := unbroken
      obtain ⟨notFeed, noFeed⟩ := List.ne_and_not_mem_of_not_mem_cons noFeed
      obtain ⟨notReturn, noReturn⟩ := List.ne_and_not_mem_of_not_mem_cons noReturn
      have first : Text.lines (c :: (line ++ rest)) = extendFirst [c] (Text.lines (line ++ rest)) := by
        rw [Text.lines]
        · exact fun same => notFeed same.symm
        · exact fun _ same => absurd same.symm notReturn
      rw [List.cons_append, first]
      cases line with
      | nil => rfl
      | cons next line =>
          rw [ih ⟨noFeed, noReturn⟩ (List.cons_ne_nil _ _), ← extendFirst_append]
          rfl

/-- Lines that are joined with line feeds are the lines of what they are joined to. -/
theorem lines_intercalate (each : ∀ line ∈ lines, Unbroken line ∧ line ≠ []) :
    Text.lines (List.intercalate ['\n'] lines) = lines := by
  induction lines with
  | nil => rfl
  | cons line others ih =>
      obtain ⟨⟨unbroken, nonempty⟩, further⟩ := List.forall_mem_cons.mp each
      cases others with
      | nil =>
          rw [List.intercalate_singleton, ← List.append_nil line, unbroken.lines_append nonempty]
          rfl
      | cons next others =>
          rw [List.intercalate_cons_cons, List.append_assoc, unbroken.lines_append nonempty]
          change extendFirst line ([] :: Text.lines (List.intercalate ['\n'] (next :: others))) = _
          rw [ih further, extendFirst, List.headD_cons, List.append_nil, List.tail_cons]

end Lines

/-! ## Paths -/

/-- Keys that a dotted path can name. -/
def IsPathKey (key : String) : Prop :=
  Text.isAllBlank key = false ∧ '.' ∉ key.toList

section Paths

variable {keys : List String}

theorem pathKeys_intercalate (each : ∀ key ∈ keys, IsPathKey key) (filled : keys ≠ []) :
    pathKeys (String.intercalate "." keys) = keys := by
  have undotted : ∀ chars ∈ keys.map String.toList, '.' ∉ chars := by
    intro chars member
    obtain ⟨key, isKey, rfl⟩ := List.mem_map.mp member
    exact (each key isKey).2
  have cut : (List.intercalate ['.'] (keys.map String.toList)).splitOn '.' =
      keys.map String.toList :=
    List.splitOn_intercalate '.' undotted (mt List.map_eq_nil_iff.mp filled)
  have dot : ".".toList = ['.'] := rfl
  rw [pathKeys, String.toList_intercalate, dot, cut, List.map_map]
  have same : String.ofList ∘ String.toList = fun key => key := funext fun _ => String.ofList_toList
  rw [same, List.map_id', List.filter_eq_self]
  intro key isKey
  have notBlank := (each key isKey).1
  rw [bne_iff_ne]
  rintro rfl
  cases notBlank

theorem not_isAllBlank_intercalate (each : ∀ key ∈ keys, IsPathKey key) (filled : keys ≠ []) :
    Text.isAllBlank (String.intercalate "." keys) = false := by
  cases keys with
  | nil => exact absurd rfl filled
  | cons key others =>
      have notBlank : key.toList.all Text.isBlank = false := (each key List.mem_cons_self).1
      rw [Text.isAllBlank, String.toList_intercalate, List.map_cons]
      cases others with
      | nil => rwa [List.map_nil, List.intercalate_singleton]
      | cons next others =>
          rw [List.map_cons, List.intercalate_cons_cons, List.append_assoc, List.all_append,
            notBlank, Bool.false_and]

end Paths

/-! ## Routes -/

/-- The ways in which the records of a document are asked for. -/
inductive Route where
  | document
  | field (path : String)
  | lines

def Route.Asks (context : OperationContext) : Route → Prop
  | .document =>
      context.flag "jsonLines" false = false ∧ context.nonBlankText? "arrayField" = none
  | .field path =>
      context.flag "jsonLines" false = false ∧ context.text? "arrayField" = some path
  | .lines => context.flag "jsonLines" false = true

/-- Whoever asks on this route for the records of the text gets these outcomes. -/
def Route.Yields (route : Route) (text : List Char) (outcomes : List Outcome) : Prop :=
  ∀ (context : OperationContext) (session : Session), route.Asks context →
    Provides context session.host.files (Files.encodeText (String.ofList text)) →
    Delivers (execute context) session outcomes

/-- The texts hold objects with these members. -/
def HoldObjects : List (List Char) → List (List (String × Json)) → Prop :=
  List.Forall₂ fun text members => IsText text (.object members)

section Routes

variable {texts : List (List Char)} {objects : List (List (String × Json))}

theorem HoldObjects.ne_nil (hold : HoldObjects texts objects) {text : List Char}
    (member : text ∈ texts) : text ≠ [] := by
  induction hold with
  | nil => cases member
  | cons isText _ ih =>
      cases member with
      | head => exact List.ne_nil_of_mem isText.brace_mem
      | tail _ later => exact ih later

theorem HoldObjects.isText_array (hold : HoldObjects texts objects) :
    IsText (arrayText texts) (.array (objects.map Json.object)) :=
  Json.isText_array (List.forall₂_map_right_iff.mpr hold)

theorem HoldObjects.parse?_array (hold : HoldObjects texts objects)
    (shallow : (Json.array (objects.map Json.object)).depth ≤ Json.depthLimit) :
    Json.parse? (String.ofList (arrayText texts)) = some (.array (objects.map Json.object)) :=
  Json.parse?_ofList_eq_some_iff.mpr ⟨hold.isText_array, shallow⟩

theorem HoldObjects.depth_le_of_accepted (hold : HoldObjects texts objects) {document : Json}
    (parsed : Json.parse? (String.ofList (arrayText texts)) = some document) :
    (Json.array (objects.map Json.object)).depth ≤ Json.depthLimit := by
  obtain ⟨isText, shallow⟩ := Json.parse?_ofList_eq_some_iff.mp parsed
  rwa [hold.isText_array.unique isText]

theorem yields_document (hold : HoldObjects texts objects)
    (shallow : (Json.array (objects.map Json.object)).depth ≤ Json.depthLimit) :
    Route.document.Yields (arrayText texts) (recordsOf objects) := by
  rintro context session ⟨asksForDocument, noField⟩ provides
  rw [← itemOutcomes_objects objects 1]
  apply delivers_itemOutcomes provides asksForDocument (hold.parse?_array shallow)
  rw [canonical_array, noField]
  rfl

theorem yields_field (hold : HoldObjects texts objects) {keys : List String}
    (each : ∀ key ∈ keys, IsPathKey key)
    (shallow : (wrap keys (.array (objects.map Json.object))).depth ≤ Json.depthLimit) :
    (Route.field (String.intercalate "." keys)).Yields (wrapText keys (arrayText texts))
      (recordsOf objects) := by
  rintro context session ⟨asksForDocument, named⟩ provides
  by_cases filled : keys = []
  · subst filled
    have noField : context.nonBlankText? "arrayField" = none := by
      rw [OperationContext.nonBlankText?, named]
      rfl
    exact yields_document hold shallow context session ⟨asksForDocument, noField⟩ provides
  · have parsed : Json.parse? (String.ofList (wrapText keys (arrayText texts))) =
        some (wrap keys (.array (objects.map Json.object))) :=
      Json.parse?_ofList_eq_some_iff.mpr ⟨Json.isText_wrap hold.isText_array keys, shallow⟩
    have field : context.nonBlankText? "arrayField" = some (String.intercalate "." keys) := by
      rw [OperationContext.nonBlankText?, named, Option.filter_some,
        not_isAllBlank_intercalate each filled]
      rfl
    rw [← itemOutcomes_objects objects 1]
    apply delivers_itemOutcomes provides asksForDocument parsed
    rw [field, selectItems, pathKeys_intercalate each filled, descend_wrap, canonical_array]
    rfl

theorem HoldObjects.forall₂_lineYields (hold : HoldObjects texts objects)
    (shallow : Json.itemsDepth (objects.map Json.object) ≤ Json.depthLimit) (number : Nat) :
    List.Forall₂ LineYields (numberLines number texts) (recordsOf objects) := by
  induction hold generalizing number with
  | nil => exact .nil
  | @cons text members texts objects isText others ih =>
      obtain ⟨first, rest⟩ := Nat.max_le.mp shallow
      have notBlank : Text.isAllBlank (String.ofList text) = false := by
        rw [Text.isAllBlank, String.toList_ofList, List.all_eq_false]
        exact ⟨'\x7b', isText.brace_mem, by decide⟩
      have parsed : Json.parse? (String.ofList text) = some (.object members) :=
        Json.parse?_ofList_eq_some_iff.mpr ⟨isText, first⟩
      -- As no line is blank, none is left out and the objects stay beside their lines.
      rw [numberLines, List.map_cons, List.zipIdx_cons, List.filter_cons_of_pos (by simp [notBlank])]
      exact .cons (.record parsed) (ih rest (number + 1))

theorem yields_lines (hold : HoldObjects texts objects)
    (unbroken : ∀ text ∈ texts, Unbroken text)
    (shallow : (Json.array (objects.map Json.object)).depth ≤ Json.depthLimit) :
    Route.lines.Yields (List.intercalate ['\n'] texts) (recordsOf objects) := by
  intro context session asksForLines provides
  have lines : Text.lines (List.intercalate ['\n'] texts) = texts :=
    lines_intercalate fun text member => ⟨unbroken text member, hold.ne_nil member⟩
  have delivers := delivers_lineOutcomes provides asksForLines
  have yields := forall₂_lineOutcomes (map_dropLineEnd_splitLines (List.intercalate ['\n'] texts)) 1
  have unique : Relator.RightUnique LineYields := fun _ _ _ => LineYields.unique
  rw [lines] at yields
  rw [Files.encodeText_eq, String.toList_ofList,
    unique.forall₂ yields (hold.forall₂_lineYields (Nat.le_of_succ_le shallow) 1)] at delivers
  exact delivers

/-- An array that is accepted has the same records as its items line by line, and as itself inside
objects that a dotted path leads through. -/
theorem routes_agree (hold : HoldObjects texts objects) (unbroken : ∀ text ∈ texts, Unbroken text)
    {context : OperationContext} {session : Session} (asks : Route.document.Asks context)
    (provides : Provides context session.host.files
      (Files.encodeText (String.ofList (arrayText texts))))
    (accepted : ∃ result, (execute context session).1 = .ok result) :
    Route.document.Yields (arrayText texts) (recordsOf objects) ∧
      Route.lines.Yields (List.intercalate ['\n'] texts) (recordsOf objects) ∧
      ∀ keys : List String, (∀ key ∈ keys, IsPathKey key) →
        (wrap keys (.array (objects.map Json.object))).depth ≤ Json.depthLimit →
          (Route.field (String.intercalate "." keys)).Yields (wrapText keys (arrayText texts))
            (recordsOf objects) := by
  obtain ⟨document, parsed⟩ := exists_parse?_of_accepted provides asks.1 accepted
  have shallow := hold.depth_le_of_accepted parsed
  refine ⟨yields_document hold shallow, yields_lines hold unbroken shallow, ?_⟩
  intro keys each within
  exact yields_field hold each within

end Routes

/-! Two objects as an array, as lines, and as the array that a path of two keys leads to. -/

def pairTexts : List (List Char) :=
  ["\x7b\"a\":\"x\"\x7d".toList, "\x7b\"a\":\"y\"\x7d".toList]

def pairArray : OperationContext :=
  .ofParameters [("content", .text "[\x7b\"a\":\"x\"\x7d,\x7b\"a\":\"y\"\x7d]")]

def pairLines : OperationContext :=
  .ofParameters
    [ ("content", .text "\x7b\"a\":\"x\"\x7d\n\x7b\"a\":\"y\"\x7d"),
      ("jsonLines", .bool true) ]

def pairNested : OperationContext :=
  .ofParameters
    [ ("arrayField", .text "data.items"),
      ("content", .text
        "\x7b\"data\":\x7b\"items\":[\x7b\"a\":\"x\"\x7d,\x7b\"a\":\"y\"\x7d]\x7d\x7d") ]

def pairRecords : List Outcome :=
  [.ok [("a", .text "x")], .ok [("a", .text "y")]]

theorem routes_agree_pair :
    Delivers (execute pairArray) freshSession pairRecords ∧
      Delivers (execute pairLines) freshSession pairRecords ∧
      Delivers (execute pairNested) freshSession pairRecords := by
  have first : IsText "\x7b\"a\":\"x\"\x7d".toList (.object [("a", .string "x")]) :=
    (Json.parse?_eq_some_iff.mp (by cbv)).1
  have second : IsText "\x7b\"a\":\"y\"\x7d".toList (.object [("a", .string "y")]) :=
    (Json.parse?_eq_some_iff.mp (by cbv)).1
  have hold : HoldObjects pairTexts [[("a", .string "x")], [("a", .string "y")]] :=
    .cons first (.cons second .nil)
  have records : recordsOf [[("a", .string "x")], [("a", .string "y")]] = pairRecords := rfl
  have unbroken : ∀ text ∈ pairTexts, Unbroken text := by
    unfold Unbroken
    decide +kernel
  have asks : Route.document.Asks pairArray := ⟨rfl, rfl⟩
  have provides : Provides pairArray freshSession.host.files
      (Files.encodeText (String.ofList (arrayText pairTexts))) :=
    .inline rfl (by decide +kernel)
  have accepted : ∃ result, (execute pairArray freshSession).1 = .ok result := by
    obtain ⟨result, _, _, _, ends, -⟩ :=
      yields_document hold (by decide +kernel) pairArray freshSession asks provides
    exact ⟨result, congrArg Prod.fst ends⟩
  obtain ⟨array, lines, nested⟩ := routes_agree hold unbroken asks provides accepted
  rw [records] at array lines nested
  refine ⟨array pairArray freshSession asks provides,
    lines pairLines freshSession rfl (.inline rfl (by decide +kernel)),
    nested ["data", "items"] ?pathKeys (by decide +kernel) pairNested freshSession ⟨rfl, ?path⟩
      (.inline rfl (by decide +kernel))⟩
  case pathKeys =>
    unfold IsPathKey
    decide +kernel
  case path => decide +kernel

end RdfPipeline.Source.JsonRecords
