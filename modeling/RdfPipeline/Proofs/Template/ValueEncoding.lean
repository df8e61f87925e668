import RdfPipeline.Proofs.Text.Blank
import RdfPipeline.Template

/-!
# Encoded values

The encoding of a value has only characters that an IRI may hold anywhere, and reading its percent
codes as the UTF-8 bytes of a text gives back the value, trimmed and with its blanks collapsed.
-/

set_option autoImplicit false

namespace RdfPipeline.Template

/-! ## Texts with percent codes -/

/-- Letters, digits and `.-*_/`, and percent codes with upper case digits. -/
inductive IsEncoded : List Char → Prop where
  | nil : IsEncoded []
  | plain {c : Char} {rest : List Char} :
      'a' ≤ c ∧ c ≤ 'z' ∨ 'A' ≤ c ∧ c ≤ 'Z' ∨ '0' ≤ c ∧ c ≤ '9' ∨ c ∈ ['.', '-', '*', '_', '/'] →
      IsEncoded rest → IsEncoded (c :: rest)
  | code {high low : Char} {rest : List Char} :
      high ∈ "0123456789ABCDEF".toList → low ∈ "0123456789ABCDEF".toList →
      IsEncoded rest → IsEncoded ('%' :: high :: low :: rest)

/-- The bytes that percent codes stand for, and those of all other characters. -/
def decodedBytes : List Char → List UInt8
  | '%' :: high :: low :: rest =>
      match Text.hexDigitValue? high, Text.hexDigitValue? low with
      | some first, some second => UInt8.ofNat (16 * first + second) :: decodedBytes rest
      | _, _ => String.utf8EncodeChar '%' ++ decodedBytes (high :: low :: rest)
  | c :: rest => String.utf8EncodeChar c ++ decodedBytes rest
  | [] => []

/-- The text that percent codes stand for, if they are UTF-8. -/
def percentDecode? (text : String) : Option String :=
  String.fromUTF8? (decodedBytes text.toList).toByteArray

/-! ## Bytes -/

theorem upperHex_byte : ∀ code < 256, Text.upperHex 2 code =
    [Text.upperHexDigit (code / 16), Text.upperHexDigit (code % 16)] := by
  decide +kernel

theorem upperHexDigit_mem :
    ∀ value < 16, Text.upperHexDigit value ∈ "0123456789ABCDEF".toList := by
  decide

theorem hexDigitValue?_upperHexDigit :
    ∀ value < 16, Text.hexDigitValue? (Text.upperHexDigit value) = some value := by
  decide

theorem encodeByte_eq (byte : UInt8) : encodeByte byte =
    ['%', Text.upperHexDigit (byte.toNat / 16), Text.upperHexDigit (byte.toNat % 16)] := by
  rw [encodeByte, upperHex_byte byte.toNat byte.toNat_lt]

theorem decodedBytes_encodeByte (byte : UInt8) (rest : List Char) :
    decodedBytes (encodeByte byte ++ rest) = byte :: decodedBytes rest := by
  have small : byte.toNat / 16 < 16 := by
    have := byte.toNat_lt
    omega
  have value : 16 * (byte.toNat / 16) + byte.toNat % 16 = byte.toNat := Nat.div_add_mod _ _
  rw [encodeByte_eq, List.cons_append, List.cons_append, List.cons_append, List.nil_append,
    decodedBytes]
  simp only [hexDigitValue?_upperHexDigit _ small,
    hexDigitValue?_upperHexDigit _ (Nat.mod_lt _ (by decide)), value, UInt8.ofNat_toNat]

theorem isEncoded_encodeByte (byte : UInt8) {rest : List Char} (encoded : IsEncoded rest) :
    IsEncoded (encodeByte byte ++ rest) := by
  have small : byte.toNat / 16 < 16 := by
    have := byte.toNat_lt
    omega
  rw [encodeByte_eq]
  exact .code (upperHexDigit_mem _ small) (upperHexDigit_mem _ (Nat.mod_lt _ (by decide))) encoded

/-! ## Characters -/

theorem isUnencoded_iff {c : Char} : isUnencoded c = true ↔
    'a' ≤ c ∧ c ≤ 'z' ∨ 'A' ≤ c ∧ c ≤ 'Z' ∨ '0' ≤ c ∧ c ≤ '9' ∨
      c ∈ ['.', '-', '*', '_', '/'] := by
  have digit : Text.isDigit c = true ↔ '0' ≤ c ∧ c ≤ '9' := by
    simp [Text.isDigit, Text.digitValue?]
  simp [isUnencoded, digit, or_assoc]

theorem decodedBytes_plain {c : Char} (notPercent : c ≠ '%') (rest : List Char) :
    decodedBytes (c :: rest) = String.utf8EncodeChar c ++ decodedBytes rest :=
  decodedBytes.eq_2 c rest fun _ _ _ percent => absurd percent notPercent

theorem decodedBytes_encodeBytes (bytes : List UInt8) (rest : List Char) :
    decodedBytes (bytes.flatMap encodeByte ++ rest) = bytes ++ decodedBytes rest := by
  induction bytes with
  | nil => rfl
  | cons byte bytes ih =>
      rw [List.flatMap_cons, List.append_assoc, decodedBytes_encodeByte, ih, List.cons_append]

theorem decodedBytes_encodeChar (c : Char) (rest : List Char) :
    decodedBytes (encodeChar c ++ rest) = String.utf8EncodeChar c ++ decodedBytes rest := by
  rw [encodeChar]
  split
  next unencoded =>
    refine decodedBytes_plain ?_ rest
    rintro rfl
    exact absurd unencoded (by decide)
  next => exact decodedBytes_encodeBytes _ rest

theorem isEncoded_encodeChar (c : Char) {rest : List Char} (encoded : IsEncoded rest) :
    IsEncoded (encodeChar c ++ rest) := by
  rw [encodeChar]
  split
  next unencoded => exact .plain (isUnencoded_iff.mp unencoded) encoded
  next =>
    induction String.utf8EncodeChar c with
    | nil => exact encoded
    | cons byte bytes ih =>
        rw [List.flatMap_cons, List.append_assoc]
        exact isEncoded_encodeByte byte ih

/-! ## Texts -/

theorem decodedBytes_encoded (chars : List Char) :
    decodedBytes (chars.flatMap encodeChar) = chars.flatMap String.utf8EncodeChar := by
  induction chars with
  | nil => rfl
  | cons c rest ih => rw [List.flatMap_cons, decodedBytes_encodeChar, ih, List.flatMap_cons]

theorem isEncoded_encoded (chars : List Char) : IsEncoded (chars.flatMap encodeChar) := by
  induction chars with
  | nil => exact .nil
  | cons c rest ih =>
      rw [List.flatMap_cons]
      exact isEncoded_encodeChar c ih

theorem percentDecode?_encoded (chars : List Char) :
    percentDecode? (String.ofList (chars.flatMap encodeChar)) = some (String.ofList chars) := by
  have bytes : (chars.flatMap String.utf8EncodeChar).toByteArray =
      (String.ofList chars).toByteArray := String.toByteArray_ofList.symm
  rw [percentDecode?, String.toList_ofList, decodedBytes_encoded, bytes, String.fromUTF8?,
    dif_pos (String.ofList chars).isValidUTF8]
  rfl

/-! ## What encodings do not have -/

theorem hexDigit_graphic : ∀ c ∈ "0123456789ABCDEF".toList,
    32 < c.toNat ∧ c.toNat < 127 ∧ c ≠ '+' := by
  have all : ("0123456789ABCDEF".toList.all fun c =>
      decide (32 < c.toNat ∧ c.toNat < 127 ∧ c ≠ '+')) = true := by decide
  exact fun c member => of_decide_eq_true (List.all_eq_true.mp all c member)

theorem graphic_of_range {c first last : Char} (start : 32 < first.toNat) (stop : last.toNat < 127)
    (within : first ≤ c ∧ c ≤ last) : 32 < c.toNat ∧ c.toNat < 127 := by
  rw [Char.le_def, Char.le_def, UInt32.le_iff_toNat_le, UInt32.le_iff_toNat_le] at within
  exact ⟨Nat.lt_of_lt_of_le start within.1, Nat.lt_of_le_of_lt within.2 stop⟩

theorem plain_graphic {c : Char}
    (plain : 'a' ≤ c ∧ c ≤ 'z' ∨ 'A' ≤ c ∧ c ≤ 'Z' ∨ '0' ≤ c ∧ c ≤ '9' ∨
      c ∈ ['.', '-', '*', '_', '/']) : 32 < c.toNat ∧ c.toNat < 127 ∧ c ≠ '+' := by
  have notPlus : c ≠ '+' := by
    rintro rfl
    revert plain
    decide
  rw [← and_assoc]
  refine ⟨?_, notPlus⟩
  obtain lower | upper | digit | mark := plain
  · exact graphic_of_range (by decide) (by decide) lower
  · exact graphic_of_range (by decide) (by decide) upper
  · exact graphic_of_range (by decide) (by decide) digit
  · have marks : ∀ d ∈ ['.', '-', '*', '_', '/'], 32 < d.toNat ∧ d.toNat < 127 := by simp
    exact marks c mark

theorem IsEncoded.graphic {chars : List Char} (encoded : IsEncoded chars) :
    ∀ c ∈ chars, 32 < c.toNat ∧ c.toNat < 127 ∧ c ≠ '+' := by
  induction encoded with
  | nil => simp
  | plain plain _ ih => exact List.forall_mem_cons.mpr ⟨plain_graphic plain, ih⟩
  | code high low _ ih =>
      refine List.forall_mem_cons.mpr ⟨by decide, List.forall_mem_cons.mpr ⟨?_, ?_⟩⟩
      · exact hexDigit_graphic _ high
      · exact List.forall_mem_cons.mpr ⟨hexDigit_graphic _ low, ih⟩

/-! ## Values -/

/-- The text is the raw one without the blanks around it, and with one `_` for each longest run of
blanks inside. -/
def Tidies (raw text : String) : Prop :=
  ∃ front core back, raw.toList = front ++ (core ++ back) ∧
    (∀ c ∈ front, Text.isBlank c = true) ∧ (∀ c ∈ back, Text.isBlank c = true) ∧
    Text.IsTrimmed core ∧ Text.Collapses core text.toList

def tidied (raw : String) : String :=
  String.ofList (Text.joinBlankRuns (Text.trimChars raw.toList))

theorem tidies_iff {raw text : String} : Tidies raw text ↔ text = tidied raw := by
  constructor
  · rintro ⟨front, core, back, whole, blankFront, blankBack, trimmed, collapses⟩
    rw [tidied, whole, trimmed.trimChars_append blankFront blankBack,
      ← collapses.eq_joinBlankRuns, String.ofList_toList]
  · rintro rfl
    obtain ⟨front, back, whole, blankFront, blankBack⟩ := Text.exists_blanks_around raw.toList
    refine ⟨front, _, back, whole, blankFront, blankBack, Text.isTrimmed_trimChars _, ?_⟩
    rw [tidied, String.toList_ofList]
    exact Text.collapses_joinBlankRuns _

/-- An encoding has no characters but plain ones and those of percent codes, so neither `+` nor
blanks, and decoding it gives the tidied value back. So values have one encoding if and only if they
are tidied to the same text. -/
theorem encodeValue_reversible (raw : String) :
    IsEncoded (encodeValue raw).toList ∧
    percentDecode? (encodeValue raw) = some (tidied raw) ∧
    (∀ text, Tidies raw text ↔ text = tidied raw) ∧
    (∀ other, encodeValue raw = encodeValue other ↔ tidied raw = tidied other) ∧
    '+' ∉ (encodeValue raw).toList ∧ (encodeValue raw).toList.any Text.isBlank = false := by
  have encoded : IsEncoded (encodeValue raw).toList := by
    rw [encodeValue, String.toList_ofList]
    exact isEncoded_encoded _
  have decoded : ∀ value, percentDecode? (encodeValue value) = some (tidied value) :=
    fun value => percentDecode?_encoded _
  refine ⟨encoded, decoded raw, fun text => tidies_iff, fun other => ⟨?decode, ?encode⟩, ?plus,
    ?blank⟩
  case decode =>
    intro same
    have sameText : some (tidied raw) = some (tidied other) := by
      rw [← decoded raw, same, decoded other]
    exact Option.some.inj sameText
  case encode =>
    intro same
    have sameChars : Text.joinBlankRuns (Text.trimChars raw.toList) =
        Text.joinBlankRuns (Text.trimChars other.toList) := String.ofList_injective same
    rw [encodeValue, encodeValue, sameChars]
  case plus =>
    intro plus
    exact (encoded.graphic _ plus).2.2 rfl
  case blank =>
    rw [List.any_eq_false]
    intro c member
    obtain ⟨above, below, -⟩ := encoded.graphic c member
    simp [Text.not_isBlank_of_graphic above below]

example : encodeValue "  100%\u2003Zürich \t a+b " = "100%25_Z%C3%BCrich_a%2Bb" := by
  decide +kernel

end RdfPipeline.Template
