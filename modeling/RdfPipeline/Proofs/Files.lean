import RdfPipeline.Files
import Mathlib.Data.List.Basic

/-!
# Reading back files

A file holds under its path what was written there last. A text is the text of its bytes.
-/

set_option autoImplicit false

namespace RdfPipeline.Files

/-! ## Bytes of texts -/

theorem toList_loop (bytes : ByteArray) (index : Nat) (front : List UInt8) :
    ByteArray.toList.loop bytes index front = front.reverse ++ bytes.data.toList.drop index := by
  induction index, front using ByteArray.toList.loop.induct bytes with
  | case1 index front within ih =>
      have inList : index < bytes.data.toList.length := by simpa using within
      have sameByte : bytes.get! index = bytes.data.toList[index] := by
        rw [ByteArray.get!, Array.getElem_toList]
        exact getElem!_pos bytes.data index within
      rw [ByteArray.toList.loop, if_pos within, ih, List.drop_eq_getElem_cons inList, sameByte,
        List.reverse_cons, List.append_assoc]
      rfl
  | case2 index front outside =>
      have pastEnd : bytes.data.toList.length ≤ index := by simpa using outside
      rw [ByteArray.toList.loop, if_neg outside, List.drop_eq_nil_of_le pastEnd, List.append_nil]

theorem toList_toArray (bytes : ByteArray) : (⟨bytes.toList.toArray⟩ : ByteArray) = bytes := by
  rw [ByteArray.toList, toList_loop]
  rfl

theorem decodeText_encodeText (text : String) : decodeText (encodeText text) = .ok text := by
  have decoded : String.fromUTF8? text.toUTF8 = some text := by
    rw [String.fromUTF8?, String.toUTF8_eq_toByteArray, dif_pos text.isValidUTF8]
    rfl
  rw [decodeText, encodeText, toList_toArray, decoded]

theorem encodeText_eq (text : String) :
    encodeText text = text.toList.flatMap String.utf8EncodeChar := by
  have ofList : text = String.ofList text.toList := String.ofList_toList.symm
  have bytes : text.toUTF8 = (text.toList.flatMap String.utf8EncodeChar).toByteArray := by
    rw [String.toUTF8_eq_toByteArray]
    conv => lhs; rw [ofList]
    exact String.toByteArray_ofList
  rw [encodeText, bytes, ByteArray.toList, toList_loop]
  exact List.toList_data_toByteArray

/-- Only the single bytes of the characters of this range are so small. -/
theorem toNat_of_mem_utf8EncodeChar {c : Char} {byte : UInt8}
    (member : byte ∈ String.utf8EncodeChar c) (small : byte.toNat < 128) : c.toNat = byte.toNat := by
  have value : c.toNat = c.val.toNat := rfl
  unfold String.utf8EncodeChar at member
  dsimp only at member
  split at member
  next single =>
    rw [List.mem_singleton] at member
    rw [member, UInt8.toNat_ofNat']
    omega
  next =>
    split at member
    next =>
      simp only [List.mem_cons, List.not_mem_nil, or_false] at member
      rcases member with rfl | rfl <;> rw [UInt8.toNat_ofNat'] at small <;> omega
    next =>
      split at member
      next =>
        simp only [List.mem_cons, List.not_mem_nil, or_false] at member
        rcases member with rfl | rfl | rfl <;> rw [UInt8.toNat_ofNat'] at small <;> omega
      next =>
        simp only [List.mem_cons, List.not_mem_nil, or_false] at member
        rcases member with rfl | rfl | rfl | rfl <;> rw [UInt8.toNat_ofNat'] at small <;> omega

/-! ## Entries -/

variable {files files' : Files} {place here : List String} {entry : Entry}

theorem entryAt_nil : files.entryAt? [] = some .directory :=
  rfl

theorem entryAt_put_self (below : place ≠ []) :
    (files.put place entry).entryAt? place = some entry := by
  rw [entryAt?, if_neg below, put, List.find?_cons_of_pos (by simp)]
  rfl

theorem entryAt_put_of_ne (elsewhere : here ≠ place) :
    (files.put place entry).entryAt? here = files.entryAt? here := by
  unfold entryAt? put
  split
  next => rfl
  next =>
    have sought : ∀ other : List String × Entry,
        decide ((other.1 != place) = true ∧ (other.1 == here) = true) = (other.1 == here) := by
      intro other
      by_cases same : other.1 = here
      · simp [same, elsewhere]
      · simp [same]
    rw [List.find?_cons_of_neg (by simpa using Ne.symm elsewhere), List.find?_filter]
    simp only [sought]

/-! ## Paths -/

theorem entryAt_of_descend {name : String} {next : List String}
    (descends : files.descend here name = .ok next) : files.entryAt? here = some .directory := by
  unfold descend at descends
  split at descends
  next => cases descends
  next => cases descends
  next found => exact found

/-- A file that takes the place of no directory changes no way through directories. -/
theorem descend_put {name : String} {next : List String}
    (noDirectory : files.entryAt? place ≠ some .directory)
    (descends : files.descend here name = .ok next) :
    (files.put place entry).descend here name = .ok next := by
  have directory := entryAt_of_descend descends
  have elsewhere : here ≠ place := by
    rintro rfl
    exact noDirectory directory
  unfold descend at descends ⊢
  rw [entryAt_put_of_ne elsewhere]
  exact descends

theorem descendAll_put {names : List String} {last : List String}
    (noDirectory : files.entryAt? place ≠ some .directory)
    (descends : names.foldlM files.descend here = .ok last) :
    names.foldlM (files.put place entry).descend here = .ok last := by
  induction names generalizing here with
  | nil => exact descends
  | cons name names ih =>
      rw [List.foldlM_cons] at descends ⊢
      cases first : files.descend here name with
      | error fault =>
          rw [first] at descends
          cases descends
      | ok next =>
          rw [first] at descends
          rw [descend_put noDirectory first]
          exact ih descends

theorem resolve_put {path : String} (noDirectory : files.entryAt? place ≠ some .directory)
    (resolves : files.resolve path = .ok place) :
    (files.put place entry).resolve path = .ok place := by
  unfold resolve at resolves ⊢
  split at resolves
  next => cases resolves
  next clean =>
    rw [if_neg clean]
    exact descendAll_put noDirectory resolves

/-- A file is written at the place of its path, where no directory is. -/
theorem write_cases {path : String} {contents : Bytes}
    (written : files.write path contents = .ok files') :
    ∃ place, files.resolve path = .ok place ∧ files.entryAt? place ≠ some .directory ∧
      files' = files.put place (.file contents) := by
  unfold write at written
  split at written
  next => cases written
  next =>
    cases resolves : files.resolve path with
    | error fault =>
        rw [resolves] at written
        cases written
    | ok place =>
        simp only [resolves, bind, Except.bind] at written
        refine ⟨place, rfl, ?_⟩
        cases found : files.entryAt? place with
        | some entry =>
            rw [found] at written
            cases entry with
            | directory => cases written
            | file old =>
                cases written
                exact ⟨by simp, rfl⟩
        | none =>
            rw [found] at written
            simp only at written
            split at written
            next =>
              cases written
              exact ⟨by simp, rfl⟩
            next => cases written
            next => cases written

theorem read_of_write {path : String} {contents : Bytes}
    (written : files.write path contents = .ok files') : files'.read path = .ok contents := by
  obtain ⟨place, resolves, noDirectory, rfl⟩ := write_cases written
  have below : place ≠ [] := by
    rintro rfl
    exact noDirectory entryAt_nil
  rw [read, resolve_put noDirectory resolves]
  simp only [bind, Except.bind, entryAt_put_self below]

end RdfPipeline.Files
