/-
  Routing/Proofs/PercentCodec.lean
  ================================
  **Reading undoes writing.**  The written form of a text has only letters, digits,
  the four marks `-` `_` `.` `~` and escapes, so it never has a slash, a question
  mark or a line end; reading its escapes gives the text back. The argument goes
  byte by byte: a fact about one byte is checked for all of them, and the rest is
  about concatenations.
-/
import Routing.Text.Percent
import Mathlib.Data.List.Basic

namespace Routing.Text.Percent

/-! ### One byte -/

theorem forall_byte {p : UInt8 → Prop} (h : ∀ n : Fin 256, p (UInt8.ofFin n)) (b : UInt8) :
    p b := by
  have hb := h b.toFin
  rwa [UInt8.ofFin_toFin] at hb

def isWritten (b : UInt8) : Bool :=
  isUnreserved b || b == 0x25

theorem isWritten_encodeByte (b : UInt8) : (encodeByte b).all isWritten := by
  revert b
  apply forall_byte
  decide +kernel

theorem hexValue?_hexDigit (b : UInt8) :
    hexValue? (hexDigit (b / 16)) = some (b / 16) ∧ hexValue? (hexDigit (b % 16)) = some (b % 16) ∧
      b / 16 * 16 + b % 16 = b := by
  revert b
  apply forall_byte
  decide +kernel

theorem ne_percent_of_isUnreserved (b : UInt8) (h : isUnreserved b) : b ≠ 0x25 := by
  rintro rfl
  revert h
  decide

def charOf (b : UInt8) : Char :=
  Char.ofNat b.toNat

theorem utf8EncodeChar_charOf (b : UInt8) (h : isWritten b) :
    String.utf8EncodeChar (charOf b) = [b] := by
  revert b
  apply forall_byte
  decide +kernel

theorem charOf_isWritten (b : UInt8) (h : isWritten b) :
    (charOf b).isAlphanum ∨ charOf b ∈ ['-', '_', '.', '~', '%'] := by
  revert b
  apply forall_byte
  decide +kernel

/-! ### Lists of bytes -/

theorem decodeBytes_cons_of_ne {b : UInt8} (hb : b ≠ 0x25) (rest : List UInt8) :
    decodeBytes (b :: rest) = b :: decodeBytes rest := by
  match rest with
  | [] => rfl
  | [_] => rfl
  | high :: low :: rest => rw [decodeBytes, if_neg hb]

/-- **Reading the written form of a byte gives the byte back**, and goes on behind it. -/
theorem decodeBytes_encodeByte_append (b : UInt8) (rest : List UInt8) :
    decodeBytes (encodeByte b ++ rest) = b :: decodeBytes rest := by
  unfold encodeByte
  by_cases h : isUnreserved b
  · rw [if_pos h, List.singleton_append]
    exact decodeBytes_cons_of_ne (ne_percent_of_isUnreserved b h) rest
  · obtain ⟨hhigh, hlow, hbyte⟩ := hexValue?_hexDigit b
    rw [if_neg h, List.cons_append, List.cons_append, List.singleton_append, decodeBytes,
      if_pos rfl, hhigh, hlow]
    simp only [hbyte]

/-- What is written is read back, byte by byte. -/
theorem decodeBytes_flatMap (bytes : List UInt8) :
    decodeBytes (bytes.flatMap encodeByte) = bytes := by
  induction bytes with
  | nil => rfl
  | cons b bytes ih => rw [List.flatMap_cons, decodeBytes_encodeByte_append, ih]

theorem decodeBytes_eq_nil {bytes : List UInt8} (h : decodeBytes bytes = []) : bytes = [] := by
  unfold decodeBytes at h
  split at h
  · rfl
  · cases h
  · cases h
  · split at h
    · split at h <;> cases h
    · cases h

/-! ### Texts -/

theorem bytesOf_ofList (cs : List Char) :
    bytesOf (String.ofList cs) = cs.flatMap String.utf8EncodeChar := by
  rw [bytesOf, String.toByteArray_ofList, List.utf8Encode, List.toList_data_toByteArray]

theorem bytesOf_eq_nil {text : String} : bytesOf text = [] ↔ text = "" := by
  have hbytes := bytesOf_ofList text.toList
  rw [String.ofList_toList] at hbytes
  rw [hbytes, List.flatMap_eq_nil_iff]
  constructor
  · intro h
    rw [← String.toList_eq_nil_iff, List.eq_nil_iff_forall_not_mem]
    exact fun c hc => String.utf8EncodeChar_ne_nil (h c hc)
  · rintro rfl c hc
    cases hc

theorem fromUTF8?_eq_some {bytes : List UInt8} {text : String} :
    String.fromUTF8? ⟨bytes.toArray⟩ = some text ↔ bytes = bytesOf text := by
  unfold String.fromUTF8?
  constructor
  · intro h
    split at h
    · cases h
      rfl
    · cases h
  · rintro rfl
    have hbytes : (⟨(bytesOf text).toArray⟩ : ByteArray) = text.toByteArray := rfl
    rw [hbytes, dif_pos text.isValidUTF8]
    rfl

theorem written_bytes (text : String) :
    ∀ b ∈ (bytesOf text).flatMap encodeByte, isWritten b := by
  intro b hb
  obtain ⟨source, -, hwritten⟩ := List.mem_flatMap.mp hb
  exact List.all_eq_true.mp (isWritten_encodeByte source) b hwritten

theorem flatMap_charOf {bytes : List UInt8} (h : ∀ b ∈ bytes, isWritten b) :
    (bytes.map charOf).flatMap String.utf8EncodeChar = bytes := by
  induction bytes with
  | nil => rfl
  | cons b bytes ih =>
    have hrest := ih fun other hother => h other (List.mem_cons_of_mem _ hother)
    rw [List.map_cons, List.flatMap_cons, hrest, utf8EncodeChar_charOf b (h b List.mem_cons_self)]
    rfl

theorem bytesOf_encode (text : String) :
    bytesOf (encode text) = (bytesOf text).flatMap encodeByte := by
  unfold encode
  rw [bytesOf_ofList]
  exact flatMap_charOf (written_bytes text)

/-- **Reading the written form of a text gives the text back.** -/
theorem decode?_encode (text : String) : decode? (encode text) = some text := by
  rw [decode?, bytesOf_encode, decodeBytes_flatMap, fromUTF8?_eq_some]

/-- **Reading takes back what writing made**, for every text. -/
theorem decode_encode (text : String) : decode (encode text) = text := by
  rw [decode, decode?_encode]
  rfl

/-- **A written form has only letters, digits, marks and escapes.** -/
theorem mem_encode {text : String} {c : Char} (hc : c ∈ (encode text).toList) :
    c.isAlphanum ∨ c ∈ ['-', '_', '.', '~', '%'] := by
  unfold encode at hc
  rw [String.toList_ofList] at hc
  obtain ⟨b, hb, rfl⟩ := List.mem_map.mp hc
  exact charOf_isWritten b (written_bytes text b hb)

/-- A written form is made of letters, digits and five marks. -/
theorem not_mem_encode (text : String) {c : Char} (halphanum : c.isAlphanum = false)
    (hmark : c ∉ ['-', '_', '.', '~', '%']) : c ∉ (encode text).toList := by
  intro hc
  rcases mem_encode hc with h | h
  · rw [halphanum] at h
    cases h
  · exact hmark h

theorem encode_eq_empty {text : String} : encode text = "" ↔ text = "" := by
  constructor
  · intro h
    have htext := decode_encode text
    rw [h] at htext
    exact htext.symm
  · rintro rfl
    rfl

/-- A text that is not empty does not read as an empty one. -/
theorem decode_eq_empty {text : String} : decode text = "" ↔ text = "" := by
  constructor
  · intro h
    unfold decode at h
    cases hdecode : decode? text with
    | none =>
      rw [hdecode] at h
      exact h
    | some read =>
      rw [hdecode] at h
      change read = "" at h
      subst h
      have hbytes := fromUTF8?_eq_some.mp hdecode
      have hempty : bytesOf "" = [] := rfl
      rw [hempty] at hbytes
      exact bytesOf_eq_nil.mp (decodeBytes_eq_nil hbytes)
  · rintro rfl
    rfl

end Routing.Text.Percent
