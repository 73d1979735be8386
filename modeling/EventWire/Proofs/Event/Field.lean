import EventWire.Event.Field
import EventWire.Proofs.BigEndian
import EventWire.Proofs.Binary64.Text

namespace EventWire

/-!
# Field values read back

Reading the wire form of a value gives the value and leaves what stands behind
it.  A text is closed by the first NUL, so it must hold none; a double is read
as the numeral it was written as, so it must be a number.
-/

namespace Text.Lossy

theorem announced?_of_lt
    {lead : UInt8}
    (plain : lead < 0x80) :
    announced? lead = some (lead.toNat, []) := by
  rw [announced?, if_pos plain]

/-- Octets of plain characters are read as these characters. -/
theorem foldl_step_of_plain
    {characters : List Char}
    (plain : ∀ character ∈ characters, Binary64.IsPlain character)
    (read : List Char) :
    (characters.map fun character => UInt8.ofNat character.toNat).foldl State.step
        ⟨read, none⟩ =
      ⟨characters.reverse ++ read, none⟩ := by
  induction characters generalizing read with
  | nil => rfl
  | cons character rest inductionHypothesis =>
      rw [List.forall_mem_cons] at plain
      obtain ⟨⟨-, small⟩, plainRest⟩ := plain
      have value : (UInt8.ofNat character.toNat).toNat = character.toNat := by
        rw [UInt8.toNat_ofNat']
        omega
      have octet : UInt8.ofNat character.toNat < 0x80 := by
        rw [UInt8.lt_iff_toNat_lt, value]
        exact small
      have stepped :
          State.step ⟨read, none⟩ (UInt8.ofNat character.toNat) = ⟨character :: read, none⟩ := by
        simp only [State.step, State.lead, announced?_of_lt octet, value, Char.ofNat_toNat]
      rw [List.map_cons, List.foldl_cons, stepped, inductionHypothesis plainRest]
      simp

theorem decode_of_plain
    {characters : List Char}
    (plain : ∀ character ∈ characters, Binary64.IsPlain character) :
    decode (characters.map fun character => UInt8.ofNat character.toNat) = characters := by
  rw [decode, foldl_step_of_plain plain, List.append_nil]
  simp [State.finish]

end Text.Lossy

namespace FieldValue

section Texts

theorem textBytes_ofList (characters : List Char) :
    textBytes (String.ofList characters) = characters.flatMap String.utf8EncodeChar := by
  rw [textBytes, String.toUTF8_eq_toByteArray, String.toByteArray_ofList, List.utf8Encode,
    List.toList_data_toByteArray]

theorem textBytes_eq (text : String) :
    textBytes text = text.toList.flatMap String.utf8EncodeChar := by
  rw [← textBytes_ofList, String.ofList_toList]

/-- UTF-8 is read back. -/
theorem fromUTF8?_textBytes (text : String) :
    String.fromUTF8? (textBytes text).toByteArray = some text := by
  have octets : (textBytes text).toByteArray = text.toByteArray := by
    apply ByteArray.ext
    rw [List.data_toByteArray]
    rfl
  rw [octets, String.fromUTF8?, dif_pos text.isValidUTF8]
  rfl

theorem ofNat_ne_zero_of_mod
    {number : Nat}
    (positive : 0 < number % 256) :
    UInt8.ofNat number ≠ 0 := by
  intro zero
  have value := congrArg UInt8.toNat zero
  rw [UInt8.toNat_ofNat'] at value
  exact absurd value (Nat.ne_of_gt positive)

/-- Only a NUL is written with the octet zero. -/
theorem ne_zero_of_mem_utf8EncodeChar
    {character : Char}
    (noNul : character ≠ '\x00') :
    ∀ octet ∈ String.utf8EncodeChar character, octet ≠ 0 := by
  have positive : 0 < character.val.toNat := by
    refine Nat.pos_of_ne_zero fun zero => noNul ?_
    exact Char.toNat_inj.mp zero
  fun_cases String.utf8EncodeChar character with
  | case1 small =>
      rw [List.forall_mem_singleton]
      exact ofNat_ne_zero_of_mod (by omega)
  | case2 =>
      rw [List.forall_mem_cons, List.forall_mem_singleton]
      exact ⟨ofNat_ne_zero_of_mod (by omega), ofNat_ne_zero_of_mod (by omega)⟩
  | case3 =>
      rw [List.forall_mem_cons, List.forall_mem_cons, List.forall_mem_singleton]
      exact ⟨ofNat_ne_zero_of_mod (by omega), ofNat_ne_zero_of_mod (by omega),
        ofNat_ne_zero_of_mod (by omega)⟩
  | case4 =>
      rw [List.forall_mem_cons, List.forall_mem_cons, List.forall_mem_cons,
        List.forall_mem_singleton]
      exact ⟨ofNat_ne_zero_of_mod (by omega), ofNat_ne_zero_of_mod (by omega),
        ofNat_ne_zero_of_mod (by omega), ofNat_ne_zero_of_mod (by omega)⟩

theorem ne_zero_of_mem_textBytes
    {text : String}
    (noNul : '\x00' ∉ text.toList) :
    ∀ octet ∈ textBytes text, octet ≠ 0 := by
  intro octet member
  rw [textBytes_eq, List.mem_flatMap] at member
  obtain ⟨character, present, member⟩ := member
  refine ne_zero_of_mem_utf8EncodeChar ?_ octet member
  rintro rfl
  exact noNul present

theorem utf8EncodeChar_of_plain
    {character : Char}
    (plain : Binary64.IsPlain character) :
    String.utf8EncodeChar character = [UInt8.ofNat character.toNat] := by
  have small : character.val.toNat ≤ 127 := Nat.le_of_lt_succ plain.2
  exact if_pos small

theorem textBytes_of_plain
    {characters : List Char}
    (plain : ∀ character ∈ characters, Binary64.IsPlain character) :
    textBytes (String.ofList characters) =
      characters.map fun character => UInt8.ofNat character.toNat := by
  rw [textBytes_ofList]
  induction characters with
  | nil => rfl
  | cons character rest inductionHypothesis =>
      rw [List.forall_mem_cons] at plain
      rw [List.flatMap_cons, List.map_cons, utf8EncodeChar_of_plain plain.1,
        inductionHypothesis plain.2, List.singleton_append]

/-- What is closed by a NUL and holds none is read up to it. -/
theorem readTerminated_append
    {octets : Bytes}
    (noNul : ∀ octet ∈ octets, octet ≠ 0)
    (field : String)
    (rest : Bytes) :
    readTerminated field (octets ++ [0] ++ rest) = (.ok octets, rest) := by
  have split : (octets ++ 0 :: rest).span (· ≠ 0) = (octets, 0 :: rest) := by
    apply span_append
    · intro octet member
      exact decide_eq_true (noNul octet member)
    · intro octet first
      cases first
      rfl
  rw [List.append_assoc, List.singleton_append, readTerminated, split]

end Texts

/-- Whether the wire form of a value can be read back. -/
def isLegible : FieldValue → Bool
  | text value => !value.toList.contains '\x00'
  | double value => !value.isNaN
  | _ => true

/-- Two halves of a word are those of the word. -/
theorem join_halves (word : UInt64) :
    ((word >>> 32).toUInt32.toUInt64 <<< 32) ||| word.toUInt32.toUInt64 = word := by
  apply UInt64.toNat_inj.mp
  have bound := word.toNat_lt
  have low : word.toNat % 2 ^ 32 < 2 ^ 32 := Nat.mod_lt _ (by decide)
  simp only [UInt64.toNat_or, UInt64.toNat_shiftLeft, UInt32.toNat_toUInt64,
    UInt64.toNat_toUInt32, UInt64.toNat_shiftRight, UInt64.reduceToNat, Nat.reduceMod]
  rw [Nat.mod_eq_of_lt (b := 2 ^ 64), ← Nat.shiftLeft_add_eq_or_of_lt low]
  · simp only [Nat.shiftLeft_eq, Nat.shiftRight_eq_div_pow]
    omega
  · simp only [Nat.shiftLeft_eq, Nat.shiftRight_eq_div_pow]
    omega

theorem read32_encode32
    (field : String)
    (word : UInt32)
    (rest : Bytes) :
    read32 field (BigEndian.encode32 word ++ rest) = (.ok word, rest) := by
  change (Except.ok (BigEndian.decode32 _ _ _ _), rest) = _
  rw [BigEndian.decode32_encode32]

theorem nul_not_mem_text (number : Binary64) :
    '\x00' ∉ (String.ofList number.text).toList := by
  rw [String.toList_ofList]
  intro member
  exact absurd (number.isPlain_text _ member).1 (by decide)

/-- A double is read back as what its text reads as. -/
theorem decode_encode_double
    {number read : Binary64}
    (readBack : Binary64.read? number.text = some read)
    (field : String)
    (rest : Bytes) :
    decode .double field ((FieldValue.double number).encode ++ rest) =
      (.ok (.double read), rest) := by
  have plain := number.isPlain_text
  simp only [encode, decode,
    readTerminated_append (ne_zero_of_mem_textBytes (nul_not_mem_text number)),
    Reading.convert, Except.bind]
  simp only [readDouble, textBytes_of_plain plain, Text.Lossy.decode_of_plain plain, readBack]
  rfl

/-- A value is read back from its wire form, and what stands behind it is left. -/
theorem decode_encode
    {value : FieldValue}
    (legible : value.isLegible = true)
    (field : String)
    (rest : Bytes) :
    decode value.kind field (value.encode ++ rest) = (.ok value, rest) := by
  cases value with
  | boolean value => cases value <;> rfl
  | short value =>
      change (Except.ok (FieldValue.short (BigEndian.decode16 _ _)), rest) = _
      rw [BigEndian.decode16_encode16]
  | signed value =>
      simp only [kind, encode, decode, read32_encode32, Reading.convert]
      rfl
  | unsigned value =>
      simp only [kind, encode, decode, read32_encode32, Reading.convert]
      rfl
  | timestamp value =>
      simp only [kind, encode, decode, read64, List.append_assoc, read32_encode32, join_halves,
        Reading.convert]
      rfl
  | text value =>
      have noNul : '\x00' ∉ value.toList := by simpa [isLegible] using legible
      simp only [kind, encode, decode, readTerminated_append (ne_zero_of_mem_textBytes noNul),
        Reading.convert, Except.bind, readText, fromUTF8?_textBytes]
      rfl
  | double value =>
      have isNumber : value.isNaN = false := by simpa [isLegible] using legible
      exact decode_encode_double (Binary64.read?_text isNumber) field rest

end FieldValue

end EventWire
