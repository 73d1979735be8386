import EventWire.Proofs.Event.Values

namespace EventWire

/-!
# How much of a body is read

A body that is cut short cannot be read: the first field that is no longer whole
says that the octets ended too early.  Whatever else reading a body comes to, it
came to it by looking at the front of the body only, so more octets behind it
change nothing.
-/

/-- The field that octets ended in too early, if that is what went wrong. -/
def EventError.cutField? : EventError → Option String
  | .truncated field _ _ => some field
  | .missingTerminator field => some field
  | _ => none

/-- A result that does not say that octets ended too early. -/
def Conclusive {Value : Type} (result : Except EventError Value) : Prop :=
  ∀ error, result = .error error → error.cutField? = none

/-- A result that says that octets ended in a field. -/
def CutIn {Value : Type} (field : String) (result : Except EventError Value) : Prop :=
  ∃ error, result = .error error ∧ error.cutField? = some field

@[simp] theorem conclusive_error {Value : Type} (error : EventError) :
    Conclusive (.error error : Except EventError Value) ↔ error.cutField? = none := by
  constructor
  · exact fun conclusive => conclusive error rfl
  · rintro uncut _ ⟨⟩
    exact uncut

@[simp] theorem conclusive_ok {Value : Type} (value : Value) :
    Conclusive (.ok value : Except EventError Value) := by
  intro error failed
  cases failed

namespace FieldValue

section Extending

variable {Raw Value : Type}

/-- A conclusive reading stays the same when more octets stand behind, which it leaves. -/
def FrontOnly (read : Bytes → Reading Value) : Prop :=
  ∀ input,
    Conclusive (read input).1 →
    ∀ extra, read (input ++ extra) = ((read input).1, (read input).2 ++ extra)

theorem FrontOnly.convert
    {read : Bytes → Reading Raw}
    (frontOnly : FrontOnly read)
    (change : Raw → Except EventError Value) :
    FrontOnly fun input => Reading.convert (read input) change := by
  intro input conclusive extra
  have conclusiveRaw : Conclusive (read input).1 := by
    intro error failed
    apply conclusive error
    change (read input).1.bind change = .error error
    rw [failed]
    rfl
  change Reading.convert (read (input ++ extra)) change = _
  rw [frontOnly input conclusiveRaw]
  rfl

variable (field : String)

theorem frontOnly_read8 : FrontOnly (read8 field) := by
  intro input conclusive extra
  cases input with
  | nil => exact nomatch conclusive _ rfl
  | cons octet rest => rfl

theorem frontOnly_read16 : FrontOnly (read16 field) := by
  intro input conclusive extra
  match input with
  | [] => exact nomatch conclusive _ rfl
  | [_] => exact nomatch conclusive _ rfl
  | _ :: _ :: _ => rfl

theorem frontOnly_read32 : FrontOnly (read32 field) := by
  intro input conclusive extra
  match input with
  | [] => exact nomatch conclusive _ rfl
  | [_] => exact nomatch conclusive _ rfl
  | [_, _] => exact nomatch conclusive _ rfl
  | [_, _, _] => exact nomatch conclusive _ rfl
  | _ :: _ :: _ :: _ :: _ => rfl

theorem frontOnly_read64 : FrontOnly (read64 field) := by
  intro input conclusive extra
  have high := frontOnly_read32 field input
  rcases readHigh : read32 field input with ⟨_ | word, behind⟩
  · rw [readHigh] at high
    simp only [read64, readHigh, conclusive_error] at conclusive high ⊢
    rw [high conclusive extra]
  · rw [readHigh] at high
    have low := frontOnly_read32 field behind
    simp only [read64, readHigh] at conclusive high ⊢
    rw [high (conclusive_ok word) extra]
    rcases readLow : read32 field behind with ⟨_ | _, rest⟩
    · simp only [readLow, conclusive_error] at conclusive low ⊢
      rw [low conclusive extra]
    · simp only [readLow] at low ⊢
      rw [low (conclusive_ok _) extra]

/-- Without a NUL there is no text. -/
theorem readTerminated_of_unclosed
    {input : Bytes}
    (unclosed : 0 ∉ input) :
    readTerminated field input = (.error (.missingTerminator field), input) := by
  have all : ∀ octet ∈ input, decide (octet ≠ 0) = true := by
    intro octet member
    exact decide_eq_true fun zero => unclosed (zero ▸ member)
  rw [readTerminated, span_of_forall all]

theorem frontOnly_readTerminated : FrontOnly (readTerminated field) := by
  intro input conclusive extra
  by_cases closed : (0 : UInt8) ∈ input
  · obtain ⟨octets, rest, rfl, noNul⟩ := List.eq_append_cons_of_mem closed
    have plain : ∀ octet ∈ octets, octet ≠ 0 := fun _ member zero => noNul (zero ▸ member)
    rw [List.append_cons, List.append_assoc, readTerminated_append plain,
      readTerminated_append plain]
  · rw [readTerminated_of_unclosed field closed] at conclusive
    exact nomatch conclusive _ rfl

/-- What a value is read as does not depend on the octets behind it. -/
theorem frontOnly_decode (kind : FieldKind) : FrontOnly (decode kind field) := by
  cases kind with
  | boolean => exact (frontOnly_read8 field).convert _
  | short => exact (frontOnly_read16 field).convert _
  | signed => exact (frontOnly_read32 field).convert _
  | unsigned => exact (frontOnly_read32 field).convert _
  | timestamp => exact (frontOnly_read64 field).convert _
  | text => exact (frontOnly_readTerminated field).convert _
  | double => exact (frontOnly_readTerminated field).convert _

end Extending

section Cutting

variable {value : FieldValue} {part : Bytes}

/-- A value without a NUL is read back as a value of its kind, be it a number or not. -/
theorem exists_decode_encode
    (clean : value.holdsNul = false)
    (field : String)
    (rest : Bytes) :
    ∃ read,
      decode value.kind field (value.encode ++ rest) = (.ok read, rest) ∧
        read.kind = value.kind := by
  cases value with
  | double number =>
      obtain ⟨read, readBack⟩ := number.exists_read?_text
      exact ⟨.double read, decode_encode_double readBack field rest, rfl⟩
  | text text =>
      have legible : (FieldValue.text text).isLegible = true := by
        rw [isLegible, ← holdsNul, clean]
        rfl
      exact ⟨_, decode_encode legible field rest, rfl⟩
  | _ => exact ⟨_, decode_encode rfl field rest, rfl⟩

theorem cutIn_convert
    {Raw Value : Type}
    {field : String}
    {reading : Reading Raw}
    (cut : CutIn field reading.1)
    (change : Raw → Except EventError Value) :
    CutIn field (Reading.convert reading change).1 := by
  obtain ⟨error, failed, named⟩ := cut
  refine ⟨error, ?_, named⟩
  change reading.1.bind change = .error error
  rw [failed]
  rfl

section Words

variable (field : String)

theorem cutIn_read8 (short : part.length < 1) : CutIn field (read8 field part).1 := by
  match part with
  | [] => exact ⟨_, rfl, rfl⟩

theorem cutIn_read16 (short : part.length < 2) : CutIn field (read16 field part).1 := by
  match part with
  | [] => exact ⟨_, rfl, rfl⟩
  | [_] => exact ⟨_, rfl, rfl⟩

theorem cutIn_read32 (short : part.length < 4) : CutIn field (read32 field part).1 := by
  match part with
  | [] => exact ⟨_, rfl, rfl⟩
  | [_] => exact ⟨_, rfl, rfl⟩
  | [_, _] => exact ⟨_, rfl, rfl⟩
  | [_, _, _] => exact ⟨_, rfl, rfl⟩

/-- Of two words either may be the one that has not all arrived. -/
theorem cutIn_read64 (short : part.length < 8) : CutIn field (read64 field part).1 := by
  match part with
  | [] => exact ⟨_, rfl, rfl⟩
  | [_] => exact ⟨_, rfl, rfl⟩
  | [_, _] => exact ⟨_, rfl, rfl⟩
  | [_, _, _] => exact ⟨_, rfl, rfl⟩
  | first :: second :: third :: fourth :: low =>
      have shortLow : low.length < 4 := by
        simp only [List.length_cons] at short
        omega
      obtain ⟨error, failed, named⟩ := cutIn_read32 field shortLow
      refine ⟨error, ?_, named⟩
      rcases readLow : read32 field low with ⟨_ | _, _⟩
      · rw [readLow] at failed
        cases failed
        have readHigh :
            read32 field (first :: second :: third :: fourth :: low) = (.ok _, low) := rfl
        simp only [read64, readHigh, readLow]
      · rw [readLow] at failed
        cases failed

/-- Octets that begin a text closed by a NUL and end before the NUL hold none. -/
theorem cutIn_readTerminated
    {octets : Bytes}
    (noNul : ∀ octet ∈ octets, octet ≠ 0)
    (begins : part <+: octets ++ [0])
    (short : part.length < (octets ++ [0]).length) :
    CutIn field (readTerminated field part).1 := by
  have within : part <+: octets := by
    refine List.prefix_of_prefix_length_le begins (List.prefix_append ..) ?_
    rw [List.length_append, List.length_singleton] at short
    exact Nat.le_of_lt_succ short
  have unclosed : 0 ∉ part := fun member => noNul 0 (within.subset member) rfl
  rw [readTerminated_of_unclosed field unclosed]
  exact ⟨_, rfl, rfl⟩

end Words

/-- Where the wire form of a value has not all arrived, its field is cut. -/
theorem cutIn_decode
    (clean : value.holdsNul = false)
    (begins : part <+: value.encode)
    (short : part.length < value.encode.length)
    (field : String) :
    CutIn field (decode value.kind field part).1 := by
  cases value with
  | boolean _ => exact cutIn_convert (cutIn_read8 field short) _
  | short _ => exact cutIn_convert (cutIn_read16 field short) _
  | signed _ => exact cutIn_convert (cutIn_read32 field short) _
  | unsigned _ => exact cutIn_convert (cutIn_read32 field short) _
  | timestamp _ => exact cutIn_convert (cutIn_read64 field short) _
  | text text =>
      have noNul : '\x00' ∉ text.toList := by
        rw [← List.contains_iff_mem]
        exact Bool.eq_false_iff.mp clean
      exact cutIn_convert
        (cutIn_readTerminated field (ne_zero_of_mem_textBytes noNul) begins short) _
  | double number =>
      have noNul := ne_zero_of_mem_textBytes (nul_not_mem_text number)
      exact cutIn_convert (cutIn_readTerminated field noNul begins short) _

end Cutting

end FieldValue

namespace Registry

section Bodies

variable {eventType : EventType} {table : List Field} {body : Bytes}

/-- What fields are read as does not depend on the octets behind them. -/
theorem decodeFields_append
    {record : Record}
    (conclusive : Conclusive (decodeFields eventType table record body))
    (extra : Bytes) :
    decodeFields eventType table record (body ++ extra) =
      (decodeFields eventType table record body).map fun read => (read.1, read.2 ++ extra) := by
  induction table generalizing record body with
  | nil => rfl
  | cons field others inductionHypothesis =>
      have longer := FieldValue.frontOnly_decode field.name field.kind body
      rw [decodeFields] at conclusive ⊢
      rw [decodeFields]
      rcases decoded : FieldValue.decode field.kind field.name body with ⟨_ | value, behind⟩
      · simp only [decoded, conclusive_error] at conclusive longer
        rw [longer conclusive]
        rfl
      · rw [decoded] at longer
        rw [longer (conclusive_ok value)]
        simp only [decoded] at conclusive ⊢
        cases isSet : field.set value record with
        | none => rfl
        | some changed =>
            rw [isSet] at conclusive
            exact inductionHypothesis conclusive

section Front

variable {event : Event} {field : Field} {value : FieldValue} {blank : Record}
  {others : List Field} {part : Bytes}

variable
  (owned : field.owner = blank.schema)
  (found : field.getFrom event = some value)
  (clean : value.holdsNul = false)

include found in
theorem kind_of_getFrom : value.kind = field.kind := by
  obtain ⟨_, -, -, got⟩ := Field.exists_record_of_getFrom found
  exact Field.kind_of_get got

include owned found clean in
/-- A field whose octets are all there is read and set, and the others are read behind it. -/
theorem exists_decodeFields_behind (eventType : EventType) (others : List Field) (rest : Bytes) :
    ∃ changed,
      changed.schema = blank.schema ∧
        decodeFields eventType (field :: others) blank (value.encode ++ rest) =
          decodeFields eventType others changed rest := by
  have fits := kind_of_getFrom found
  obtain ⟨read, decoded, sameKind⟩ := FieldValue.exists_decode_encode clean field.name rest
  obtain ⟨changed, isSet, alike, -⟩ := Field.exists_set_of_owner owned (sameKind.trans fits)
  refine ⟨changed, alike, ?_⟩
  rw [decodeFields, ← fits, decoded]
  simp only [isSet]

include found clean in
/-- A field whose octets are not all there ends the reading of a body. -/
theorem cutIn_decodeFields
    (begins : part <+: value.encode)
    (short : part.length < value.encode.length) :
    CutIn field.name (decodeFields eventType (field :: others) blank part) := by
  obtain ⟨error, failed, named⟩ := FieldValue.cutIn_decode clean begins short field.name
  rw [kind_of_getFrom found] at failed
  refine ⟨error, ?_, named⟩
  rcases decoded : FieldValue.decode field.kind field.name part with ⟨result, rest⟩
  rw [decoded] at failed
  obtain rfl := failed
  rw [decodeFields, decoded]

end Front

/--
A body that is cut short is cut in the first field whose octets are not all
there, and this is what reading it says.
-/
theorem exists_cut_of_strict
    {event : Event}
    {blank : Record}
    {part : Bytes}
    (owned : ∀ field ∈ table, field.owner = blank.schema)
    (encoded : encodeFields event table = .ok body)
    (begins : part <+: body)
    (short : part.length < body.length) :
    ∃ earlier field later front value,
      table = earlier ++ field :: later ∧
        encodeFields event earlier = .ok front ∧
        field.getFrom event = some value ∧
        front.length ≤ part.length ∧
        part.length < front.length + value.encode.length ∧
        CutIn field.name (decodeFields eventType table blank part) := by
  induction table generalizing body blank part with
  | nil =>
      cases encoded
      exact absurd short (Nat.not_lt_zero _)
  | cons first others inductionHypothesis =>
      rw [List.forall_mem_cons] at owned
      obtain ⟨value, behind, found, clean, encodedBehind, rfl⟩ :=
        encodeFields_cons_eq_ok_iff.mp encoded
      by_cases whole : value.encode.length ≤ part.length
      · obtain ⟨rest, rfl⟩ :=
          List.prefix_of_prefix_length_le (List.prefix_append ..) begins whole
        rw [List.prefix_append_right_inj] at begins
        rw [List.length_append, List.length_append, Nat.add_lt_add_iff_left] at short
        obtain ⟨changed, alike, decoded⟩ :=
          exists_decodeFields_behind owned.1 found clean eventType others rest
        have ownedBehind : ∀ field ∈ others, field.owner = changed.schema := by
          rw [alike]
          exact owned.2
        obtain ⟨earlier, field, later, front, cutValue, rfl, upTo, foundCut, inside, outside,
          cut⟩ := inductionHypothesis ownedBehind encodedBehind begins short
        refine ⟨first :: earlier, field, later, value.encode ++ front, cutValue, rfl, ?_, foundCut,
          ?_, ?_, decoded ▸ cut⟩
        · rw [encodeFields_cons found clean, upTo]
          rfl
        · rw [List.length_append, List.length_append]
          exact Nat.add_le_add_left inside _
        · rw [List.length_append, List.length_append, Nat.add_assoc]
          exact Nat.add_lt_add_left outside _
      · rw [not_le] at whole
        have within : part <+: value.encode :=
          List.prefix_of_prefix_length_le begins (List.prefix_append ..) whole.le
        exact ⟨[], first, others, [], value, rfl, rfl, found, Nat.zero_le _,
          (Nat.zero_add _).symm ▸ whole, cutIn_decodeFields found clean within whole⟩

end Bodies

section Entries

variable {registry : Registry} {eventType : EventType} {body : Bytes}

theorem deserialize_append
    (conclusive : Conclusive (registry.deserialize eventType body).value)
    (extra : Bytes) :
    (registry.deserialize eventType (body ++ extra)).value =
      (registry.deserialize eventType body).value := by
  cases known : registry.lookup eventType with
  | none =>
      rw [deserialize, deserialize, known]
  | some entry =>
      simp only [value_deserialize_of_entry known] at conclusive ⊢
      have conclusiveFields :
          Conclusive (decodeFields eventType entry.table entry.blank body) := by
        intro error failed
        apply conclusive error
        rw [failed]
        rfl
      rw [decodeFields_append conclusiveFields]
      cases decodeFields eventType entry.table entry.blank body <;> rfl

theorem exists_cut_of_deserialize
    {event : Event}
    {entry : Entry}
    {part : Bytes}
    (known : registry.lookup event.eventType = some entry)
    (coherent : entry.Coherent)
    (serialized : (registry.serialize event).value = .ok body)
    (begins : part <+: body)
    (strict : part ≠ body) :
    ∃ earlier field later front value,
      entry.table = earlier ++ field :: later ∧
        encodeFields event earlier = .ok front ∧
        field.getFrom event = some value ∧
        front.length ≤ part.length ∧
        part.length < front.length + value.encode.length ∧
        CutIn field.name (registry.deserialize event.eventType part).value := by
  rw [value_serialize_of_entry known] at serialized
  have short : part.length < body.length :=
    begins.length_le.lt_of_ne fun same => strict (begins.eq_of_length same)
  obtain ⟨earlier, field, later, front, value, shape, upTo, found, inside, outside, error, failed,
      named⟩ :=
    @exists_cut_of_strict event.eventType _ _ _ _ _ coherent serialized begins short
  refine ⟨earlier, field, later, front, value, shape, upTo, found, inside, outside, error, ?_,
    named⟩
  rw [value_deserialize_of_entry known, failed]
  rfl

end Entries

/--
No strict beginning of an event's body can be read: the reading ends in the first
field whose octets are not all there.  Any result other than such an end stays
the same when more octets stand behind the body.
-/
theorem deserialize_cut_or_extended :
    (∀ (registry : Registry) (event : Event) (entry : Entry) (body part : Bytes),
      registry.lookup event.eventType = some entry →
      entry.Coherent →
      (registry.serialize event).value = .ok body →
      part <+: body →
      part ≠ body →
      ∃ earlier field later front value,
        entry.table = earlier ++ field :: later ∧
          encodeFields event earlier = .ok front ∧
          field.getFrom event = some value ∧
          front.length ≤ part.length ∧
          part.length < front.length + value.encode.length ∧
          CutIn field.name (registry.deserialize event.eventType part).value) ∧
      ∀ (registry : Registry) (eventType : EventType) (body extra : Bytes),
        Conclusive (registry.deserialize eventType body).value →
        (registry.deserialize eventType (body ++ extra)).value =
          (registry.deserialize eventType body).value := by
  constructor
  · intro registry event entry body part known coherent serialized begins strict
    exact exists_cut_of_deserialize known coherent serialized begins strict
  · intro registry eventType body extra conclusive
    exact deserialize_append conclusive extra

/-- A time that lost its last octet, and a text of no valid UTF-8 in front of more octets. -/
theorem deserialize_cut_or_extended_mixed :
    (∃ field ∈ Catalog.multi.table,
      CutIn field.name
        (mixedRegistry.deserialize mixed.eventType
          [1, 104, 195, 169, 0, 45, 48, 0, 0, 105, 110, 102, 0, 255, 255, 255, 255, 255, 255,
            255]).value) ∧
      (mixedRegistry.deserialize mixed.eventType ([1, 255, 0] ++ [0, 7])).value =
        .error (.invalidUtf8 "s1") := by
  obtain ⟨cut, extended⟩ := deserialize_cut_or_extended
  constructor
  · obtain ⟨earlier, field, later, _, _, shape, -, -, -, -, names⟩ :=
      cut mixedRegistry (.record mixed) (.ofSchema Catalog.multi)
        [1, 104, 195, 169, 0, 45, 48, 0, 0, 105, 110, 102, 0, 255, 255, 255, 255, 255, 255, 255,
          254]
        [1, 104, 195, 169, 0, 45, 48, 0, 0, 105, 110, 102, 0, 255, 255, 255, 255, 255, 255, 255]
        rfl (Entry.coherent_ofSchema Catalog.multi) rfl (by decide) (by decide)
    refine ⟨field, ?_, names⟩
    rw [show Catalog.multi.table = earlier ++ field :: later from shape]
    exact List.mem_append_right _ (List.mem_cons_self ..)
  · have failed :
        (mixedRegistry.deserialize mixed.eventType [1, 255, 0]).value =
          .error (.invalidUtf8 "s1") := rfl
    have conclusive :
        Conclusive (mixedRegistry.deserialize mixed.eventType [1, 255, 0]).value := by
      rw [failed, conclusive_error]
      rfl
    rw [extended mixedRegistry mixed.eventType [1, 255, 0] [0, 7] conclusive, failed]

end Registry

end EventWire
