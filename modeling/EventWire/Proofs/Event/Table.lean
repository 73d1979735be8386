import EventWire.Event.Registry
import EventWire.Proofs.Event.Field

namespace EventWire

/-!
# Bodies read back

A table whose fields belong to a record's schema makes a body of the record, and
reading the body with the same table sets each of its fields to the value it had.
A field that occurs twice is written and set twice, to the same value.
-/

namespace Field

variable {record : Record} {field : Field}

theorem get_of_owner
    (owned : field.owner = record.schema) :
    field.get record = record.values[field.slot.val]? :=
  if_pos owned.symm

/-- Only a record of the field's schema has a value for the field. -/
theorem owner_of_get
    {value : FieldValue}
    (found : field.get record = some value) :
    field.owner = record.schema := by
  rw [get] at found
  split at found
  · next same => exact same.symm
  · exact nomatch found

/-- Only an event that is such a record has one. -/
theorem exists_record_of_getFrom
    {event : Event}
    {value : FieldValue}
    (found : field.getFrom event = some value) :
    ∃ record,
      event = .record record ∧ field.owner = record.schema ∧ field.get record = some value := by
  cases event with
  | raw octets => exact nomatch found
  | record record => exact ⟨record, rfl, owner_of_get found, found⟩

theorem length_values (record : Record) :
    record.values.length = record.schema.fields.length := by
  have lengths := congrArg List.length record.kinds_eq
  rwa [List.length_map, List.length_map] at lengths

theorem slot_lt_length
    (owned : field.owner = record.schema) :
    field.slot.val < record.values.length := by
  rw [length_values, ← owned]
  exact field.slot.isLt

/-- A record has a value for each field of its schema, and it is of the field's kind. -/
theorem exists_get_of_owner
    (owned : field.owner = record.schema) :
    ∃ value, field.get record = some value ∧ value.kind = field.kind := by
  have inside := slot_lt_length owned
  refine ⟨record.values[field.slot.val], ?_, ?_⟩
  · rw [get_of_owner owned, List.getElem?_eq_getElem inside]
  · obtain ⟨owner, slot⟩ := field
    subst owned
    have kinds := congrArg (·[slot.val]?) record.kinds_eq
    simpa [kind, inside] using kinds

theorem kind_of_get
    {value : FieldValue}
    (found : field.get record = some value) :
    value.kind = field.kind := by
  obtain ⟨other, same, fits⟩ := exists_get_of_owner (owner_of_get found)
  cases found.symm.trans same
  exact fits

/-- Setting a field of a record's schema changes this field and no other. -/
theorem exists_set_of_owner
    {value : FieldValue}
    (owned : field.owner = record.schema)
    (fits : value.kind = field.kind) :
    ∃ changed,
      field.set value record = some changed ∧
        changed.schema = record.schema ∧
        ∀ other : Field,
          other.owner = record.schema →
          other.get changed =
            if field.slot.val = other.slot.val then some value else other.get record := by
  obtain ⟨changed, isSet, alike, values⟩ :
      ∃ changed,
        field.set value record = some changed ∧
          changed.schema = record.schema ∧
          changed.values = record.values.set field.slot.val value :=
    ⟨_, dif_pos ⟨owned.symm, fits⟩, rfl, rfl⟩
  refine ⟨changed, isSet, alike, ?_⟩
  intro other ownedOther
  rw [get_of_owner (ownedOther.trans alike.symm), get_of_owner ownedOther, values,
    List.getElem?_set, if_pos (slot_lt_length owned)]

end Field

/-- Why a field keeps an event from having a body. -/
inductive Field.Refuses (field : Field) (event : Event) : EventError → Prop where
  /-- The event is no record of the field's schema. -/
  | foreign
      (missing : field.getFrom event = none) :
      Refuses field event (.accessorMismatch event.eventType field.name)
  /-- The event has a text for the field that holds a NUL. -/
  | unclean
      {text : String}
      (found : field.getFrom event = some (.text text))
      (nul : '\x00' ∈ text.toList) :
      Refuses field event (.interiorNul field.name)

namespace Registry

section Bodies

variable {event : Event} {field : Field} {table : List Field} {value : FieldValue} {body : Bytes}

theorem encodeFields_cons
    (found : field.getFrom event = some value)
    (clean : value.holdsNul = false) :
    encodeFields event (field :: table) = (encodeFields event table).map (value.encode ++ ·) := by
  rw [encodeFields, found]
  simp only [clean, Bool.false_eq_true, ↓reduceIte]

/-- A field keeps an event from having a body, or its value stands in front of the rest. -/
theorem encodeFields_cons_cases (event : Event) (field : Field) (table : List Field) :
    (∃ error,
        field.Refuses event error ∧ encodeFields event (field :: table) = .error error) ∨
      ∃ value,
        field.getFrom event = some value ∧
          value.holdsNul = false ∧
          encodeFields event (field :: table) =
            (encodeFields event table).map (value.encode ++ ·) := by
  cases found : field.getFrom event with
  | none => exact .inl ⟨_, .foreign found, by rw [encodeFields, found]⟩
  | some value =>
      cases clean : value.holdsNul with
      | false => exact .inr ⟨value, rfl, clean, encodeFields_cons found clean⟩
      | true =>
          refine .inl ⟨.interiorNul field.name, ?_, ?_⟩
          · cases value with
            | text text => exact .unclean found (List.contains_iff_mem.mp clean)
            | _ => exact nomatch clean
          · rw [encodeFields, found]
            exact if_pos clean

theorem encodeFields_cons_eq_ok_iff :
    encodeFields event (field :: table) = .ok body ↔
      ∃ value behind,
        field.getFrom event = some value ∧
          value.holdsNul = false ∧
          encodeFields event table = .ok behind ∧ body = value.encode ++ behind := by
  constructor
  · intro encoded
    rcases encodeFields_cons_cases event field table with
      ⟨error, -, failed⟩ | ⟨value, found, clean, rest⟩
    · exact nomatch failed.symm.trans encoded
    · rw [rest] at encoded
      cases encodedRest : encodeFields event table with
      | error error =>
          rw [encodedRest] at encoded
          exact nomatch encoded
      | ok behind =>
          rw [encodedRest] at encoded
          cases encoded
          exact ⟨value, behind, found, clean, rfl, rfl⟩
  · rintro ⟨value, behind, found, clean, encoded, rfl⟩
    rw [encodeFields_cons found clean, encoded]
    rfl

end Bodies

variable {record : Record} {table : List Field}

/-- The fields of a table are those of a record's schema, and can be read back. -/
structure Readable (record : Record) (table : List Field) : Prop where
  owned : ∀ field ∈ table, field.owner = record.schema
  legible : ∀ field ∈ table, ∀ value ∈ field.get record, value.isLegible = true

/-- A record whose values are legible can be read back by the table of its schema. -/
theorem readable_table
    (legible : ∀ value ∈ record.values, value.isLegible = true) :
    Readable record record.schema.table := by
  have owned : ∀ field ∈ record.schema.table, field.owner = record.schema := by
    intro field member
    obtain ⟨slot, -, rfl⟩ := List.mem_map.mp member
    rfl
  refine ⟨owned, ?_⟩
  intro field member value found
  rw [Field.get_of_owner (owned field member)] at found
  exact legible value (List.mem_of_getElem? found)

section Known

variable {registry : Registry} {entry : Entry}

theorem value_serialize_of_entry
    {event : Event}
    (known : registry.lookup event.eventType = some entry) :
    (registry.serialize event).value = encodeFields event entry.table := by
  rw [serialize, known]
  dsimp only
  cases encodeFields event entry.table with
  | error error => rfl
  | ok body => rfl

theorem value_deserialize_of_entry
    {eventType : EventType}
    (known : registry.lookup eventType = some entry)
    (body : Bytes) :
    (registry.deserialize eventType body).value =
      (decodeFields eventType entry.table entry.blank body).map Prod.fst := by
  rw [deserialize, known]
  dsimp only
  cases decodeFields eventType entry.table entry.blank body with
  | error error => rfl
  | ok read => rfl

end Known

theorem holdsNul_of_isLegible
    {value : FieldValue}
    (legible : value.isLegible = true) :
    value.holdsNul = false := by
  cases value <;> simp_all [FieldValue.isLegible, FieldValue.holdsNul]

theorem Readable.exists_encodeFields
    (readable : Readable record table) :
    ∃ body, encodeFields (.record record) table = .ok body := by
  obtain ⟨owned, legible⟩ := readable
  induction table with
  | nil => exact ⟨[], rfl⟩
  | cons field rest inductionHypothesis =>
      rw [List.forall_mem_cons] at owned legible
      obtain ⟨value, found, -⟩ := Field.exists_get_of_owner owned.1
      obtain ⟨body, encoded⟩ := inductionHypothesis owned.2 legible.2
      refine ⟨value.encode ++ body, ?_⟩
      rw [@encodeFields_cons (.record record) _ _ _ found
        (holdsNul_of_isLegible (legible.1 value found)), encoded]
      rfl

/-- Reading what was written sets each field of the table to the value it had. -/
theorem Readable.exists_decodeFields
    {body : Bytes}
    (readable : Readable record table)
    (encoded : encodeFields (.record record) table = .ok body)
    (eventType : EventType)
    {blank : Record}
    (alike : blank.schema = record.schema)
    (rest : Bytes) :
    ∃ read,
      decodeFields eventType table blank (body ++ rest) = .ok (read, rest) ∧
        read.schema = record.schema ∧
        (∀ field ∈ table, field.get read = field.get record) ∧
        ∀ other : Field,
          other.owner = record.schema →
          other.get blank = other.get record →
          other.get read = other.get record := by
  induction table generalizing blank body with
  | nil =>
      cases encoded
      exact ⟨blank, rfl, alike, nofun, fun _ _ same => same⟩
  | cons field table inductionHypothesis =>
      obtain ⟨owned, legible⟩ := readable
      rw [List.forall_mem_cons] at owned legible
      obtain ⟨value, found, fits⟩ := Field.exists_get_of_owner owned.1
      obtain ⟨behind, encodedBehind⟩ := Readable.exists_encodeFields ⟨owned.2, legible.2⟩
      rw [@encodeFields_cons (.record record) _ _ _ found
        (holdsNul_of_isLegible (legible.1 value found)), encodedBehind] at encoded
      cases encoded
      have ownedBlank : field.owner = blank.schema := owned.1.trans alike.symm
      obtain ⟨changed, isSet, alikeChanged, getChanged⟩ := Field.exists_set_of_owner ownedBlank fits
      obtain ⟨read, decoded, alikeRead, agreesRead, keeps⟩ :=
        inductionHypothesis ⟨owned.2, legible.2⟩ encodedBehind (alikeChanged.trans alike)
      -- A field of the same slot is set to the same value, so it is right from here on.
      have settled :
          ∀ other : Field,
            other.owner = record.schema →
            field.slot.val = other.slot.val ∨ other.get blank = other.get record →
            other.get read = other.get record := by
        intro other ownedOther known
        apply keeps other ownedOther
        rw [getChanged other (ownedOther.trans alike.symm)]
        split_ifs with sameSlot
        · rw [← found, Field.get_of_owner owned.1, Field.get_of_owner ownedOther, sameSlot]
        · exact known.resolve_left sameSlot
      refine ⟨read, ?_, alikeRead, ?_, ?_⟩
      · rw [decodeFields, List.append_assoc, ← fits,
          FieldValue.decode_encode (legible.1 value found)]
        simp only [isSet]
        exact decoded
      · rw [List.forall_mem_cons]
        exact ⟨settled field owned.1 (.inl rfl), agreesRead⟩
      · intro other ownedOther same
        exact settled other ownedOther (.inr same)

end Registry

end EventWire
