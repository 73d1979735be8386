import EventWire.Catalog
import EventWire.Proofs.Event.Table

namespace EventWire

/-!
# Values one behind the other

No length is written in front of a value, so each has to be read up to exactly
the octet where its wire form ends.  Then any list of values can be read back by
their kinds, whatever stands behind them, and a body gives back the fields of
the event it was made of.
-/

namespace FieldValue

/-- The wire forms of values, one behind the other. -/
def encodeAll (values : List FieldValue) : Bytes :=
  values.flatMap encode

/-- Read named values of the given kinds one after the other; the first that fails ends it. -/
def decodeAll : List (String × FieldKind) → Bytes → Reading (List FieldValue)
  | [], input => (.ok [], input)
  | (field, kind) :: others, input =>
    match decode kind field input with
    | (.error error, rest) => (.error error, rest)
    | (.ok value, rest) =>
      Reading.convert (decodeAll others rest) fun values => .ok (value :: values)

/-- Values are read back from their wire forms, and what stands behind them is left. -/
theorem decodeAll_encodeAll
    {fields : List (String × FieldValue)}
    (legible : ∀ field ∈ fields, field.2.isLegible = true)
    (rest : Bytes) :
    decodeAll (fields.map fun field => (field.1, field.2.kind))
        (encodeAll (fields.map Prod.snd) ++ rest) =
      (.ok (fields.map Prod.snd), rest) := by
  induction fields with
  | nil => rfl
  | cons field others inductionHypothesis =>
      rw [List.forall_mem_cons] at legible
      have first :=
        decode_encode legible.1 field.1 (encodeAll (others.map Prod.snd) ++ rest)
      have behind := inductionHypothesis legible.2
      rw [List.map_cons, List.map_cons, decodeAll, encodeAll, List.flatMap_cons, ← encodeAll,
        List.append_assoc, first]
      simp only [behind]
      rfl

/-- Values of the same kinds are told apart by their wire forms. -/
theorem eq_of_encodeAll_eq
    {values others : List FieldValue}
    (alike : values.map kind = others.map kind)
    (legible : ∀ value ∈ values, value.isLegible = true)
    (legibleToo : ∀ value ∈ others, value.isLegible = true)
    (same : encodeAll values = encodeAll others) :
    values = others := by
  -- The names of fields serve errors only, so any will do.
  have readBack
      {list : List FieldValue}
      (legible : ∀ value ∈ list, value.isLegible = true) :
      (decodeAll ((list.map kind).map (Prod.mk "")) (encodeAll list)).1 = .ok list := by
    have unnamed : (list.map (Prod.mk "")).map Prod.snd = list := by
      rw [List.map_map]
      exact List.map_id list
    have decoded :=
      @decodeAll_encodeAll (list.map (Prod.mk "")) (List.forall_mem_map.mpr legible) []
    rw [List.append_nil, unnamed, List.map_map] at decoded
    rw [List.map_map]
    exact congrArg Prod.fst decoded
  have first := readBack legible
  rw [alike, same, readBack legibleToo] at first
  cases first
  rfl

end FieldValue

/-- The fields of an entry belong to the kind of record that the entry starts from. -/
def Entry.Coherent (entry : Entry) : Prop :=
  ∀ field ∈ entry.table, field.owner = entry.blank.schema

theorem Entry.coherent_ofSchema (schema : Schema) : (Entry.ofSchema schema).Coherent := by
  intro field member
  obtain ⟨slot, -, rfl⟩ := List.mem_map.mp member
  rfl

namespace Registry

section Bodies

variable {registry : Registry} {entry : Entry} {event : Event}

/-- A body gives back the fields it was made of, whatever stands behind it. -/
theorem exists_deserialize_serialize
    (known : registry.lookup event.eventType = some entry)
    (coherent : entry.Coherent)
    (legible :
      ∀ field ∈ entry.table,
        ∃ value, field.getFrom event = some value ∧ value.isLegible = true) :
    ∃ body,
      (registry.serialize event).value = .ok body ∧
        ∀ rest,
          ∃ read,
            (registry.deserialize event.eventType (body ++ rest)).value = .ok read ∧
              ∀ field ∈ entry.table, field.get read = field.getFrom event := by
  rw [value_serialize_of_entry known]
  simp only [value_deserialize_of_entry known]
  cases shape : entry.table with
  | nil => exact ⟨[], rfl, fun rest => ⟨entry.blank, rfl, List.forall_mem_nil _⟩⟩
  | cons first others =>
      rw [shape] at legible
      have member : first ∈ entry.table := shape ▸ List.mem_cons_self ..
      obtain ⟨value, found, -⟩ := legible first (List.mem_cons_self ..)
      obtain ⟨record, rfl, owned, -⟩ := Field.exists_record_of_getFrom found
      have alike : entry.blank.schema = record.schema := (coherent first member).symm.trans owned
      have readable : Readable record (first :: others) := by
        constructor
        · intro field member
          obtain ⟨value, found, -⟩ := legible field member
          exact Field.owner_of_get found
        · intro field member value got
          obtain ⟨other, found, clear⟩ := legible field member
          cases got.symm.trans found
          exact clear
      obtain ⟨body, encoded⟩ := readable.exists_encodeFields
      refine ⟨body, encoded, fun rest => ?_⟩
      obtain ⟨read, decoded, -, same, -⟩ :=
        readable.exists_decodeFields encoded record.eventType alike rest
      refine ⟨read, ?_, same⟩
      rw [Event.eventType, decoded]
      rfl

end Bodies

/--
Values are read back by their kinds from any octets that begin with their wire
forms, a body gives back the fields of its event if the entry starts from a
record of their schema, and values of the same kinds differ in their wire forms.

The values come back through the fields because a field gets what it has set.
-/
theorem fields_read_back :
    (∀ (fields : List (String × FieldValue)) (rest : Bytes),
      (∀ field ∈ fields, field.2.isLegible = true) →
      FieldValue.decodeAll (fields.map fun field => (field.1, field.2.kind))
          (FieldValue.encodeAll (fields.map Prod.snd) ++ rest) =
        (.ok (fields.map Prod.snd), rest)) ∧
      (∀ (registry : Registry) (event : Event) (entry : Entry),
        registry.lookup event.eventType = some entry →
        entry.Coherent →
        (∀ field ∈ entry.table,
          ∃ value, field.getFrom event = some value ∧ value.isLegible = true) →
        ∃ body,
          (registry.serialize event).value = .ok body ∧
            ∀ rest,
              ∃ read,
                (registry.deserialize event.eventType (body ++ rest)).value = .ok read ∧
                  ∀ field ∈ entry.table, field.get read = field.getFrom event) ∧
      ∀ values others : List FieldValue,
        values.map FieldValue.kind = others.map FieldValue.kind →
        (∀ value ∈ values, value.isLegible = true) →
        (∀ value ∈ others, value.isLegible = true) →
        FieldValue.encodeAll values = FieldValue.encodeAll others →
        values = others := by
  refine ⟨?_, ?_, ?_⟩
  · intro fields rest legible
    exact FieldValue.decodeAll_encodeAll legible rest
  · intro registry event entry known coherent legible
    exact exists_deserialize_serialize known coherent legible
  · intro values others alike legible legibleToo same
    exact FieldValue.eq_of_encodeAll_eq alike legible legibleToo same

section Samples

/-- A record whose values take up from one octet to eleven, one of them none but its NUL. -/
def mixed : Record where
  schema := Catalog.multi
  eventType := Catalog.multi.eventType
  route := ⟨3, 4⟩
  values :=
    [.boolean true, .text "hé", .double ⟨0x8000000000000000⟩, .text "",
      .double ⟨0x7FF0000000000000⟩, .timestamp (-2)]
  kinds_eq := rfl
  route_eq := nofun

def mixedRegistry : Registry where
  entries := [.ofSchema Catalog.multi]
  nodup := by decide

/-- Texts of no characters, zeros of either sign and times before the epoch are read back. -/
theorem fields_read_back_mixed :
    (∃ body,
      (mixedRegistry.serialize (.record mixed)).value = .ok body ∧
        ∃ read,
          (mixedRegistry.deserialize mixed.eventType (body ++ [0, 255])).value = .ok read ∧
            ∀ field ∈ Catalog.multi.table, field.get read = field.get mixed) ∧
      FieldValue.decodeAll [("when", .timestamp), ("text", .text)]
          (FieldValue.encodeAll [.timestamp (-2), .text ""] ++ [0, 255]) =
        (.ok [.timestamp (-2), .text ""], [0, 255]) ∧
      FieldValue.encodeAll [.text "a", .text "b"] ≠
        FieldValue.encodeAll [.text "ab", .text ""] := by
  obtain ⟨values, bodies, distinct⟩ := fields_read_back
  refine ⟨?_, ?_, ?_⟩
  · have legible :
        ∀ field ∈ Catalog.multi.table,
          ∃ value, field.getFrom (.record mixed) = some value ∧ value.isLegible = true := by
      intro field member
      have readable : Readable mixed mixed.schema.table := readable_table (by decide)
      obtain ⟨value, found, -⟩ := Field.exists_get_of_owner (readable.owned field member)
      exact ⟨value, found, readable.legible field member value found⟩
    obtain ⟨body, serialized, readBack⟩ :=
      bodies mixedRegistry (.record mixed) (.ofSchema Catalog.multi) rfl
        (Entry.coherent_ofSchema Catalog.multi) legible
    exact ⟨body, serialized, readBack [0, 255]⟩
  · exact values [("when", .timestamp (-2)), ("text", .text "")] [0, 255] (by decide)
  · intro same
    have equal :=
      distinct [.text "a", .text "b"] [.text "ab", .text ""] rfl (by decide) (by decide) same
    exact absurd equal (by decide)

/-- A registry that has the fields of lines for lines but starts from remarks. -/
def foreign : Registry where
  entries := [{ Entry.ofSchema Catalog.log with blank := Catalog.note.blank }]
  nodup := by decide

def line : Record where
  schema := Catalog.log
  eventType := Catalog.log.eventType
  route := Route.none
  values := [.unsigned 7, .text "up"]
  kinds_eq := rfl
  route_eq := fun _ => rfl

/-- An entry that starts from a record of another schema makes bodies but reads none back. -/
theorem not_read_back_by_foreign :
    (∀ value ∈ line.values, value.isLegible = true) ∧
      (foreign.serialize (.record line)).value = .ok [0, 0, 0, 7, 117, 112, 0] ∧
      (foreign.deserialize line.eventType [0, 0, 0, 7, 117, 112, 0]).value =
        .error (.accessorMismatch ⟨3, 1⟩ "host") := by
  exact ⟨by decide, rfl, rfl⟩

end Samples

end Registry

end EventWire
