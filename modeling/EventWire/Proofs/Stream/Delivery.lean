import EventWire.Proofs.Protocol.Appending
import EventWire.Proofs.Stream.Reading

namespace EventWire

/-!
# What a reader makes of what is written

Two ends share a registry.  The parcel of a user's record that is of the kind
registered for its type is opened as a record with the same fields, and the
parcel of an event of the protocol itself never as a user's record.
-/

open EventWire.Frame

namespace Registry

/-- A record is of the kind that is registered for its type, and can be read back. -/
structure Regular (registry : Registry) (record : Record) : Prop where
  ofKind :
    ∀ entry,
      registry.lookup record.eventType = some entry →
        entry.blank.schema = record.schema ∧ entry.blank.eventType = record.eventType
  numeric : ∀ number, FieldValue.double number ∈ record.values → number.isNaN = false

/-- A record is returned as it was written, as far as the fields of its type go. -/
def Delivers (registry : Registry) (written : Record) (returned : Event) : Prop :=
  ∃ read,
    returned = .record read ∧
      registry.Recovers written (some read) ∧ read.eventType = written.eventType

section Bodies

variable {record : Record}

/-- A record that has a body and no NaN can be read back. -/
theorem readable_of_encodeFields
    {table : List Field}
    {body : Bytes}
    (numeric : ∀ number, FieldValue.double number ∈ record.values → number.isNaN = false)
    (encoded : encodeFields (.record record) table = .ok body) :
    Readable record table := by
  induction table generalizing body with
  | nil => exact ⟨List.forall_mem_nil _, List.forall_mem_nil _⟩
  | cons field rest inductionHypothesis =>
      obtain ⟨value, behind, found, clean, encodedBehind, -⟩ :=
        encodeFields_cons_eq_ok_iff.mp encoded
      have got : field.get record = some value := found
      have owned : field.owner = record.schema := Field.owner_of_get got
      have legible : value.isLegible = true := by
        rw [Field.get_of_owner owned] at got
        cases value with
        | text text =>
            rw [FieldValue.isLegible, Bool.not_eq_true']
            exact clean
        | double number =>
            rw [FieldValue.isLegible, numeric number (List.mem_of_getElem? got)]
            rfl
        | _ => rfl
      have readable := inductionHypothesis encodedBehind
      constructor
      · exact List.forall_mem_cons.mpr ⟨owned, readable.owned⟩
      · refine List.forall_mem_cons.mpr ⟨?_, readable.legible⟩
        rintro _ same
        cases got.symm.trans same
        exact legible

/-- Fields read from a body leave a record the type it reports. -/
theorem eventType_of_decodeFields
    {eventType : EventType}
    {table : List Field}
    {read : Record}
    {body surplus : Bytes}
    (decoded : decodeFields eventType table record body = .ok (read, surplus)) :
    read.eventType = record.eventType := by
  induction table generalizing record body with
  | nil =>
      cases decoded
      rfl
  | cons field rest inductionHypothesis =>
      rw [decodeFields] at decoded
      split at decoded
      · cases decoded
      · split at decoded
        · cases decoded
        · next changed isSet =>
            rw [inductionHypothesis decoded]
            rw [Field.set] at isSet
            split at isSet
            · cases isSet
              rfl
            · cases isSet

theorem exists_entry_of_deserialize
    {registry : Registry}
    {eventType : EventType}
    {body : Bytes}
    {read : Record}
    (deserialized : (registry.deserialize eventType body).value = .ok read) :
    ∃ entry,
      registry.lookup eventType = some entry ∧ read.eventType = entry.blank.eventType := by
  rw [deserialize] at deserialized
  split at deserialized
  · cases deserialized
  · next entry known =>
      split at deserialized
      · cases deserialized
      · next decoded =>
          cases deserialized
          exact ⟨entry, known, eventType_of_decodeFields decoded⟩

end Bodies

end Registry

/-- The user's record that an event is. -/
def Event.userRecord? : Event → Option Record
  | .record fields => if fields.eventType.isControl then none else some fields
  | .raw _ => none

theorem Record.eventType_setRoute (record : Record) (route : Route) :
    (record.setRoute route).eventType = record.eventType := by
  rw [setRoute]
  split <;> rfl

/-- Readers with the same registry can return an event, if it is a user's. -/
def Registry.Welcomes (registry : Registry) (event : Event) : Prop :=
  ∀ record ∈ event.userRecord?, registry.Regular record

namespace Codec

/-- The events that a reader returns of parcels, the oldest first. -/
def userEvents (codec : Codec) (parcels : List Parcel) : List Event :=
  (parcels.filterMap codec.userRecord?).map .record

theorem userEvents_append (codec : Codec) (parcels others : List Parcel) :
    codec.userEvents (parcels ++ others) = codec.userEvents parcels ++ codec.userEvents others := by
  rw [userEvents, List.filterMap_append, List.map_append, userEvents, userEvents]

/-- A parcel is that of an event. -/
structure Encodes (codec : Codec) (event : Event) (parcel : Parcel) : Prop where
  identity_eq : parcel.identity = ⟨event.eventType, event.route⟩
  body_eq : ((codec.registryFor event.eventType).serialize event).value = .ok parcel.body

section Appending

variable {codec : Codec}

/-- Appending an event that has a parcel appends the frames of this parcel. -/
theorem Encodes.exists_append
    {event : Event}
    {parcel : Parcel}
    (encodes : codec.Encodes event parcel)
    (framed : codec.termination = .emptyFrame) :
    ∃ count, (codec.append event []).value = (.ok count, parcel.wire) := by
  refine ⟨(frames ⟨event.eventType, event.route⟩ codec.termination parcel.body).length, ?_⟩
  rw [append, Noted.value_bind, encodes.body_eq, Parcel.wire, ← framed, encodes.identity_eq]
  rfl

/-- Appending an event fails, or appends the frames of its parcel. -/
theorem value_append_cases
    (framed : codec.termination = .emptyFrame)
    (event : Event) :
    (∃ error, (codec.append event []).value = (.error error, [])) ∨
      ∃ parcel count,
        codec.Encodes event parcel ∧ (codec.append event []).value = (.ok count, parcel.wire) := by
  rcases append_cases codec event [] with failed | ⟨body, serialized, -⟩
  · exact .inl failed
  · have encodes : codec.Encodes event ⟨⟨event.eventType, event.route⟩, body⟩ := ⟨rfl, serialized⟩
    obtain ⟨count, appended⟩ := encodes.exists_append framed
    exact .inr ⟨_, count, encodes, appended⟩

end Appending

section Opening

variable {codec : Codec}

/-- What is opened reports the type of the record that the registry starts from. -/
theorem exists_entry_of_open?
    {parcel : Parcel}
    {read : Record}
    (opened : (codec.open? parcel).value = some read) :
    ∃ entry,
      (codec.registryFor parcel.identity.eventType).lookup parcel.identity.eventType =
          some entry ∧
        read.eventType = entry.blank.eventType := by
  rw [open?, Noted.value_bind] at opened
  split at opened
  · next record deserialized =>
      cases opened
      obtain ⟨entry, known, sameType⟩ := Registry.exists_entry_of_deserialize deserialized
      exact ⟨entry, known, (Record.eventType_setRoute _ _).trans sameType⟩
  · cases opened
  · cases opened

/-- No parcel of an event of the protocol itself is opened as a user's record. -/
theorem userRecord?_of_control
    (standard : codec.control = Registry.control.value)
    {parcel : Parcel}
    (control : parcel.identity.eventType.isControl = true) :
    codec.userRecord? parcel = none := by
  have controlled :
      ∀ entry ∈ Registry.control.value.entries, entry.blank.eventType.isControl = true := by
    decide
  rw [userRecord?, Option.filter_eq_none_iff]
  intro record opened
  obtain ⟨entry, known, sameType⟩ := exists_entry_of_open? opened
  rw [registryFor, if_pos control, standard] at known
  rw [sameType, controlled entry (List.mem_of_find?_eq_some known)]
  exact Bool.false_ne_true

/-- The parcel of a regular user's record is opened as this record. -/
theorem exists_userRecord?_of_encodes
    {writer : Codec}
    {record : Record}
    {parcel : Parcel}
    (shared : writer.registry = codec.registry)
    (ordinary : record.eventType.isControl = false)
    (regular : codec.registry.Regular record)
    (encodes : writer.Encodes (.record record) parcel) :
    ∃ read,
      codec.userRecord? parcel = some read ∧ codec.registry.Delivers record (.record read) := by
  have typed : parcel.identity.eventType = record.eventType := by
    rw [encodes.identity_eq]
    rfl
  have serialized := encodes.body_eq
  have usersRegistry :
      writer.registryFor (Event.record record).eventType = codec.registry :=
    (registryFor_of_ordinary ordinary).trans shared
  rw [usersRegistry] at serialized
  cases known : codec.registry.lookup record.eventType with
  | none =>
      rw [Registry.serialize,
        show codec.registry.lookup (Event.record record).eventType = none from known] at serialized
      cases serialized
  | some entry =>
      obtain ⟨ofKind, ofType⟩ := regular.ofKind entry known
      have readable :=
        Registry.readable_of_encodeFields regular.numeric
          ((Registry.value_serialize known).symm.trans serialized)
      have sendable : codec.registry.Sendable parcel.body.length record := by
        refine ⟨ordinary, ⟨entry, known, ofKind, readable⟩, ?_⟩
        intro other same
        cases serialized.symm.trans same
        exact Nat.le_refl _
      have agrees : codec.registry.Agrees codec.registry := by
        intro eventType written read first second
        cases first.symm.trans second
        exact ⟨rfl, rfl⟩
      have recovers := recovers_open? agrees sendable ⟨encodes.identity_eq, serialized⟩
      cases opened : (codec.open? parcel).value with
      | none =>
          rw [opened, Registry.Recovers, known] at recovers
          obtain ⟨_, missing, -⟩ := recovers
          cases missing
      | some read =>
          rw [opened] at recovers
          obtain ⟨other, knownAgain, reported⟩ := exists_entry_of_open? opened
          rw [typed, registryFor_of_ordinary ordinary] at knownAgain
          cases known.symm.trans knownAgain
          have sameType : read.eventType = record.eventType := reported.trans ofType
          refine ⟨read, ?_, read, rfl, recovers, sameType⟩
          rw [userRecord?, opened, Option.filter_some, sameType, ordinary]
          rfl

/-- What is read of an event is what there is to deliver of it. -/
theorem Encodes.forall₂_delivers
    {writer : Codec}
    {event : Event}
    {parcel : Parcel}
    (encodes : writer.Encodes event parcel)
    (shared : writer.registry = codec.registry)
    (standard : codec.control = Registry.control.value)
    (welcome : codec.registry.Welcomes event) :
    List.Forall₂ codec.registry.Delivers ([event].filterMap Event.userRecord?)
      (codec.userEvents [parcel]) := by
  rw [userEvents]
  cases control : event.eventType.isControl with
  | true =>
      have nothing : event.userRecord? = none := by
        cases event with
        | record fields => exact if_pos control
        | raw _ => rfl
      rw [List.filterMap_cons_none nothing, List.filterMap_cons_none
        (userRecord?_of_control standard (by rw [encodes.identity_eq]; exact control))]
      exact .nil
  | false =>
      cases event with
      | raw _ => exact nomatch control
      | record record =>
          have users : (Event.record record).userRecord? = some record :=
            if_neg (Bool.eq_false_iff.mp control)
          obtain ⟨read, opened, delivers⟩ :=
            exists_userRecord?_of_encodes shared control (welcome record users) encodes
          rw [List.filterMap_cons_some users, List.filterMap_cons_some opened]
          exact .cons delivers .nil

/-- Nothing is returned of the events of the protocol itself. -/
theorem userEvents_of_control
    (standard : codec.control = Registry.control.value)
    {parcels : List Parcel}
    (control : ∀ parcel ∈ parcels, parcel.identity.eventType.isControl = true) :
    codec.userEvents parcels = [] := by
  rw [userEvents, List.map_eq_nil_iff, List.filterMap_eq_nil_iff]
  exact fun parcel member => userRecord?_of_control standard (control parcel member)

end Opening

end Codec

/-- A parcel is that of an event wherever the registry is used. -/
def Registry.Encodes (registry : Registry) (event : Event) (parcel : Parcel) : Prop :=
  ∀ codec : Codec,
    codec.registry = registry →
    codec.control = control.value →
    codec.Encodes event parcel

end EventWire
