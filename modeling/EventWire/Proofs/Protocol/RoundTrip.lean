import EventWire.Proofs.Event.Table
import EventWire.Proofs.Frame.Sending
import EventWire.Protocol.Codec
import Mathlib.Data.List.Forall2

namespace EventWire

/-!
# Records across a connection

One end appends the frames of records to what it sends, the other takes the
parcels out of what has arrived and opens them.  The two ends need not know the
same event types.  As long as they agree on those that both know, the second
end gets every record whose type it knows with its values and its route.
-/

namespace Registry

/-- Two registries have the same fields and the same kind of record for a shared type. -/
def Agrees (writer reader : Registry) : Prop :=
  ∀ (eventType : EventType) (written read : Entry),
    writer.lookup eventType = some written →
    reader.lookup eventType = some read →
    read.table = written.table ∧ read.blank.schema = written.blank.schema

/-- A record of the kind registered for its type, which has a body that can be read back. -/
structure Sendable (writer : Registry) (maxEventSize : Nat) (record : Record) : Prop where
  ordinary : record.eventType.isControl = false
  registered :
    ∃ entry,
      writer.lookup record.eventType = some entry ∧
        entry.blank.schema = record.schema ∧
        Readable record entry.table
  fits :
    ∀ body,
      (writer.serialize (.record record)).value = .ok body →
      body.length ≤ maxEventSize

/-- What opening the parcel of a record gives: the record as far as its type is known. -/
def Recovers (reader : Registry) (record : Record) (opened : Option Record) : Prop :=
  match reader.lookup record.eventType with
  | none => opened = none
  | some entry =>
      ∃ read,
        opened = some read ∧
          read.schema = record.schema ∧
          read.route = record.route ∧
          ∀ field ∈ entry.table, field.get read = field.get record

section Bodies

variable {registry : Registry} {eventType : EventType} {entry : Entry}

theorem value_serialize
    {record : Record}
    (known : registry.lookup record.eventType = some entry) :
    (registry.serialize (.record record)).value = encodeFields (.record record) entry.table :=
  @value_serialize_of_entry _ _ (.record record) known

theorem value_deserialize
    {body surplus : Bytes}
    {read : Record}
    (known : registry.lookup eventType = some entry)
    (decoded : decodeFields eventType entry.table entry.blank body = .ok (read, surplus)) :
    (registry.deserialize eventType body).value = .ok read := by
  rw [value_deserialize_of_entry known, decoded]
  rfl

theorem value_deserialize_of_unknown
    (unknown : registry.lookup eventType = none)
    (body : Bytes) :
    (registry.deserialize eventType body).value = .error (.unknownType eventType) := by
  rw [deserialize, unknown]
  rfl

end Bodies

theorem Sendable.exists_serialize
    {writer : Registry}
    {maxEventSize : Nat}
    {record : Record}
    (sendable : writer.Sendable maxEventSize record) :
    ∃ body,
      (writer.serialize (.record record)).value = .ok body ∧
        body.length ≤ maxEventSize := by
  obtain ⟨entry, known, -, readable⟩ := sendable.registered
  obtain ⟨body, encoded⟩ := readable.exists_encodeFields
  have serialized := (value_serialize known).trans encoded
  exact ⟨body, serialized, sendable.fits body serialized⟩

end Registry

theorem Record.schema_setRoute (record : Record) (route : Route) :
    (record.setRoute route).schema = record.schema := by
  rw [setRoute]
  split_ifs <;> rfl

theorem Record.values_setRoute (record : Record) (route : Route) :
    (record.setRoute route).values = record.values := by
  rw [setRoute]
  split_ifs <;> rfl

/-- Under the route of a record of the same schema, a record reports the same route. -/
theorem Record.route_setRoute
    {read record : Record}
    (alike : read.schema = record.schema) :
    (read.setRoute record.route).route = record.route := by
  rw [setRoute]
  split_ifs with routed
  · rfl
  · have unrouted : read.schema.routed = false := Bool.eq_false_of_not_eq_true routed
    rw [read.route_eq unrouted, record.route_eq (alike ▸ unrouted)]

theorem Field.get_setRoute
    (field : Field)
    (record : Record)
    (route : Route) :
    field.get (record.setRoute route) = field.get record := by
  rw [get, get, Record.schema_setRoute, Record.values_setRoute]

namespace Codec

/-- Append the frames of events one after the other; the first that has no body ends it. -/
def appendAll (codec : Codec) : List Event → Bytes → Noted (Except ProtocolError Bytes)
  | [], written => .silent (.ok written)
  | event :: rest, written => do
    match ← codec.append event written with
    | (.error error, _) => return .error error
    | (.ok _, longer) => codec.appendAll rest longer

/-- A parcel is that of a record: it names the record's type and route and holds its body. -/
structure Carries (writer : Registry) (record : Record) (parcel : Frame.Parcel) : Prop where
  identity_eq : parcel.identity = ⟨record.eventType, record.route⟩
  body_eq : (writer.serialize (.record record)).value = .ok parcel.body

section Writing

variable {codec : Codec} {record : Record} {parcel : Frame.Parcel}

theorem registryFor_of_ordinary
    {eventType : EventType}
    (ordinary : eventType.isControl = false) :
    codec.registryFor eventType = codec.registry := by
  rw [registryFor, ordinary]
  rfl

/-- What is appended for a record is what carries its parcel. -/
theorem value_append
    (framed : codec.termination = .emptyFrame)
    (ordinary : record.eventType.isControl = false)
    (carried : Carries codec.registry record parcel)
    (written : Bytes) :
    ∃ count,
      (codec.append (.record record) written).value = (.ok count, written ++ parcel.wire) := by
  have serialized :
      ((codec.registryFor (Event.record record).eventType).serialize (.record record)).value =
        .ok parcel.body := by
    have registryIsUsers :
        codec.registryFor (Event.record record).eventType = codec.registry :=
      registryFor_of_ordinary ordinary
    rw [registryIsUsers]
    exact carried.body_eq
  rw [append, Noted.value_bind, serialized, framed, Frame.Parcel.wire, carried.identity_eq]
  exact ⟨_, rfl⟩

theorem value_appendAll
    {records : List Record}
    {parcels : List Frame.Parcel}
    (framed : codec.termination = .emptyFrame)
    (ordinary : ∀ record ∈ records, record.eventType.isControl = false)
    (carried : List.Forall₂ (Carries codec.registry) records parcels)
    (written : Bytes) :
    (codec.appendAll (records.map .record) written).value =
      .ok (written ++ parcels.flatMap Frame.Parcel.wire) := by
  induction carried generalizing written with
  | nil =>
      rw [List.flatMap_nil, List.append_nil]
      rfl
  | cons first _ inductionHypothesis =>
      rw [List.forall_mem_cons] at ordinary
      obtain ⟨count, appended⟩ := value_append framed ordinary.1 first written
      rw [List.map_cons, appendAll, Noted.value_bind, appended]
      dsimp only
      rw [inductionHypothesis ordinary.2, List.flatMap_cons, List.append_assoc]

end Writing

section Opening

variable {codec : Codec} {writer : Registry} {maxEventSize : Nat}
variable {record : Record} {parcel : Frame.Parcel}

theorem value_open?_of_unknown
    (ordinary : parcel.identity.eventType.isControl = false)
    (unknown : codec.registry.lookup parcel.identity.eventType = none) :
    (codec.open? parcel).value = none := by
  rw [open?, Noted.value_bind, registryFor_of_ordinary ordinary,
    Registry.value_deserialize_of_unknown unknown]
  rfl

theorem value_open?_of_deserialize
    {read : Record}
    (ordinary : parcel.identity.eventType.isControl = false)
    (deserialized :
      (codec.registry.deserialize parcel.identity.eventType parcel.body).value = .ok read) :
    (codec.open? parcel).value = some (read.setRoute parcel.identity.route) := by
  rw [open?, Noted.value_bind, registryFor_of_ordinary ordinary, deserialized]
  rfl

/-- Opening the parcel of a record recovers the record. -/
theorem recovers_open?
    (agrees : writer.Agrees codec.registry)
    (sendable : writer.Sendable maxEventSize record)
    (carried : Carries writer record parcel) :
    codec.registry.Recovers record (codec.open? parcel).value := by
  obtain ⟨identity, body⟩ := parcel
  obtain ⟨rfl, serialized⟩ := carried
  rw [Registry.Recovers]
  cases known : codec.registry.lookup record.eventType with
  | none => exact value_open?_of_unknown sendable.ordinary known
  | some entry =>
      obtain ⟨written, knownToWriter, ofKind, readable⟩ := sendable.registered
      obtain ⟨sameTable, sameKind⟩ := agrees _ _ _ knownToWriter known
      rw [Registry.value_serialize knownToWriter, ← sameTable] at serialized
      rw [← sameTable] at readable
      obtain ⟨read, decoded, alike, same, -⟩ :=
        readable.exists_decodeFields serialized record.eventType (sameKind.trans ofKind) []
      rw [List.append_nil] at decoded
      refine ⟨read.setRoute record.route, ?_, ?_, ?_, ?_⟩
      · exact value_open?_of_deserialize sendable.ordinary
          (Registry.value_deserialize known decoded)
      · rw [Record.schema_setRoute, alike]
      · exact Record.route_setRoute alike
      · intro field member
        rw [Field.get_setRoute]
        exact same field member

end Opening

section RoundTrip

variable {writer reader : Registry} {maxEventSize : Nat} {records : List Record}

theorem exists_carries
    (sendable : ∀ record ∈ records, writer.Sendable maxEventSize record) :
    ∃ parcels,
      List.Forall₂ (Carries writer) records parcels ∧
        ∀ parcel ∈ parcels, parcel.body.length ≤ maxEventSize := by
  induction records with
  | nil => exact ⟨[], .nil, nofun⟩
  | cons record rest inductionHypothesis =>
      rw [List.forall_mem_cons] at sendable
      obtain ⟨body, serialized, fits⟩ := sendable.1.exists_serialize
      obtain ⟨parcels, carried, small⟩ := inductionHypothesis sendable.2
      refine ⟨⟨⟨record.eventType, record.route⟩, body⟩ :: parcels, .cons ⟨rfl, serialized⟩ carried,
        ?_⟩
      rw [List.forall_mem_cons]
      exact ⟨fits, small⟩

/--
Records appended by one end and drained by the other arrive one for one and in
order, each under its own type and route, and opening what arrived recovers them.
-/
theorem drain_push_appendAll
    (agrees : writer.Agrees reader)
    (sendable : ∀ record ∈ records, writer.Sendable maxEventSize record) :
    let sender := (ofRegistry writer .emptyFrame maxEventSize).value
    let receiver := (ofRegistry reader .emptyFrame maxEventSize).value
    ∃ wire,
      (sender.appendAll (records.map .record) []).value = .ok wire ∧
        let drained := ((receiver.decoder.push wire).drain false).value
        List.Forall₂
            (fun record parcel =>
              parcel.identity = ⟨record.eventType, record.route⟩ ∧
                reader.Recovers record (receiver.open? parcel).value)
            records drained.1 ∧
          drained.2.skipped = 0 ∧
          drained.2.buffer = [] := by
  intro sender receiver
  obtain ⟨parcels, carried, small⟩ := exists_carries sendable
  refine ⟨parcels.flatMap Frame.Parcel.wire, ?_, ?_⟩
  · exact value_appendAll rfl (fun record member => (sendable record member).ordinary) carried []
  have drained :=
    Frame.Decoder.drain_push_frames .emptyFrame maxEventSize
      (parcels.flatMap Frame.Parcel.carriers)
  rw [Frame.Parcel.flatMap_carriers, Frame.Reassembly.run_flatMap_carriers small] at drained
  obtain ⟨arrived, skipped, buffer⟩ := drained
  refine ⟨?_, skipped, buffer⟩
  have arrivedHere : ((receiver.decoder.push _).drain false).value.1 = parcels := arrived
  rw [arrivedHere]
  refine ((List.forall₂_and_left _ _).mpr ⟨sendable, carried⟩).imp ?_
  rintro record parcel ⟨isSendable, isCarried⟩
  have recovers : receiver.registry.Recovers record (receiver.open? parcel).value :=
    recovers_open? agrees isSendable isCarried
  exact ⟨isCarried.identity_eq, recovers⟩

end RoundTrip

section Sample

def sampleSchema : Schema where
  name := "Sample"
  eventType := ⟨7, 1⟩
  routed := true
  fields := [("sequence", .unsigned), ("note", .text), ("level", .double)]

def tickSchema : Schema where
  name := "Tick"
  eventType := ⟨7, 2⟩
  routed := false
  fields := []

def sample : Record where
  schema := sampleSchema
  eventType := ⟨7, 1⟩
  route := ⟨3, 4⟩
  values := [.unsigned 5, .text "up", .double ⟨0⟩]
  kinds_eq := rfl
  route_eq := nofun

def sampleWriter : Registry where
  entries := [.ofSchema sampleSchema, .ofSchema tickSchema]
  nodup := by decide

def sampleReader : Registry where
  entries := [.ofSchema sampleSchema]
  nodup := by decide

theorem agrees_sampleReader : sampleWriter.Agrees sampleReader := by
  intro eventType written read known knownToReader
  have member := List.mem_of_find?_eq_some knownToReader
  have typed := List.find?_some knownToReader
  rw [sampleReader, List.mem_singleton] at member
  subst member
  obtain rfl := of_decide_eq_true typed
  cases known
  exact ⟨rfl, rfl⟩

theorem serialize_sample :
    (sampleWriter.serialize (.record sample)).value =
      .ok [0, 0, 0, 5, 117, 112, 0, 48, 0] :=
  rfl

theorem sendable_sample : sampleWriter.Sendable 9 sample where
  ordinary := by decide
  registered :=
    ⟨.ofSchema sampleSchema, rfl, rfl, @Registry.readable_table sample (by decide)⟩
  fits := by
    intro body serialized
    rw [serialize_sample] at serialized
    cases serialized
    decide

theorem sendable_tick : sampleWriter.Sendable 9 tickSchema.blank where
  ordinary := by decide
  registered :=
    ⟨.ofSchema tickSchema, rfl, rfl, @Registry.readable_table tickSchema.blank (by decide)⟩
  fits := by
    intro body serialized
    cases serialized
    decide

/-- A reader that knows one of two types recovers the record of this type and no other. -/
theorem drain_push_appendAll_sample :
    let sender := (ofRegistry sampleWriter .emptyFrame 9).value
    let receiver := (ofRegistry sampleReader .emptyFrame 9).value
    ∃ wire,
      (sender.appendAll [.record sample, .record tickSchema.blank] []).value = .ok wire ∧
        let drained := ((receiver.decoder.push wire).drain false).value
        ∃ first second,
          drained.1 = [first, second] ∧
            sampleReader.Recovers sample (receiver.open? first).value ∧
            (receiver.open? second).value = none := by
  intro sender receiver
  have sendable :
      ∀ record ∈ [sample, tickSchema.blank], sampleWriter.Sendable 9 record := by
    rw [List.forall_mem_cons, List.forall_mem_singleton]
    exact ⟨sendable_sample, sendable_tick⟩
  obtain ⟨wire, appended, arrived, -, -⟩ := drain_push_appendAll agrees_sampleReader sendable
  refine ⟨wire, appended, ?_⟩
  intro drained
  obtain ⟨first, later, ⟨-, recovered⟩, arrivedLater, shape⟩ :=
    List.forall₂_cons_left_iff.mp arrived
  obtain ⟨second, others, ⟨-, skipped⟩, arrivedOthers, rfl⟩ :=
    List.forall₂_cons_left_iff.mp arrivedLater
  obtain rfl := List.forall₂_nil_left_iff.mp arrivedOthers
  exact ⟨first, second, shape, recovered, skipped⟩

end Sample

end Codec

end EventWire
