import EventWire.Event.Field
import EventWire.Text.Quoted

namespace EventWire

/-!
# Schemas, records and events

A schema says which fields a kind of record has, under which event type its
records usually travel, and whether they remember the route a frame came by.
A record is a schema together with fitting values.  An event is a record or an
opaque payload.  A field of a schema reads and writes records of that very
schema and of no other, whatever event type a record reports.
-/

/-- Where an event comes from and where it goes. -/
structure Route where
  source : UInt32
  destination : UInt32
  deriving DecidableEq

namespace Route

/-- The route of records that keep none. -/
def none : Route := ⟨0, 0⟩

end Route

/-- What a kind of record consists of. -/
structure Schema where
  name : String
  eventType : EventType
  routed : Bool
  fields : List (String × FieldKind)
  deriving DecidableEq

/-- A schema together with a value of the right kind for each of its fields. -/
structure Record where
  schema : Schema
  eventType : EventType
  route : Route
  values : List FieldValue
  /-- Each value has the kind its field asks for. -/
  kinds_eq : values.map FieldValue.kind = schema.fields.map Prod.snd
  /-- A record that keeps no route reports none. -/
  route_eq : schema.routed = false → route = Route.none
  deriving DecidableEq

namespace Schema

/-- The record of a schema none of whose fields has been given a value. -/
def blank (schema : Schema) : Record where
  schema := schema
  eventType := schema.eventType
  route := Route.none
  values := schema.fields.map fun field => field.2.blank
  kinds_eq := by simp
  route_eq := fun _ => rfl

end Schema

namespace Record

/-- The same record under the route of the frame it came in, if it keeps one. -/
def setRoute (record : Record) (route : Route) : Record :=
  if routed : record.schema.routed = true then
    { record with
      route := route
      route_eq := fun unrouted => absurd routed (by simp [unrouted]) }
  else record

/-- The same record, reporting another event type. -/
def retyped (record : Record) (eventType : EventType) : Record :=
  { record with eventType := eventType }

end Record

/--
One field of a schema: a place among the values of the schema's records.

A field gets the value at its place and sets the value at that place, so its
getter and its setter agree: what it has set is what it gets afterwards.  A
getter and a setter of different values do not make a field.
-/
structure Field where
  owner : Schema
  slot : Fin owner.fields.length

namespace Field

/-- The field's name. -/
def name (field : Field) : String :=
  (field.owner.fields.get field.slot).1

/-- The kind of the field's values. -/
def kind (field : Field) : FieldKind :=
  (field.owner.fields.get field.slot).2

/-- How a field is described: its name and its kind. -/
def description (field : Field) : String :=
  "Field \x7b name: " ++ Text.Quoted.encode field.name ++ ", kind: " ++ field.kind.name ++
    ", .. \x7d"

/-- The field's value in a record of its schema. -/
def get (field : Field) (record : Record) : Option FieldValue :=
  if record.schema = field.owner then record.values[field.slot.val]? else none

/-- Replacing a value by one of the same kind keeps the list of kinds. -/
theorem map_kind_set
    {values : List FieldValue}
    {kinds : List FieldKind}
    (kindsEq : values.map FieldValue.kind = kinds)
    (slot : Nat)
    (value : FieldValue)
    (fits : ∀ kind, kinds[slot]? = some kind → value.kind = kind) :
    (values.set slot value).map FieldValue.kind = kinds := by
  rw [List.map_set, kindsEq]
  by_cases inside : slot < kinds.length
  · rw [fits kinds[slot] (List.getElem?_eq_getElem inside)]
    exact List.set_getElem_self inside
  · exact List.set_eq_of_length_le (Nat.le_of_not_lt inside)

/-- A record of the field's schema with another value of the field's kind. -/
def set (field : Field) (value : FieldValue) (record : Record) : Option Record :=
  if fits : record.schema = field.owner ∧ value.kind = field.kind then
    some
      { record with
        values := record.values.set field.slot.val value
        kinds_eq := by
          obtain ⟨sameSchema, sameKind⟩ := fits
          apply map_kind_set record.kinds_eq
          intro kind found
          rw [sameSchema] at found
          rw [sameKind, Field.kind]
          simpa using found }
  else none

end Field

namespace Schema

/-- All fields of a schema in order. -/
def table (schema : Schema) : List Field :=
  (List.finRange schema.fields.length).map (Field.mk schema)

end Schema

/-- What a stream carries: a record, or octets that mean nothing to it. -/
inductive Event where
  | record (record : Record)
  | raw (data : Bytes)
  deriving DecidableEq

namespace Event

/-- The type that an event reports. -/
def eventType : Event → EventType
  | .record fields => fields.eventType
  | .raw _ => EventType.raw

/-- The route that an event reports. -/
def route : Event → Route
  | .record fields => fields.route
  | .raw _ => Route.none

end Event

namespace Field

/-- The field's value in an event, if the event is a record of the field's schema. -/
def getFrom (field : Field) : Event → Option FieldValue
  | .record record => field.get record
  | .raw _ => none

/-- The event with another value of the field, if it is a record of the field's schema. -/
def setIn (field : Field) (value : FieldValue) : Event → Option Event
  | .record record => (field.set value record).map Event.record
  | .raw _ => none

end Field

end EventWire
